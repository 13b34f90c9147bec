import Mathlib
import MessageTemplate.Locale.Basic

/-! # Turkic case mapping

Away from the letters `i`, the Turkic mappings take each character to what the others take it to.
Upper case is the same then. Lower case is not quite: only the mapping that is not Turkic looks
around a capital sigma and gives it its final form at the end of a word
(`Locale.agreesOutsideI`). -/

namespace MessageTemplate

open MessageTemplate.Character

namespace Casing

/-! ## The end of a word -/

/-- Whether a text starts with a letter that has a case, behind characters that are looked
through. -/
def StartsWithLetter (text : List Char) : Prop :=
  ∃ ignored letter rest, text = ignored ++ letter :: rest ∧
    (∀ character ∈ ignored, isCaseIgnorable character = true) ∧
    isCaseIgnorable letter = false ∧ isCased letter = true

/-- Whether a text has a capital sigma at the end of a word: a letter stands before it, read
backwards, and none behind it. -/
def HasFinalSigma (text : List Char) : Prop :=
  ∃ before after, text = before ++ 'Σ' :: after ∧
    StartsWithLetter before.reverse ∧ ¬StartsWithLetter after

/-- Looking for a cased letter skips what is ignored between letters and nothing else. -/
theorem startsCased_iff (text : List Char) : startsCased text = true ↔ StartsWithLetter text := by
  constructor
  · intro cased
    rw [startsCased] at cased
    split at cased
    next => cases cased
    next letter rest isRest =>
      have notIgnorable :=
        List.head_dropWhile_not isCaseIgnorable (isRest ▸ List.cons_ne_nil letter rest)
      simp only [isRest, List.head_cons] at notIgnorable
      have isText : text = text.takeWhile isCaseIgnorable ++ letter :: rest := by
        rw [← isRest, List.takeWhile_append_dropWhile]
      exact ⟨_, letter, rest, isText, fun _ member => List.mem_takeWhile_imp member, notIgnorable,
        cased⟩
  · rintro ⟨ignored, letter, rest, rfl, allIgnorable, notIgnorable, cased⟩
    have isRest : (ignored ++ letter :: rest).dropWhile isCaseIgnorable = letter :: rest := by
      rw [List.dropWhile_append_of_pos allIgnorable,
        List.dropWhile_cons_of_neg (Bool.eq_false_iff.mp notIgnorable)]
    rw [startsCased, isRest]
    exact cased

/-- A capital sigma keeps its form but at the end of a word. -/
theorem smallSigma_eq_iff (before after : List Char) :
    smallSigma before after = 'σ' ↔ ¬(StartsWithLetter before ∧ ¬StartsWithLetter after) := by
  rw [← startsCased_iff, ← startsCased_iff, smallSigma]
  cases startsCased before <;> cases startsCased after <;> decide

/-! ## Lower case character by character -/

/-- On its own, a capital sigma becomes the sigma that stands within words. -/
theorem lowerChar_sigma : lowerChar 'Σ' = ['σ'] := by decide +kernel

/-- Lower case is that of the characters by themselves, unless a capital sigma ends a word. -/
theorem lowerAfter_eq_iff (before text : List Char) :
    lowerAfter before text = text.flatMap lowerChar ↔
      ∀ front after, text = front ++ 'Σ' :: after →
        smallSigma (front.reverse ++ before) after = 'σ' := by
  induction text generalizing before with
  | nil => exact iff_of_true rfl fun front after isText => by simp at isText
  | cons first text inductionHypothesis =>
      have sameLength :
          (if first = 'Σ' then [smallSigma before text] else lowerChar first).length =
            (lowerChar first).length := by
        split
        next isSigma => rw [isSigma, lowerChar_sigma]; rfl
        next => rfl
      have atFirst : (if first = 'Σ' then [smallSigma before text] else lowerChar first) =
          lowerChar first ↔ (first = 'Σ' → smallSigma before text = 'σ') := by
        split
        next isSigma => simp [isSigma, lowerChar_sigma]
        next notSigma => simp [notSigma]
      rw [lowerAfter, List.flatMap_cons, List.append_eq_append_iff_of_size_eq_left sameLength,
        atFirst, inductionHypothesis]
      constructor
      · rintro ⟨here, later⟩ front after isText
        cases front with
        | nil =>
            cases isText
            exact here rfl
        | cons other front =>
            cases isText
            simpa using later front after rfl
      · intro everywhere
        refine ⟨fun isSigma => everywhere [] text (isSigma ▸ rfl), fun front after isText => ?_⟩
        simpa using everywhere (first :: front) after (isText ▸ rfl)

/-- Mapping characters one by one is the usual lower case exactly where no sigma ends a word. -/
theorem lower_false_eq_iff (text : List Char) :
    text.flatMap lowerChar = lower false text ↔ ¬HasFinalSigma text := by
  rw [eq_comm, lower, if_neg Bool.false_ne_true, lowerAfter_eq_iff]
  simp only [List.append_nil, smallSigma_eq_iff, HasFinalSigma, not_exists, not_and]

/-- The small sigma of whichever form, in the one that stands within words. -/
def plainSigma (character : Char) : Char :=
  if character = 'ς' then 'σ' else character

/-- Apart from the forms of sigmas, lower case is that of the characters by themselves. -/
theorem map_plainSigma_lowerAfter (before text : List Char) :
    (lowerAfter before text).map plainSigma = (text.flatMap lowerChar).map plainSigma := by
  induction text generalizing before with
  | nil => rfl
  | cons first text inductionHypothesis =>
      rw [lowerAfter, List.flatMap_cons, List.map_append, List.map_append, inductionHypothesis]
      congr 1
      split
      next isSigma =>
        rw [isSigma, lowerChar_sigma, smallSigma]
        split <;> decide
      next => rfl

/-! ## The Turkic letters -/

/-- Without either small letter i, Turkic capitals are the usual ones. -/
theorem upper_true_eq {text : List Char} (noDotted : 'i' ∉ text) (noDotless : 'ı' ∉ text) :
    upper true text = upper false text := by
  refine List.flatMap_congr fun character member => ?_
  have notDotted : character ≠ 'i' := ne_of_mem_of_not_mem member noDotted
  have notDotless : character ≠ 'ı' := ne_of_mem_of_not_mem member noDotless
  exact (if_neg notDotted).trans (if_neg notDotless)

/-- Without either capital letter I, Turkic lower case maps the characters one by one. -/
theorem lower_true_eq {text : List Char} (noDotless : 'I' ∉ text) (noDotted : 'İ' ∉ text) :
    lower true text = text.flatMap lowerChar := by
  refine List.flatMap_congr fun character member => ?_
  have notDotless : character ≠ 'I' := ne_of_mem_of_not_mem member noDotless
  have notDotted : character ≠ 'İ' := ne_of_mem_of_not_mem member noDotted
  exact (if_neg notDotless).trans (if_neg notDotted)

end Casing

namespace Locale

open Casing

/-- How a locale with the Turkic mappings agrees with one without them on texts that have no letter
`i` to be mapped. -/
structure AgreesOutsideI (turkic plain : Locale) : Prop where
  /-- They have the same upper case. -/
  upper {text : String} : 'i' ∉ text.toList → 'ı' ∉ text.toList →
    turkic.uppercase text = plain.uppercase text
  /-- They have the same lower case of all texts but those where a sigma ends a word. -/
  lower {text : String} : 'I' ∉ text.toList → 'İ' ∉ text.toList →
    (turkic.lowercase text = plain.lowercase text ↔ ¬HasFinalSigma text.toList)
  /-- Such sigmas are all that sets their lower cases apart. -/
  sigmas {text : String} : 'I' ∉ text.toList → 'İ' ∉ text.toList →
    (turkic.lowercase text).toList.map plainSigma = (plain.lowercase text).toList.map plainSigma

/-- Case mapping with the Turkic letters agrees with that without them away from these letters, but
for the small sigmas at the end of words. -/
theorem agreesOutsideI {turkic plain : Locale} (isTurkic : turkic.turkic = true)
    (isPlain : plain.turkic = false) : AgreesOutsideI turkic plain where
  upper noDotted noDotless := by
    rw [uppercase, uppercase, isTurkic, isPlain, upper_true_eq noDotted noDotless]
  lower noDotless noDotted := by
    rw [lowercase, lowercase, isTurkic, isPlain, lower_true_eq noDotless noDotted,
      ← lower_false_eq_iff, String.ofList_inj]
  sigmas noDotless noDotted := by
    rw [lowercase, lowercase, isTurkic, isPlain, lower_true_eq noDotless noDotted,
      String.toList_ofList, String.toList_ofList]
    exact (map_plainSigma_lowerAfter [] _).symm

/-- The Turkish lower case of a Greek word that ends in a sigma lacks its final form. -/
theorem agreesOutsideI_finalSigma :
    trTR.turkic = true ∧ enUS.turkic = false ∧
      trTR.uppercase "straße" = enUS.uppercase "straße" ∧
      trTR.lowercase "ΑΣΑ" = enUS.lowercase "ΑΣΑ" ∧
      trTR.lowercase "ΑΣ" ≠ enUS.lowercase "ΑΣ" := by
  have agrees : AgreesOutsideI trTR enUS := agreesOutsideI rfl rfl
  have within : ¬HasFinalSigma "ΑΣΑ".toList := (lower_false_eq_iff _).mp (by decide +kernel)
  have atEnd : HasFinalSigma "ΑΣ".toList := by
    rw [← not_not (a := HasFinalSigma _), ← lower_false_eq_iff]
    decide +kernel
  exact ⟨rfl, rfl, agrees.upper (by decide +kernel) (by decide +kernel),
    (agrees.lower (by decide +kernel) (by decide +kernel)).mpr within,
    fun same => (agrees.lower (by decide +kernel) (by decide +kernel)).mp same atEnd⟩

end Locale

end MessageTemplate

import Mathlib
import MessageTemplate.Locale.Basic
import MessageTemplate.Proofs.Casing.Turkic

/-! # Folding the case of ASCII texts

Each folding maps the characters of an ASCII text by themselves, also behind a case mapping of the
same locale, which brings in no letters but the two Turkic ones. So the case is erased, but where
diacritics are folded between the Turkic upper case and the folding of case: the dot of `İ` is lost
then, and a dotless letter is left of a dotted one (`Locale.erasesCase`). -/

namespace MessageTemplate

open MessageTemplate.Character
open MessageTemplate.Casing

namespace Folding

/-! ## Texts of ASCII and Turkic letters -/

/-- ASCII characters, and the two letters that the Turkic mappings bring in. -/
def IsBasic (character : Char) : Prop :=
  character.toNat < 128 ∨ character = 'İ' ∨ character = 'ı'

/-- A letter that no folding of width changes, with what is left of it without diacritics. -/
structure HasBase (character base : Char) : Prop where
  width : usualWidth character = [character]
  base : baseChar character = base
  unmarked : isMark character = false

/-- A character of ASCII is its own base. -/
theorem hasBase_ascii {character : Char} (ascii : character.toNat < 128) :
    HasBase character character :=
  ⟨if_pos ascii, if_pos ascii, if_pos ascii⟩

/-- The dot of the capital letter is a diacritic. -/
theorem hasBase_dotted : HasBase 'İ' 'I' :=
  ⟨by decide +kernel, by decide +kernel, by decide +kernel⟩

/-- The dotless i is its own base. -/
theorem hasBase_dotless : HasBase 'ı' 'ı' :=
  ⟨by decide +kernel, by decide +kernel, by decide +kernel⟩

namespace IsBasic

variable {character : Char} (basic : IsBasic character)

include basic

/-- Basic characters lie below the combining marks. -/
theorem toNat_lt : character.toNat < 0x300 := by
  rcases basic with ascii | rfl | rfl
  · exact ascii.trans (by decide)
  · decide
  · decide

/-- A basic character has a base, which is basic itself. -/
theorem exists_base : ∃ base, IsBasic base ∧ HasBase character base := by
  rcases basic with ascii | rfl | rfl
  · exact ⟨character, .inl ascii, hasBase_ascii ascii⟩
  · exact ⟨'I', .inl (by decide), hasBase_dotted⟩
  · exact ⟨'ı', .inr (.inr rfl), hasBase_dotless⟩

/-- A basic character has its usual width. -/
theorem usualWidth_eq : usualWidth character = [character] := by
  obtain ⟨base, -, hasBase⟩ := basic.exists_base
  exact hasBase.width

/-- The base of a basic character is basic. -/
theorem baseChar : IsBasic (baseChar character) := by
  obtain ⟨base, isBasic, hasBase⟩ := basic.exists_base
  exact hasBase.base.symm ▸ isBasic

/-- A basic character is no mark. -/
theorem isMark_eq : isMark character = false := by
  obtain ⟨base, -, hasBase⟩ := basic.exists_base
  exact hasBase.unmarked

/-- A basic character is not taken apart. -/
theorem letters_eq : letters character = [character] := by
  have below := basic.toNat_lt
  simp only [letters]
  rw [if_neg (by omega), if_neg (by omega), if_neg (by omega), if_neg (by omega)]

/-- A basic character is joined to none that follows it. -/
theorem join?_eq (next : Char) : join? character next = none := by
  have below := basic.toNat_lt
  simp only [join?]
  rw [if_neg (by omega), if_neg (by omega), if_neg (by omega), if_neg (by omega),
    if_neg (by omega)]

/-- No basic character is a sigma. -/
theorem ne_sigma : character ≠ 'Σ' := by
  rintro rfl
  exact absurd basic.toNat_lt (by decide)

end IsBasic

section Text

variable {text : List Char} (basic : ∀ character ∈ text, IsBasic character)

include basic

/-- Basic text has its usual width. -/
theorem foldWidth_eq : foldWidth text = text := by
  rw [foldWidth, List.flatMap_congr fun character member => (basic character member).usualWidth_eq]
  exact List.flatMap_singleton' text

/-- In basic text no letters are joined. -/
theorem joinLetters_eq : joinLetters text = text := by
  cases text with
  | nil => rfl
  | cons first rest =>
      rw [joinLetters]
      induction rest generalizing first with
      | nil => rfl
      | cons next rest inductionHypothesis =>
          rw [joinAfter, (basic first List.mem_cons_self).join?_eq]
          simp only
          rw [inductionHypothesis next fun character member =>
            basic character (List.mem_cons_of_mem first member)]

/-- The bases of basic text are basic. -/
theorem isBasic_of_mem_map : ∀ base ∈ text.map baseChar, IsBasic base := by
  simpa using fun character member => (basic character member).baseChar

/-- Without diacritics, basic text consists of its bases. -/
theorem foldDiacritics_eq : foldDiacritics text = text.map baseChar := by
  have taken : (text.flatMap fun character => letters (baseChar character)) =
      text.map baseChar := by
    rw [List.flatMap_congr fun character member => (basic character member).baseChar.letters_eq]
    exact (List.map_eq_flatMap).symm
  rw [foldDiacritics, taken,
    List.filter_eq_self.mpr fun base member => by
      rw [(isBasic_of_mem_map basic base member).isMark_eq]
      rfl,
    joinLetters_eq (isBasic_of_mem_map basic)]

/-- Basic text is mapped to lower case character by character. -/
theorem lower_eq (turkic : Bool) :
    lower turkic text = text.flatMap (if turkic then turkicLowerChar else lowerChar) := by
  cases turkic with
  | true => rfl
  | false =>
      refine ((lower_false_eq_iff text).mpr ?_).symm
      rintro ⟨before, after, rfl, -⟩
      exact (basic 'Σ' (List.mem_append_right before List.mem_cons_self)).ne_sigma rfl

/-- Folding works character by character on these texts. -/
theorem fold_eq (turkic : Bool) {options : Options} (isCase : options.case = true) :
    fold turkic options text = text.flatMap fun character =>
      (if turkic then turkicLowerChar else lowerChar)
        (if options.diacritics then baseChar character else character) := by
  have wide : (if options.width then foldWidth text else text) = text := by
    rw [foldWidth_eq basic, ite_self]
  simp only [fold, wide, isCase, if_true]
  split
  · rw [foldDiacritics_eq basic, lower_eq (isBasic_of_mem_map basic), List.flatMap_map]
  · rw [lower_eq basic]

end Text

/-! ## Case mappings of ASCII texts -/

/-- The lower case of an ASCII character. -/
def smallForm (turkic : Bool) (character : Char) : Char :=
  if turkic && character == 'I' then 'ı' else character.toLower

/-- The upper case of an ASCII character. -/
def capitalForm (turkic : Bool) (character : Char) : Char :=
  if turkic && character == 'i' then 'İ' else character.toUpper

/-- What is folded of the upper case of an ASCII character. -/
def refoldedForm (turkic diacritics : Bool) (character : Char) : Char :=
  if turkic && diacritics && character == 'i' then 'ı' else smallForm turkic character

/-- The dotless i is its own lower case. -/
theorem lowerChar_dotless : lowerChar 'ı' = ['ı'] := by decide +kernel

/-- What holds of the characters below 128 can be checked one by one. -/
theorem forall_ascii {property : Char → Prop}
    (checked : ∀ code < 128, property (Char.ofNat code)) (character : Char)
    (ascii : character.toNat < 128) : property character :=
  Char.ofNat_toNat character ▸ checked character.toNat ascii

section Character

variable {character : Char} (ascii : character.toNat < 128) (turkic diacritics : Bool)

include ascii

/-- Both forms of an ASCII character are ASCII and have its small form, and only those of the letter
`I` are that letter. -/
theorem ascii_forms :
    (character.toLower.toNat < 128 ∧ character.toUpper.toNat < 128) ∧
      (character.toLower.toLower = character.toLower ∧
        character.toUpper.toLower = character.toLower) ∧
      character.toLower ≠ 'I' ∧
      (character.toLower = 'i' ↔ character = 'i' ∨ character = 'I') ∧
      (character.toUpper = 'I' ↔ character = 'i' ∨ character = 'I') := by
  apply forall_ascii ?_ character ascii
  decide +kernel

/-- A character of ASCII has its small form as lower case. -/
theorem lower_ascii :
    (if turkic then turkicLowerChar else lowerChar) character = [smallForm turkic character] := by
  have small : lowerChar character = [character.toLower] := if_pos ascii
  have notDotted : character ≠ 'İ' := by
    rintro rfl
    exact absurd ascii (by decide)
  cases turkic with
  | false => exact small
  | true =>
      by_cases isDotless : character = 'I'
      · simp [turkicLowerChar, smallForm, isDotless]
      · simp [turkicLowerChar, smallForm, isDotless, notDotted, small]

/-- A character of ASCII has its capital form as upper case. -/
theorem upper_ascii :
    (if turkic then turkicUpperChar else upperChar) character =
      [capitalForm turkic character] := by
  have capital : upperChar character = [character.toUpper] := if_pos ascii
  have notDotless : character ≠ 'ı' := by
    rintro rfl
    exact absurd ascii (by decide)
  cases turkic with
  | false => exact capital
  | true =>
      by_cases isDotted : character = 'i'
      · simp [turkicUpperChar, capitalForm, isDotted]
      · simp [turkicUpperChar, capitalForm, isDotted, notDotless, capital]

/-- The small form of a character of ASCII is basic. -/
theorem isBasic_smallForm : IsBasic (smallForm turkic character) := by
  rw [smallForm]
  split
  · exact .inr (.inr rfl)
  · exact .inl (ascii_forms ascii).1.1

/-- The capital form of a character of ASCII is basic. -/
theorem isBasic_capitalForm : IsBasic (capitalForm turkic character) := by
  rw [capitalForm]
  split
  · exact .inr (.inl rfl)
  · exact .inl (ascii_forms ascii).1.2

/-- The small form has no case or diacritics left to fold. -/
theorem fold_smallForm :
    (if turkic then turkicLowerChar else lowerChar)
        (if diacritics then baseChar (smallForm turkic character)
          else smallForm turkic character) =
      [smallForm turkic character] := by
  obtain ⟨⟨smallAscii, -⟩, ⟨twice, -⟩, notDotless, -⟩ := ascii_forms ascii
  cases isDotless : turkic && character == 'I' with
  | true =>
      obtain ⟨rfl, rfl⟩ : turkic = true ∧ character = 'I' := by simpa using isDotless
      have isForm : smallForm true 'I' = 'ı' := rfl
      rw [isForm, hasBase_dotless.base, ite_self]
      exact lowerChar_dotless
  | false =>
      have isForm : smallForm turkic character = character.toLower := by
        rw [smallForm, isDotless, if_neg Bool.false_ne_true]
      rw [isForm, (hasBase_ascii smallAscii).base, ite_self, lower_ascii smallAscii, smallForm,
        twice]
      simp [notDotless]

/-- The capital form is folded to the small one, unless a dot is lost with the diacritics. -/
theorem fold_capitalForm :
    (if turkic then turkicLowerChar else lowerChar)
        (if diacritics then baseChar (capitalForm turkic character)
          else capitalForm turkic character) =
      [refoldedForm turkic diacritics character] := by
  obtain ⟨⟨-, capitalAscii⟩, ⟨-, small⟩, -, -, dotless⟩ := ascii_forms ascii
  cases isDotted : turkic && character == 'i' with
  | true =>
      obtain ⟨rfl, rfl⟩ : turkic = true ∧ character = 'i' := by simpa using isDotted
      have isForm : capitalForm true 'i' = 'İ' := rfl
      rw [isForm, hasBase_dotted.base]
      cases diacritics <;> rfl
  | false =>
      have isForm : capitalForm turkic character = character.toUpper := by
        rw [capitalForm, isDotted, if_neg Bool.false_ne_true]
      rw [isForm, (hasBase_ascii capitalAscii).base, ite_self, lower_ascii capitalAscii,
        refoldedForm, smallForm, smallForm, small]
      cases turkic with
      | false => simp
      | true =>
          have isNot : character ≠ 'i' := by simpa using isDotted
          have sameLetter : character.toUpper = 'I' ↔ character = 'I' :=
            dotless.trans (or_iff_right isNot)
          simp [isNot, sameLetter]

omit ascii in
/-- Folding the capital form gives the small form of every character but the Turkic i without its
diacritics. -/
theorem refoldedForm_eq_iff :
    refoldedForm turkic diacritics character = smallForm turkic character ↔
      ¬(turkic = true ∧ diacritics = true ∧ character = 'i') := by
  rw [refoldedForm]
  split
  next isDotted =>
    obtain ⟨⟨rfl, rfl⟩, rfl⟩ : (turkic = true ∧ diacritics = true) ∧ character = 'i' := by
      simpa using isDotted
    decide
  next notDotted => simpa [and_assoc] using notDotted

/-- Only of an `i` an `i` is left in lower case, which is folded without its dot again. -/
theorem refoldedForm_true :
    refoldedForm true true character =
      if smallForm true character = 'i' then 'ı' else smallForm true character := by
  obtain ⟨-, -, -, dotted, -⟩ := ascii_forms ascii
  by_cases isDotted : character = 'i'
  · rw [isDotted]
    decide
  · have notDotted : smallForm true character ≠ 'i' := by
      rw [smallForm]
      split
      next => decide
      next notDotless =>
        have isNot : character ≠ 'I' := by simpa using notDotless
        exact fun isSmall => (dotted.mp isSmall).elim isDotted isNot
    rw [if_neg notDotted, refoldedForm]
    simp [isDotted]

end Character

section Ascii

variable {text : List Char} (ascii : ∀ character ∈ text, character.toNat < 128)

include ascii

/-- The lower case of text in ASCII consists of small forms. -/
theorem lower_eq_map (turkic : Bool) : lower turkic text = text.map (smallForm turkic) := by
  rw [lower_eq (fun character member => .inl (ascii character member)),
    List.flatMap_congr fun character member => lower_ascii (ascii character member) turkic,
    List.map_eq_flatMap]

/-- The upper case of text in ASCII consists of capital forms. -/
theorem upper_eq_map (turkic : Bool) : upper turkic text = text.map (capitalForm turkic) := by
  rw [upper, List.flatMap_congr fun character member => upper_ascii (ascii character member) turkic,
    List.map_eq_flatMap]

variable (turkic : Bool) {options : Options} (isCase : options.case = true)

include isCase

omit ascii in
/-- Text of basic forms is folded character by character. -/
theorem fold_map {form folded : Char → Char}
    (basic : ∀ character ∈ text, IsBasic (form character))
    (isFolded : ∀ character ∈ text,
      (if turkic then turkicLowerChar else lowerChar)
        (if options.diacritics then baseChar (form character) else form character) =
          [folded character]) :
    fold turkic options (text.map form) = text.map folded := by
  have allBasic : ∀ character ∈ text.map form, IsBasic character := by simpa using basic
  rw [fold_eq allBasic turkic isCase, List.flatMap_map, List.flatMap_congr isFolded,
    List.map_eq_flatMap]

/-- Text in ASCII is folded to its small forms. -/
theorem fold_eq_map : fold turkic options text = text.map (smallForm turkic) := by
  have isFolded : ∀ character ∈ text,
      (if turkic then turkicLowerChar else lowerChar)
        (if options.diacritics then baseChar character else character) =
          [smallForm turkic character] := by
    intro character member
    rw [(hasBase_ascii (ascii character member)).base, ite_self,
      lower_ascii (ascii character member)]
  rw [← fold_map turkic isCase (fun character member => .inl (ascii character member)) isFolded,
    List.map_id']

/-- Folding the lower case of text in ASCII gives its small forms. -/
theorem fold_lower : fold turkic options (lower turkic text) = text.map (smallForm turkic) := by
  rw [lower_eq_map ascii]
  exact fold_map turkic isCase
    (fun character member => isBasic_smallForm (ascii character member) turkic)
    fun character member => fold_smallForm (ascii character member) turkic options.diacritics

/-- Folding the upper case of text in ASCII gives the forms that are folded once more. -/
theorem fold_upper :
    fold turkic options (upper turkic text) =
      text.map (refoldedForm turkic options.diacritics) := by
  rw [upper_eq_map ascii]
  exact fold_map turkic isCase
    (fun character member => isBasic_capitalForm (ascii character member) turkic)
    fun character member => fold_capitalForm (ascii character member) turkic options.diacritics

end Ascii

end Folding

namespace Locale

open Folding

/-- Whether a text consists of ASCII characters. -/
def IsAscii (text : String) : Prop :=
  ∀ character ∈ text.toList, character.toNat < 128

/-- How foldings of case erase the case of ASCII texts, as the locale maps it. -/
structure ErasesCase (locale : Locale) : Prop where
  /-- The lower case is folded to what the text is folded to. -/
  lower {options : Options} {text : String} : options.case = true → IsAscii text →
    locale.fold options (locale.lowercase text) = locale.fold options text
  /-- So is the upper case, but for an `i` with the Turkic mappings where diacritics are folded as
  well. -/
  upper {options : Options} {text : String} : options.case = true → IsAscii text →
    (locale.fold options (locale.uppercase text) = locale.fold options text ↔
      ¬(locale.turkic = true ∧ options.diacritics = true ∧ 'i' ∈ text.toList))
  /-- There, the upper case is folded to what the text is folded to without the dots. -/
  dotless {options : Options} {text : String} : options.case = true → IsAscii text →
    locale.turkic = true → options.diacritics = true →
      locale.fold options (locale.uppercase text) =
        String.ofList ((locale.fold options text).toList.map fun character =>
          if character = 'i' then 'ı' else character)

/-- Foldings of case erase it from the ASCII texts in every locale, but for an `i` that loses its
dot. -/
theorem erasesCase (locale : Locale) : locale.ErasesCase where
  lower isCase ascii := by
    rw [fold, fold, lowercase, String.toList_ofList, fold_lower ascii _ isCase,
      fold_eq_map ascii _ isCase]
  upper {options text} isCase ascii := by
    rw [fold, fold, uppercase, String.toList_ofList, fold_upper ascii _ isCase,
      fold_eq_map ascii _ isCase, String.ofList_inj, List.map_inj_left]
    constructor
    · rintro same ⟨isTurkic, isDiacritics, member⟩
      exact (refoldedForm_eq_iff _ _).mp (same 'i' member)
        ⟨isTurkic, isDiacritics, rfl⟩
    · intro notDotted character member
      rw [refoldedForm_eq_iff]
      rintro ⟨isTurkic, isDiacritics, rfl⟩
      exact notDotted ⟨isTurkic, isDiacritics, member⟩
  dotless {options text} isCase ascii isTurkic isDiacritics := by
    rw [fold, fold, uppercase, String.toList_ofList, String.toList_ofList,
      fold_upper ascii _ isCase, fold_eq_map ascii _ isCase, List.map_map, isTurkic, isDiacritics]
    refine congrArg String.ofList (List.map_congr_left fun character member => ?_)
    exact refoldedForm_true (ascii character member)

/-- The Turkish capital of `i` is folded to the dotless letter where its dot is folded first. -/
theorem erasesCase_dotless :
    let diacritics : Options := ⟨true, false, true⟩
    trTR.fold diacritics (trTR.lowercase "Ii") = trTR.fold diacritics "Ii" ∧
      trTR.fold ⟨true, true, false⟩ (trTR.uppercase "Ii") = trTR.fold ⟨true, true, false⟩ "Ii" ∧
      trTR.fold diacritics (trTR.uppercase "Ii") ≠ trTR.fold diacritics "Ii" ∧
      trTR.fold diacritics (trTR.uppercase "Ii") = "ıı" := by
  have ascii : IsAscii "Ii" := by simp [IsAscii]
  have dotted : 'i' ∈ "Ii".toList := by decide +kernel
  have folded : trTR.fold ⟨true, false, true⟩ "Ii" = "ıi" := by decide +kernel
  refine ⟨(erasesCase trTR).lower rfl ascii, ((erasesCase trTR).upper rfl ascii).mpr ?_,
    fun same => ((erasesCase trTR).upper rfl ascii).mp same ⟨rfl, rfl, dotted⟩, ?_⟩
  · exact fun both => Bool.false_ne_true both.2.1
  · rw [(erasesCase trTR).dotless rfl ascii rfl rfl, folded]
    decide +kernel

end Locale

end MessageTemplate

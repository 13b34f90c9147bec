import Mathlib
import MessageTemplate.Locale.Basic
import MessageTemplate.Proofs.Character.Blank
import MessageTemplate.Proofs.Locale.Integers

/-! # Spellings of locale tags

A tag is read alike however it is spelled: with its ASCII letters in either case, with hyphens or
underscores, and with blanks around it. What is read keeps being read: the tag of a known locale
selects this locale, and no tag selects a locale that is not known (`Locale.canonicalizesTags`). A
tag that selects nothing is refused in its own spelling.

All spellings have one normalized form (`Locale.Respelled.normalizeTag_eq`). Which languages and
regions select which locale is no matter of spelling and is not described here. -/

namespace MessageTemplate

open MessageTemplate.Character

namespace Locale

variable {tag other : String} {locale : Locale} {character first second : Char}

/-! ## Spellings -/

/-- Whether a character of a tag can be spelled as another one. Only letters of ASCII have cases
here. -/
inductive Respells : Char → Char → Prop where
  | same (character : Char) : Respells character character
  | lower (character : Char) : Respells character character.toLower
  | upper (character : Char) : Respells character character.toUpper
  | hyphen : Respells '_' '-'
  | underscore : Respells '-' '_'

/-- Whether a tag is another one in a different spelling, which any of its characters can have, and
with any blanks around it. -/
def Respelled (tag other : String) : Prop :=
  ∃ before spelling after, other.toList = before ++ spelling ++ after ∧
    List.Forall₂ Respells tag.toList spelling ∧
    (∀ character ∈ before, isBlank character = true) ∧ ∀ character ∈ after, isBlank character = true

/-! ## Normalized characters -/

/-- What is no letter has no other case. -/
theorem toLower_of_not_isAlpha (notLetter : character.isAlpha = false) :
    character.toLower = character := by
  rw [Char.isAlpha, Bool.or_eq_false_iff] at notLetter
  exact Char.toLower_eq_of_not_isUpper (Bool.eq_false_iff.mp notLetter.1)

/-- Both cases of a letter are letters, so nothing else has an underscore for its lower case. -/
theorem toLower_eq_underscore_iff : character.toLower = '_' ↔ character = '_' := by
  cases isLetter : character.isAlpha with
  | true =>
      refine iff_of_false (fun isUnderscore => ?_) (fun isUnderscore => ?_)
      · rw [← Char.isAlpha_toLower_eq_isAlpha, isUnderscore] at isLetter
        exact absurd isLetter (by decide)
      · rw [isUnderscore] at isLetter
        exact absurd isLetter (by decide)
  | false => rw [toLower_of_not_isAlpha isLetter]

/-- A normalized character depends on the lower case only. -/
theorem normalizeCharacter_eq (character : Char) :
    normalizeCharacter character =
      if character.toLower = '_' then '-' else character.toLower := by
  simp only [normalizeCharacter, toLower_eq_underscore_iff]

/-- What a character is spelled as is normalized to the same. -/
theorem Respells.normalizeCharacter_eq (respells : Respells first second) :
    normalizeCharacter second = normalizeCharacter first := by
  cases respells with
  | same => rfl
  | lower =>
      rw [Locale.normalizeCharacter_eq, Char.toLower_toLower_eq_toLower,
        ← Locale.normalizeCharacter_eq]
  | upper =>
      rw [Locale.normalizeCharacter_eq, Char.toLower_toUpper_eq_toLower,
        ← Locale.normalizeCharacter_eq]
  | hyphen => decide
  | underscore => decide

/-- Blanks have no other spelling, and nothing is spelled as a blank. -/
theorem isBlank_normalizeCharacter (character : Char) :
    isBlank (normalizeCharacter character) = isBlank character := by
  by_cases isUnderscore : character = '_'
  · rw [isUnderscore]
    decide
  · rw [normalizeCharacter, if_neg isUnderscore]
    cases isLetter : character.isAlpha with
    | true =>
        have isLetterToo := (Char.isAlpha_toLower_eq_isAlpha character).trans isLetter
        rw [isBlank_of_isAlpha isLetter, isBlank_of_isAlpha isLetterToo]
    | false => rw [toLower_of_not_isAlpha isLetter]

/-! ## Normalized tags -/

/-- It does not matter whether a tag is trimmed first or last. -/
theorem normalizeTag_eq_trimBlanks (tag : List Char) :
    normalizeTag tag = trimBlanks (tag.map normalizeCharacter) :=
  (trimBlanks_map isBlank_normalizeCharacter tag).symm

/-- A tag that is spelled otherwise is normalised to the same characters. -/
theorem map_normalizeCharacter_eq {tag spelling : List Char}
    (respells : List.Forall₂ Respells tag spelling) :
    spelling.map normalizeCharacter = tag.map normalizeCharacter := by
  induction respells with
  | nil => rfl
  | cons first _ inductionHypothesis =>
      rw [List.map_cons, List.map_cons, first.normalizeCharacter_eq, inductionHypothesis]

/-- All spellings of a tag have the same normalized form. -/
theorem Respelled.normalizeTag_eq (respelled : Respelled tag other) :
    normalizeTag other.toList = normalizeTag tag.toList := by
  obtain ⟨before, spelling, after, isOther, respells, blankBefore, blankAfter⟩ := respelled
  calc normalizeTag other.toList
      = normalizeTag spelling := by
        rw [isOther, normalizeTag, trimBlanks_append blankBefore blankAfter, normalizeTag]
    _ = trimBlanks (spelling.map normalizeCharacter) := normalizeTag_eq_trimBlanks spelling
    _ = trimBlanks (tag.toList.map normalizeCharacter) := by
        rw [map_normalizeCharacter_eq respells]
    _ = normalizeTag tag.toList := (normalizeTag_eq_trimBlanks tag.toList).symm

/-! ## Reading tags -/

/-- A tag is accepted exactly if it selects a locale. -/
theorem ofTag_eq_ok_iff : ofTag tag = .ok locale ↔ ofTag? tag = some locale := by
  rw [ofTag]
  cases ofTag? tag <;> simp

/-- Whether two tags are read alike: as one locale, or as none, where each is refused as it is
spelled. -/
inductive ReadAlike (tag other : String) : Prop where
  | selects (locale : Locale) (selected : ofTag tag = .ok locale)
      (selectedToo : ofTag other = .ok locale)
  | refused (refusal : ofTag tag = .error (.unknownLocale tag))
      (refusalToo : ofTag other = .error (.unknownLocale other))

/-- A tag that is spelled otherwise, with blanks around it, is read alike. -/
theorem Respelled.readAlike (respelled : Respelled tag other) : ReadAlike tag other := by
  have same : ofTag? other = ofTag? tag := by
    rw [ofTag?, respelled.normalizeTag_eq, ofTag?]
  cases found : ofTag? tag with
  | some locale =>
      exact .selects locale (ofTag_eq_ok_iff.mpr found) (ofTag_eq_ok_iff.mpr (same.trans found))
  | none =>
      refine .refused ?_ ?_
      · rw [ofTag, found]
      · rw [ofTag, same, found]

/-! ## The locales that tags select -/

/-- Subtags select presets alone. -/
theorem mem_presets_of_ofSubtags? {language : String} {region : Option String}
    (selected : ofSubtags? language region = some locale) : locale ∈ presets := by
  unfold ofSubtags? at selected
  split at selected
  case h_1 =>
    cases selected
    split <;> simp [presets]
  case h_11 => cases selected
  all_goals
    cases selected
    simp [presets]

/-- Tags select presets alone. -/
theorem mem_presets_of_ofTag? (selected : ofTag? tag = some locale) : locale ∈ presets := by
  rw [ofTag?] at selected
  split at selected
  case h_1 => cases selected
  case h_2 => exact mem_presets_of_ofSubtags? selected
  case h_3 => exact mem_presets_of_ofSubtags? selected

/-- Each known locale is selected by its own tag. -/
theorem ofTag?_tag : ∀ preset ∈ presets, ofTag? preset.tag = some preset := by
  decide

/-- How the tags of locales are read. -/
structure CanonicalizesTags : Prop where
  /-- All spellings of a tag are read alike. -/
  respelled {tag other : String} : Respelled tag other → ReadAlike tag other
  /-- The tag of the locale that was selected selects it again. -/
  stable {tag : String} {locale : Locale} : ofTag tag = .ok locale →
    ofTag locale.tag = .ok locale
  /-- The locales that can be selected are the known ones. -/
  known (locale : Locale) : (∃ tag, ofTag tag = .ok locale) ↔ locale ∈ presets

/-- Tags are read as known locales, whichever way they are spelled, and the tag of what was read is
read as the same. -/
theorem canonicalizesTags : CanonicalizesTags where
  respelled := Respelled.readAlike
  stable selected :=
    ofTag_eq_ok_iff.mpr (ofTag?_tag _ (mem_presets_of_ofTag? (ofTag_eq_ok_iff.mp selected)))
  known locale := by
    constructor
    · rintro ⟨tag, selected⟩
      exact mem_presets_of_ofTag? (ofTag_eq_ok_iff.mp selected)
    · exact fun isKnown => ⟨_, ofTag_eq_ok_iff.mpr (ofTag?_tag _ isKnown)⟩

/-- An English tag with a variant, and a language that is not known, in two spellings each. -/
theorem canonicalizesTags_blanks :
    Respelled "en-GB-oed" "\t EN_gb-oED\u3000" ∧ Respelled "xx-YY" " XX_yy" ∧
      ofTag "\t EN_gb-oED\u3000" = .ok enGB ∧ ofTag enGB.tag = .ok enGB ∧
      ofTag " XX_yy" = .error (.unknownLocale " XX_yy") := by
  have english : Respelled "en-GB-oed" "\t EN_gb-oED\u3000" := by
    refine ⟨['\t', ' '], "EN_gb-oED".toList, ['\u3000'], rfl, ?_, by simp [isBlank],
      by simp [isBlank]⟩
    exact .cons (.upper 'e') (.cons (.upper 'n') (.cons .underscore (.cons (.lower 'G')
      (.cons (.lower 'B') (.cons (.same '-') (.cons (.same 'o') (.cons (.upper 'e')
        (.cons (.upper 'd') .nil))))))))
  have foreign : Respelled "xx-YY" " XX_yy" := by
    refine ⟨[' '], "XX_yy".toList, [], rfl, ?_, by simp [isBlank], by simp⟩
    exact .cons (.upper 'x') (.cons (.upper 'x') (.cons .underscore (.cons (.lower 'Y')
      (.cons (.lower 'Y') .nil))))
  have british : ofTag "en-GB-oed" = .ok enGB := ofTag_eq_ok_iff.mpr (by decide)
  have unknown : ofTag "xx-YY" = .error (.unknownLocale "xx-YY") := by rfl
  refine ⟨english, foreign, ?_, canonicalizesTags.stable british, ?_⟩
  · cases canonicalizesTags.respelled english with
    | selects locale selected selectedToo =>
        cases british.symm.trans selected
        exact selectedToo
    | refused refusal => cases british.symm.trans refusal
  · cases canonicalizesTags.respelled foreign with
    | selects locale selected => cases unknown.symm.trans selected
    | refused _ refusalToo => exact refusalToo

end Locale

end MessageTemplate

import MessageTemplate.Character.Blank
import MessageTemplate.Casing.Basic
import MessageTemplate.Failure
import MessageTemplate.Folding.Basic
import MessageTemplate.Text.Parts

/-! # Locales

A locale holds the conventions of a language and region: separators, currency, the place of symbols,
and whether letters follow the Turkic case rules. A language tag selects one of the known locales. -/

namespace MessageTemplate

open MessageTemplate.Character

/-- The side of a number that the currency symbol stands on. -/
inductive SymbolPlace where
  | before
  | after
deriving DecidableEq, Repr

/-- The conventions of a language and region. -/
structure Locale where
  tag : String
  decimalSeparator : Char
  groupingSeparator : Option Char
  currencySymbol : String
  currencyPlace : SymbolPlace
  /-- Whether a no-break space stands before the percent sign. -/
  spacedPercent : Bool
  /-- Whether `i` and `ı` are different letters in both cases. -/
  turkic : Bool
deriving DecidableEq, Repr

namespace Locale

/-- Conventions of no language. -/
def invariant : Locale := ⟨"und", '.', none, "¤", .before, false, false⟩

/-- English as in the United States. -/
def enUS : Locale := ⟨"en-US", '.', some ',', "$", .before, false, false⟩

/-- English as in the United Kingdom. -/
def enGB : Locale := ⟨"en-GB", '.', some ',', "£", .before, false, false⟩

/-- German as in Germany. -/
def deDE : Locale := ⟨"de-DE", ',', some '.', "€", .after, true, false⟩

/-- French as in France. -/
def frFR : Locale := ⟨"fr-FR", ',', some '\u202F', "€", .after, true, false⟩

/-- Spanish as in Spain. -/
def esES : Locale := ⟨"es-ES", ',', some '.', "€", .after, true, false⟩

/-- Turkish. -/
def trTR : Locale := ⟨"tr-TR", ',', some '.', "₺", .before, false, true⟩

/-- Azerbaijani. -/
def azAZ : Locale := ⟨"az-AZ", ',', some '.', "₼", .after, true, true⟩

/-- The locale of no particular choice. -/
instance : Inhabited Locale := ⟨enUS⟩

/-- A character of a tag in lower case, with a hyphen for an underscore. -/
def normalizeCharacter (character : Char) : Char :=
  if character = '_' then '-' else character.toLower

/-- A tag without blanks around it, in lower case and with hyphens for underscores. -/
def normalizeTag (tag : List Char) : List Char :=
  (trimBlanks tag).map normalizeCharacter

/-- The locale of a language and a region. -/
def ofSubtags? (language : String) (region : Option String) : Option Locale :=
  match language with
  | "en" => some (if region = some "gb" then enGB else enUS)
  | "de" => some deDE
  | "fr" => some frFR
  | "es" => some esES
  | "tr" => some trTR
  | "az" => some azAZ
  | "und" | "invariant" | "c" | "posix" => some invariant
  | _ => none

/-- The locale that a tag such as `de-DE`, `de_DE` or `de` selects. Subtags after the region are
ignored. -/
def ofTag? (tag : String) : Option Locale :=
  match Text.parts '-' (normalizeTag tag.toList) with
  | [] => none
  | [language] => ofSubtags? (String.ofList language) none
  | language :: region :: _ => ofSubtags? (String.ofList language) (some (String.ofList region))

/-- The locale that a tag selects, or the failure that quotes the tag as it was given. -/
def ofTag (tag : String) : Except Failure Locale :=
  match ofTag? tag with
  | some locale => .ok locale
  | none => .error (.unknownLocale tag)

/-- The upper-case form of a text. -/
def uppercase (locale : Locale) (text : String) : String :=
  String.ofList (Casing.upper locale.turkic text.toList)

/-- The lower-case form of a text. -/
def lowercase (locale : Locale) (text : String) : String :=
  String.ofList (Casing.lower locale.turkic text.toList)

/-- The text with each word capitalized. -/
def capitalize (locale : Locale) (text : String) : String :=
  String.ofList (Casing.capitalize locale.turkic text.toList)

/-- The text without the distinctions that are folded. -/
def fold (locale : Locale) (options : Folding.Options) (text : String) : String :=
  String.ofList (Folding.fold locale.turkic options text.toList)

end Locale

end MessageTemplate

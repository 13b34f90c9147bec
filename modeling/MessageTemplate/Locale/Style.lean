import MessageTemplate.Locale.ByteCount
import MessageTemplate.Locale.Scientific
import MessageTemplate.Locale.Spelling

/-! # Number styles

The named ways to present a number in a locale, and the keywords that templates call them by. -/

namespace MessageTemplate

/-- The presentations of a number. -/
inductive NumberStyle where
  | decimal
  | noLocale
  | currency
  | percent
  | scientific
  | spellOut
  | fileBytes
  | memoryBytes
  | decimalBytes
  | binaryBytes
deriving DecidableEq, Repr

/-- The style that a keyword names. -/
def NumberStyle.ofKeyword? : String → Option NumberStyle
  | "decimal" | "dec" => some decimal
  | "noloc" => some noLocale
  | "currency" | "cur" => some currency
  | "percent" | "pct" => some percent
  | "scientific" | "sci" => some scientific
  | "spellout" => some spellOut
  | "filebytes" | "file" | "bytes" => some fileBytes
  | "memorybytes" | "memory" => some memoryBytes
  | "decimalbytes" => some decimalBytes
  | "binarybytes" => some binaryBytes
  | _ => none

namespace Locale

/-- The space that keeps a number and its symbol on one line. -/
def noBreakSpace : Char := '\u00A0'

/-- A number with up to three fraction digits, in groups of three digits. -/
def decimal? (locale : Locale) (number : Number) : Option (List Char) :=
  match number with
  | .float value =>
      match Decimal.exact value with
      | .nan => some "NaN".toList
      | .infinite negative => some (if negative then ['-', '∞'] else ['∞'])
      | .finite .. => finite
  | .int _ => finite
where
  /-- The digits with their sign. -/
  finite : Option (List Char) :=
    (Digits.fixed? number 0 3).map fun digits =>
      digits.sign ++ locale.joinDigits digits 1 (some 3)

/-- An amount with two fraction digits and the currency symbol. -/
def currency? (locale : Locale) (number : Number) : Option (List Char) :=
  (Digits.fixed? number 2 2).map fun digits =>
    let amount := locale.joinDigits digits 1 (some 3)
    let symbol := locale.currencySymbol.toList
    match locale.currencyPlace with
    | .before => digits.sign ++ symbol ++ amount
    | .after => digits.sign ++ amount ++ noBreakSpace :: symbol

/-- A number in whole hundredths. -/
def percent? (locale : Locale) (number : Number) : Option (List Char) :=
  (Digits.fixed? (number.scale 100) 0 0).map fun digits =>
    digits.sign ++ locale.joinDigits digits 1 (some 3) ++
      (if locale.spacedPercent then [noBreakSpace, '%'] else ['%'])

/-- A number in a style, if the style can present it. -/
def formatNumber? (locale : Locale) (number : Number) (style : NumberStyle) : Option String :=
  match style with
  | .noLocale => some number.plain
  | .spellOut => Spelling.spellOut? number
  | .decimal => (locale.decimal? number).map String.ofList
  | .currency => (locale.currency? number).map String.ofList
  | .percent => (locale.percent? number).map String.ofList
  | .scientific => (locale.scientific? number).map String.ofList
  | .fileBytes | .decimalBytes => (locale.byteCount? number 1000).map String.ofList
  | .memoryBytes | .binaryBytes => (locale.byteCount? number 1024).map String.ofList

end Locale

end MessageTemplate

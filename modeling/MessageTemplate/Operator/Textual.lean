import MessageTemplate.Operator.Basic

/-! # Text operators

Case mapping in the locale and without it, trimming, counting characters, and folding. -/

namespace MessageTemplate.Operator

/-- An operator that maps the text of a value. -/
def mapping (name summary : String) (map : Locale → String → String) : Operator where
  name := name
  summary := summary
  apply site value _ := do
    let text ← site.string value name
    return .string (map site.locale text)

/-- The text in upper case. -/
def uppercase : Operator :=
  mapping "uppercase" "Upper-case using the engine locale" Locale.uppercase

/-- The text in lower case. -/
def lowercase : Operator :=
  mapping "lowercase" "Lower-case using the engine locale" Locale.lowercase

/-- The text with each word capitalized. -/
def capitalize : Operator :=
  mapping "capitalize" "Capitalize each word using the engine locale" Locale.capitalize

/-- The text in upper case, in any locale. -/
def uppercaseAnywhere : Operator :=
  mapping "uppercase_noloc" "Upper-case, locale independent" fun _ =>
    Locale.invariant.uppercase

/-- The text in lower case, in any locale. -/
def lowercaseAnywhere : Operator :=
  mapping "lowercase_noloc" "Lower-case, locale independent" fun _ =>
    Locale.invariant.lowercase

/-- The text with each word capitalized, in any locale. -/
def capitalizeAnywhere : Operator :=
  mapping "capitalize_noloc" "Capitalize each word, locale independent" fun _ =>
    Locale.invariant.capitalize

/-- The text without blanks at its ends. -/
def trim : Operator :=
  mapping "trim" "Remove leading and trailing whitespace" fun _ text =>
    String.ofList (Character.trimBlanks text.toList)

/-- The number of characters. -/
def length : Operator where
  name := "length"
  summary := "Number of characters in the string form of the value"
  apply site value _ := do
    let text ← site.string value "length"
    return Value.ofInt text.length

/-- The text folded by the named options. -/
def fold : Operator where
  name := "fold"
  summary := "Fold case, width and/or diacritics: fold:case,width,diacritics"
  apply site value argument := do
    let text ← site.string value "fold"
    let (options, unknown) := Folding.Options.read (argument.getD "")
    for option in unknown do
      Step.remark ("fold ignores unknown option " ++ Text.quoted option)
    return .string (site.locale.fold options text)

/-- The text operators. -/
def textual : List Operator :=
  [uppercase, lowercase, capitalize, uppercaseAnywhere, lowercaseAnywhere, capitalizeAnywhere,
   trim, length, fold]

end MessageTemplate.Operator

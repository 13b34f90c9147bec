import MessageTemplate.Proofs.Locale.Integers

/-! # Quoted affixes

Text that is put between apostrophes, with its own apostrophes doubled, stands for itself in a
pattern: nothing in it is a digit, a separator, a factor, a currency sign or the end of the pattern.
`Locale.keepsQuotedText` says so for text before and behind a digit.

A pair of apostrophes means one apostrophe inside and outside of a quotation, so apostrophes at the
start of a text are read before the quotation of the text begins. Text of apostrophes only is no
quotation at all, and it is not described here. -/

namespace MessageTemplate

open MessageTemplate.Decimal

namespace Pattern

/-! ## Quotations -/

/-- The text with its apostrophes doubled. -/
def doubled (text : List Char) : List Char :=
  text.flatMap fun character => if character = '\'' then ['\'', '\''] else [character]

/-- The pattern text that stands for a text. -/
def quote (text : List Char) : List Char :=
  '\'' :: doubled text ++ ['\'']

/-- The pattern characters that a quotation consists of. -/
def quotation (text : List Char) : List PatternChar :=
  text.map (⟨·, true⟩)

variable {text rest : List Char}

/-- All of a quoted text is quoted. -/
theorem quoted_of_mem_quotation {item : PatternChar} (member : item ∈ quotation text) :
    item.quoted = true := by
  obtain ⟨character, _, rfl⟩ := List.mem_map.mp member
  rfl

/-- Only apostrophes are doubled. -/
theorem doubled_cons {character : Char} (notApostrophe : character ≠ '\'') (text : List Char) :
    doubled (character :: text) = character :: doubled text := by
  rw [doubled, List.flatMap_cons, if_neg notApostrophe]
  rfl

/-- An apostrophe that is not one of a pair starts or ends a quotation. -/
theorem unquote_apostrophe (quoted : Bool) (notPair : rest.head? ≠ some '\'') :
    unquote quoted ('\'' :: rest) = unquote (!quoted) rest := by
  rw [unquote]
  · exact if_pos rfl
  · rintro later _ rfl
    exact notPair rfl

/-- Between the apostrophes, every character stands for itself. -/
theorem unquote_doubled (text : List Char) (notPair : rest.head? ≠ some '\'') :
    unquote true (doubled text ++ '\'' :: rest) = quotation text ++ unquote false rest := by
  induction text with
  | nil => exact unquote_apostrophe true notPair
  | cons character text inductionHypothesis =>
      by_cases isApostrophe : character = '\''
      · subst isApostrophe
        exact congrArg (⟨'\'', true⟩ :: ·) inductionHypothesis
      · rw [doubled_cons isApostrophe, List.cons_append, unquote, if_neg isApostrophe,
          if_neg (by simp), inductionHypothesis]
        · rfl
        · exact fun _ isPair _ => isApostrophe isPair

/-- A quotation is read as the text that it stands for, unless that is only apostrophes. -/
theorem unquote_quote (notOnlyApostrophes : ∃ character ∈ text, character ≠ '\'')
    (notPair : rest.head? ≠ some '\'') :
    unquote false (quote text ++ rest) = quotation text ++ unquote false rest := by
  induction text with
  | nil => simp at notOnlyApostrophes
  | cons character text inductionHypothesis =>
      by_cases isApostrophe : character = '\''
      · -- The opening apostrophe and the first one of the pair mean the apostrophe, and the second
        -- one of the pair opens what is left.
        subst isApostrophe
        have later : ∃ character ∈ text, character ≠ '\'' := by simpa using notOnlyApostrophes
        exact congrArg (⟨'\'', true⟩ :: ·) (inductionHypothesis later)
      · have opens : (doubled (character :: text) ++ '\'' :: rest).head? ≠ some '\'' := by
          rw [doubled_cons isApostrophe]
          simpa using isApostrophe
        calc unquote false (quote (character :: text) ++ rest)
            = unquote false ('\'' :: (doubled (character :: text) ++ '\'' :: rest)) := by
              simp [quote]
          _ = unquote true (doubled (character :: text) ++ '\'' :: rest) :=
              unquote_apostrophe false opens
          _ = quotation (character :: text) ++ unquote false rest :=
              unquote_doubled (character :: text) notPair

/-- The two apostrophes around apostrophes only are read as one more of them. -/
example : unquote false (quote ['\'']) = quotation ['\'', '\''] := by decide

/-! ## A digit beside quotations -/

/-- What is quoted stands for no digit. -/
theorem isNumeric_of_quoted {item : PatternChar} (quoted : item.quoted = true) :
    isNumeric item = false := by
  simp [isNumeric, quoted]

/-- Quoted text beside the digit is an affix, and has no influence on the number. -/
theorem read?_zero {source : List Char} {before after : List PatternChar}
    (items : unquote false source = before ++ ⟨'0', false⟩ :: after)
    (quoted : ∀ item ∈ before ++ after, item.quoted = true) :
    read? source = some ⟨before, after, 1, 0, 0, none, 1⟩ := by
  have notNumeric : ∀ item ∈ before, !isNumeric item := fun item member => by
    simp [isNumeric_of_quoted (quoted item (List.mem_append_left after member))]
  have split : after.takeWhile isNumeric = [] ∧ after.dropWhile isNumeric = after := by
    cases after with
    | nil => exact ⟨rfl, rfl⟩
    | cons first after =>
        have stops := isNumeric_of_quoted (quoted first (by simp))
        simp [stops]
  have noFactor (character : Char) : occurs character (before ++ after) = false := by
    rw [occurs, List.contains_eq_mem, decide_eq_false_iff_not]
    exact fun member => absurd (quoted _ member) Bool.false_ne_true
  have isDigit : isNumeric ⟨'0', false⟩ = true := rfl
  have digits : isDigitMark '0' = true ∧ groupSizeOf ['0'] = none := ⟨rfl, rfl⟩
  simp [read?, items, List.takeWhile_append_of_pos notNumeric,
    List.dropWhile_append_of_pos notNumeric, isDigit, split, factorOf, noFactor, digits]

/-- In any locale, a quoted text is written as it is. -/
theorem affixText_quotation (locale : Locale) (text : List Char) :
    affixText locale (quotation text) = text := by
  rw [affixText, quotation, List.flatMap_map]
  simp

end Pattern

namespace Locale

/-- Without groups and without fraction digits, a whole number is written as its digits. -/
theorem wholeNumber_plain (locale : Locale) (magnitude : Nat) :
    locale.wholeNumber 0 (locale.grouped none (Pattern.wholeDigits 1 magnitude)) =
      Nat.toDigits 10 magnitude := by
  rw [Pattern.wholeDigits_one]
  simp [wholeNumber, grouped, digitsOf]

/-- A whole number in a pattern of quoted text and one digit. -/
theorem formatPattern?_zero (locale : Locale) {source before after : List Char}
    (items : Pattern.unquote false source =
      Pattern.quotation before ++ ⟨'0', false⟩ :: Pattern.quotation after) (value : Int64) :
    locale.formatPattern? (.int value) (String.ofList source) =
      some (String.ofList (Number.signOf value ++ before ++
        Nat.toDigits 10 value.toInt.natAbs ++ after)) := by
  have quoted : ∀ item ∈ Pattern.quotation before ++ Pattern.quotation after,
      item.quoted = true := fun item member =>
    (List.mem_append.mp member).elim Pattern.quoted_of_mem_quotation
      Pattern.quoted_of_mem_quotation
  have isProduct : value.toInt = value.toInt * (1 : Nat) := (Int.mul_one value.toInt).symm
  rw [formatPattern?, String.toList_ofList, Pattern.read?_zero items quoted, Option.bind_some,
    Pattern.format?_int _ locale isProduct, Pattern.affixText_quotation,
    Pattern.affixText_quotation, wholeNumber_plain]
  rfl

/-- A pattern gives quoted text back unchanged, before and behind the digits of a number. -/
theorem keepsQuotedText (locale : Locale) {text : List Char}
    (notOnlyApostrophes : ∃ character ∈ text, character ≠ '\'') (value : Int64) :
    locale.formatPattern? (.int value) (String.ofList (Pattern.quote text ++ ['0'])) =
        some (String.ofList
          (Number.signOf value ++ text ++ Nat.toDigits 10 value.toInt.natAbs)) ∧
      locale.formatPattern? (.int value) (String.ofList ('0' :: Pattern.quote text)) =
        some (String.ofList
          (Number.signOf value ++ Nat.toDigits 10 value.toInt.natAbs ++ text)) := by
  have before : Pattern.unquote false (Pattern.quote text ++ ['0']) =
      Pattern.quotation text ++ ⟨'0', false⟩ :: Pattern.quotation [] :=
    Pattern.unquote_quote notOnlyApostrophes (by simp)
  have behind : Pattern.unquote false ('0' :: Pattern.quote text) =
      Pattern.quotation [] ++ ⟨'0', false⟩ :: Pattern.quotation text := by
    have alone : Pattern.unquote false (Pattern.quote text ++ []) =
        Pattern.quotation text ++ [] :=
      Pattern.unquote_quote notOnlyApostrophes (by simp)
    rw [List.append_nil, List.append_nil] at alone
    exact congrArg (⟨'0', false⟩ :: ·) alone
  constructor
  · simpa using locale.formatPattern?_zero before value
  · simpa using locale.formatPattern?_zero behind value

/-- Every character that means something in a pattern, between apostrophes. -/
theorem keepsQuotedText_marks :
    (∃ character ∈ "''%;‰¤'#0,.'".toList, character ≠ '\'') ∧
      frFR.formatPattern? (.int Int64.minValue) "'''''%;‰¤''#0,.'''0" =
        some "-''%;‰¤'#0,.'9223372036854775808" ∧
      frFR.formatPattern? (.int Int64.minValue) "0'''''%;‰¤''#0,.'''" =
        some "-9223372036854775808''%;‰¤'#0,.'" := by
  have notOnlyApostrophes : ∃ character ∈ "''%;‰¤'#0,.'".toList, character ≠ '\'' :=
    ⟨'%', by decide, by decide⟩
  have ⟨before, behind⟩ := frFR.keepsQuotedText notOnlyApostrophes Int64.minValue
  exact ⟨notOnlyApostrophes, before, behind⟩

end Locale

end MessageTemplate

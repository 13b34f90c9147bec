import Mathlib.Data.List.Chain
import MessageTemplate.Locale.Spelling
import MessageTemplate.Proofs.Decimal.Reading

/-! # Spelling numbers with checked tables

A whole number is spelled by splitting it at the greatest scale that it reaches, and a fraction
digit by digit. Every word is read from its table at a checked index. `spell?_eq` says that for a
whole part of 64 bits no index is behind the end of a table, that a scale is always found, and
that the words are those of `Spelling.spell`. -/

namespace MessageTemplate.Checked

open MessageTemplate.Decimal MessageTemplate.Spelling

/-- The greatest scale that a number reaches. -/
def reachedScale? (value : Nat) : Option (Nat × String) :=
  scales.find? fun scale => decide (scale.1 ≤ value)

/-- Every scale makes a number smaller when it is divided by it. -/
theorem two_le_of_mem_scales {scale : Nat × String} (member : scale ∈ scales) : 2 ≤ scale.1 := by
  have all : ∀ scale ∈ scales, 2 ≤ scale.1 := by decide
  exact all scale member

/-- A scale that a number reaches stands behind those that it does not reach. -/
theorem reachedScale?_eq_some {value : Nat} {scale : Nat × String}
    (found : reachedScale? value = some scale) :
    2 ≤ scale.1 ∧ scale.1 ≤ value ∧
      ∃ earlier later, scales = earlier ++ scale :: later ∧ ∀ other ∈ earlier, value < other.1 := by
  obtain ⟨reaches, earlier, later, whole, greater⟩ := List.find?_eq_some_iff_append.mp found
  have member : scale ∈ scales := List.mem_of_find?_eq_some found
  exact ⟨two_le_of_mem_scales member, of_decide_eq_true reaches, earlier, later, whole,
    fun other isEarlier => by simpa using greater other isEarlier⟩

/-- What a number is split into at a scale is less than the number. -/
theorem split_lt {value : Nat} {scale : Nat × String} (found : reachedScale? value = some scale) :
    value / scale.1 < value ∧ value % scale.1 < value := by
  obtain ⟨atLeastTwo, reaches, -⟩ := reachedScale?_eq_some found
  exact ⟨Nat.div_lt_self (by omega) atLeastTwo, (Nat.mod_lt value (by omega)).trans_le reaches⟩

/-- The words of a whole number, where every word is in its table and some scale is reached. -/
def spellInteger? (value : Nat) : Option String :=
  if value < 20 then ones[value]?
  else if value < 100 then do
    let word ← tens[value / 10]?
    if value % 10 = 0 then return word
    else
      let one ← ones[value % 10]?
      return word ++ "-" ++ one
  else if value < 1000 then do
    let hundreds ← ones[value / 100]?
    if value % 100 = 0 then return hundreds ++ " hundred"
    else
      let rest ← spellInteger? (value % 100)
      return hundreds ++ " hundred" ++ " " ++ rest
  else
    match _ : reachedScale? value with
    | some (size, name) => do
        let head ← spellInteger? (value / size)
        if value % size = 0 then return head ++ " " ++ name
        else
          let rest ← spellInteger? (value % size)
          return head ++ " " ++ name ++ " " ++ rest
    | none => none
termination_by value
decreasing_by
  · omega
  · exact (split_lt (by assumption)).1
  · exact (split_lt (by assumption)).2

/-- The value of a decimal digit, if a character is one. -/
def digitValue? (character : Char) : Option Nat :=
  if character.isDigit then some (character.toNat - '0'.toNat) else none

/-- The words of fraction digits, if they all are digits, where every word is in its table. -/
def spellFraction? : List Char → Option (Option (List String))
  | [] => some (some [])
  | digit :: rest =>
      match digitValue? digit with
      | none => some none
      | some value => do
          let word ← ones[value]?
          let later ← spellFraction? rest
          return later.map (word :: ·)

/-- The words of a sign, a whole part and fraction digits, if these are digits. -/
def spell? (negative : Bool) (integer : Nat) (fraction : List Char) : Option (Option String) := do
  let whole ← spellInteger? integer
  let decimals ← spellFraction? fraction
  return decimals.map fun words =>
    " ".intercalate ((if negative then ["minus"] else []) ++ [whole] ++
      (if fraction.isEmpty then [] else "point" :: words))

/-! ## Words of a whole number -/

variable {value : Nat}

/-- Within its length, a table of words has the word that is taken from it. -/
theorem getElem?_eq_some_getD {items : List String} {index : Nat} (inside : index < items.length) :
    items[index]? = some (items.getD index "") := by
  rw [List.getD_eq_getElem?_getD, List.getElem?_eq_getElem inside, Option.getD_some]

/-- Scales that a number does not reach add nothing to its words. -/
theorem inScales_append {earlier : List (Nat × String)} (later : List (Nat × String))
    (greater : ∀ scale ∈ earlier, value < scale.1) :
    inScales (earlier ++ later) value = inScales later value := by
  induction earlier with
  | nil => rfl
  | cons scale earlier inductionHypothesis =>
      obtain ⟨below, rest⟩ := List.forall_mem_cons.mp greater
      rw [List.cons_append, inScales, Nat.div_eq_of_lt below, if_pos rfl, Nat.mod_eq_of_lt below,
        inductionHypothesis rest, List.nil_append]

/-- Below a thousand no scale is named. -/
theorem words_of_lt_thousand (below : value < 1000) : words value = belowThousand value := by
  have greater : ∀ scale ∈ scales, value < scale.1 := by
    have all : ∀ scale ∈ scales, 1000 ≤ scale.1 := by decide
    exact fun scale member => below.trans_le (all scale member)
  have skipped := inScales_append [] greater
  rw [List.append_nil, inScales] at skipped
  rw [words, skipped]
  split
  case isTrue isZero =>
    subst isZero
    rfl
  case isFalse => rfl

/-- Each scale is a thousand of the next. -/
theorem isChain_scales :
    scales.IsChain fun larger smaller => larger.1 = 1000 * smaller.1 := by
  decide

/-- The part in front of the scale that a number reaches is below a thousand. -/
theorem div_lt_thousand {scale : Nat × String} (small : value < UInt64.size)
    (found : reachedScale? value = some scale) : value / scale.1 < 1000 := by
  obtain ⟨atLeastTwo, -, earlier, later, whole, greater⟩ := reachedScale?_eq_some found
  rw [Nat.div_lt_iff_lt_mul (by omega)]
  rcases List.eq_nil_or_concat earlier with rfl | ⟨before, last, rfl⟩
  · obtain ⟨rfl, -⟩ := List.cons.inj whole
    exact small.trans (by decide)
  · have chain := isChain_scales
    rw [whole, List.concat_eq_append, List.isChain_append] at chain
    have isThousand : last.1 = 1000 * scale.1 := chain.2.2 last (by simp) scale (by simp)
    have below : value < last.1 := greater last (by simp)
    omega

/-- The words of a number that reaches a scale are those of what it is split into. -/
theorem words_of_reachedScale? {size : Nat} {name : String} (small : value < UInt64.size)
    (found : reachedScale? value = some (size, name)) :
    words value =
      words (value / size) ++ name :: (if value % size = 0 then [] else words (value % size)) := by
  obtain ⟨atLeastTwo, reaches, earlier, later, whole, greater⟩ := reachedScale?_eq_some found
  have notZero : value ≠ 0 := by omega
  have headPositive : value / size ≠ 0 := (Nat.div_pos reaches (by omega)).ne'
  have restGreater : ∀ scale ∈ earlier ++ [(size, name)], value % size < scale.1 := by
    have restBelow : value % size < size := Nat.mod_lt value (by omega)
    intro scale member
    rcases List.mem_append.mp member with isEarlier | isLast
    · have := greater scale isEarlier
      omega
    · rwa [List.mem_singleton.mp isLast]
  have restWords : inScales later (value % size) =
      if value % size = 0 then [] else words (value % size) := by
    rw [← inScales_append later restGreater, List.append_assoc, List.singleton_append, ← whole]
    split
    case isTrue isZero =>
      rw [isZero]
      rfl
    case isFalse notZero => rw [words, if_neg notZero]
  rw [words, if_neg notZero, whole, inScales_append _ greater, inScales, if_neg headPositive,
    restWords, words_of_lt_thousand (div_lt_thousand small found), List.append_assoc]
  rfl

/-- A number of at least a thousand reaches a scale. -/
theorem exists_reachedScale? (atLeast : 1000 ≤ value) :
    ∃ scale, reachedScale? value = some scale := by
  rw [← Option.isSome_iff_exists, reachedScale?, List.find?_isSome]
  exact ⟨(1000, "thousand"), by decide, by simpa using atLeast⟩

/-- Every number of 64 bits has a word. -/
theorem words_ne_nil (small : value < UInt64.size) : words value ≠ [] := by
  by_cases below : value < 1000
  · rw [words_of_lt_thousand below, belowThousand]
    split <;> simp
  · obtain ⟨scale, found⟩ := exists_reachedScale? (Nat.le_of_not_lt below)
    simp [words_of_reachedScale? small found]

/-! ## No index is out of its table -/

/-- A word of a number below a hundred is read at indices of its tables. -/
theorem spellInteger?_of_lt_hundred (below : value < 100) :
    spellInteger? value = some (belowHundred value) := by
  have onesLength : ones.length = 20 := rfl
  have tensLength : tens.length = 10 := rfl
  rw [spellInteger?, belowHundred]
  by_cases belowTwenty : value < 20
  · rw [if_pos belowTwenty, if_pos belowTwenty, getElem?_eq_some_getD (by omega)]
  · have tensWord := getElem?_eq_some_getD (show value / 10 < tens.length by omega)
    have onesWord := getElem?_eq_some_getD (show value % 10 < ones.length by omega)
    rw [if_neg belowTwenty, if_neg belowTwenty, if_pos below, tensWord, onesWord]
    split <;> rfl

/-- So is that in front of the hundreds. -/
theorem spellInteger?_of_lt_thousand (below : value < 1000) :
    spellInteger? value = some (" ".intercalate (belowThousand value)) := by
  rw [Spelling.belowThousand]
  by_cases belowHundred : value < 100
  · rw [spellInteger?_of_lt_hundred belowHundred, if_pos belowHundred,
      String.intercalate_singleton]
  · have notBelowTwenty : ¬value < 20 := by omega
    have inside : value / 100 < ones.length := (show value / 100 < 20 by omega)
    have onesWord := getElem?_eq_some_getD inside
    rw [spellInteger?, if_neg notBelowTwenty, if_neg belowHundred, if_pos below, onesWord,
      if_neg belowHundred]
    split
    case isTrue => simp [String.intercalate_cons_cons, String.append_assoc]
    case isFalse =>
      have word : " hundred" = " " ++ "hundred" := rfl
      have rest : value % 100 < 100 := Nat.mod_lt value (by decide)
      rw [spellInteger?_of_lt_hundred rest]
      simp only [word, List.cons_append, List.nil_append, String.intercalate_cons_cons,
        String.intercalate_singleton, String.append_assoc]
      rfl

/-- A number of 64 bits is spelled, and its words are those of the number. -/
theorem spellInteger?_eq (small : value < UInt64.size) :
    spellInteger? value = some (" ".intercalate (words value)) := by
  induction value using Nat.strongRecOn with
  | ind value inductionHypothesis =>
    by_cases belowThousand : value < 1000
    · rw [spellInteger?_of_lt_thousand belowThousand, words_of_lt_thousand belowThousand]
    · have notBelowTwenty : ¬value < 20 := by omega
      have notBelowHundred : ¬value < 100 := by omega
      rw [spellInteger?, if_neg notBelowTwenty, if_neg notBelowHundred, if_neg belowThousand]
      split
      case h_1 size name found =>
        obtain ⟨headLess, restLess⟩ := split_lt found
        have headSmall := headLess.trans small
        rw [inductionHypothesis _ headLess headSmall, words_of_reachedScale? small found]
        split
        case isTrue =>
          rw [String.intercalate_append_of_ne_nil (words_ne_nil headSmall)
            (List.cons_ne_nil name [])]
          simp
        case isFalse =>
          have restSmall := restLess.trans small
          rw [inductionHypothesis _ restLess restSmall,
            String.intercalate_append_of_ne_nil (words_ne_nil headSmall) (List.cons_ne_nil name _),
            String.intercalate_cons_of_ne_nil (words_ne_nil restSmall)]
          simp [String.append_assoc]
      case h_2 found =>
        obtain ⟨scale, reached⟩ := exists_reachedScale? (Nat.le_of_not_lt belowThousand)
        rw [reached] at found
        cases found

/-- The value of a decimal digit is its distance from zero. -/
theorem digitValue?_of_isDigit {digit : Char} (isDigit : digit.isDigit = true) :
    digitValue? digit = some (digit.toNat - '0'.toNat) :=
  if_pos isDigit

/-- Fraction digits are spelled, each with its word. -/
theorem spellFraction?_eq {fraction : List Char}
    (digits : ∀ digit ∈ fraction, digit.isDigit = true) :
    spellFraction? fraction = some (some (fraction.map digitWord)) := by
  induction fraction with
  | nil => rfl
  | cons digit fraction inductionHypothesis =>
      obtain ⟨isDigit, later⟩ := List.forall_mem_cons.mp digits
      have inside : digit.toNat - '0'.toNat < ones.length :=
        (digit_lt_ten isDigit).trans (by decide)
      simp only [spellFraction?, digitValue?_of_isDigit isDigit, getElem?_eq_some_getD inside,
        inductionHypothesis later]
      rfl

/-- Words may be joined before those around them are. -/
theorem sentence_nested {middle : List String} (nonempty : middle ≠ [])
    (before after : List String) :
    " ".intercalate (before ++ [" ".intercalate middle] ++ after) =
      " ".intercalate (before ++ middle ++ after) := by
  have joined (after : List String) :
      " ".intercalate ([" ".intercalate middle] ++ after) = " ".intercalate (middle ++ after) := by
    cases after with
    | nil => simp
    | cons word later =>
        rw [String.intercalate_append_of_ne_nil (List.cons_ne_nil _ _) (List.cons_ne_nil _ _),
          String.intercalate_append_of_ne_nil nonempty (List.cons_ne_nil _ _), String.intercalate_singleton]
  cases before with
  | nil => exact joined after
  | cons word earlier =>
      have oneNonempty : [" ".intercalate middle] ++ after ≠ [] := List.cons_ne_nil _ _
      have allNonempty : middle ++ after ≠ [] := List.append_ne_nil_of_left_ne_nil nonempty after
      rw [List.append_assoc, List.append_assoc,
        String.intercalate_append_of_ne_nil (List.cons_ne_nil word earlier) oneNonempty, joined,
        String.intercalate_append_of_ne_nil (List.cons_ne_nil word earlier) allNonempty]

/-- A whole part of 64 bits and fraction digits are spelled. -/
theorem spell?_eq {integer : Nat} {fraction : List Char} (negative : Bool)
    (small : integer < UInt64.size) (digits : ∀ digit ∈ fraction, digit.isDigit = true) :
    spell? negative integer fraction = some (some (spell negative integer fraction)) := by
  have nested := sentence_nested (words_ne_nil small) (if negative then ["minus"] else [])
    (if fraction.isEmpty then [] else "point" :: fraction.map digitWord)
  rw [spell?, spellInteger?_eq small, spellFraction?_eq digits, spell, ← nested]
  rfl

end MessageTemplate.Checked

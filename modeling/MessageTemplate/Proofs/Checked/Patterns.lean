import MessageTemplate.Operator.Numeric
import MessageTemplate.Proofs.Checked.Numbers
import MessageTemplate.Proofs.Checked.Split
import MessageTemplate.Proofs.Locale.Integers

/-! # Number patterns by checked indices

The parts of a pattern are reached by the indices of its digits, and its last group by the byte
offset of the comma. `formatBy?_eq` says that no check fails when a number is formatted by an
argument, and that the text is the one that `Operator.formatBy?` gives. How many fraction digits
a double can be rounded to is not checked here. -/

namespace MessageTemplate.Checked

open MessageTemplate.Text

/-- The part of a list between two indices, where they are in order and none is behind the end. -/
def part? {α : Type} (items : List α) (start stop : Nat) : Option (List α) :=
  if start ≤ stop ∧ stop ≤ items.length then some ((items.take stop).drop start) else none

/-- The offset of the last occurrence of a character in a text that starts at byte `offset`. -/
def lastOffset? (sought : Char) : (offset : Nat) → List Char → Option Nat
  | _, [] => none
  | offset, character :: rest =>
      match lastOffset? sought (offset + character.utf8Size) rest with
      | some found => some found
      | none => if character = sought then some offset else none

/-- The size of the last group: the digits after the last comma. -/
def groupSize? (integer : List Char) : Option (Option Nat) :=
  match lastOffset? ',' 0 integer with
  | none => some none
  | some comma => do
      let last ← slice? integer (comma + 1) (bytesOf integer).length
      let size := last.countP Pattern.isDigitMark
      return if size = 0 then none else some size

/-- What stands before the digits of a pattern, its digits, and what stands after them. A pattern
without digits has no such parts. -/
def patternParts? (items : List PatternChar) :
    Option (Option (List PatternChar × List PatternChar × List PatternChar)) :=
  match items.findIdx? Pattern.isNumeric with
  | none => some none
  | some start => do
      let fromDigits ← part? items start items.length
      let count := fromDigits.findIdx? fun item => !Pattern.isNumeric item
      let stop := (count.map (start + ·)).getD items.length
      let before ← part? items 0 start
      let digits ← part? items start stop
      let after ← part? items stop items.length
      return some (before, digits, after)

/-- Reads a pattern by the indices of its parts. -/
def readPattern? (source : List Char) : Option (Option Pattern) := do
  match ← patternParts? (Pattern.unquote false source) with
  | none => return none
  | some (before, digits, after) =>
      let body := digits.map PatternChar.character
      let integer := body.takeWhile (· != '.')
      let fraction := (body.dropWhile (· != '.')).drop 1
      if !body.any Pattern.isDigitMark || fraction.contains '.' || fraction.contains ',' then
        return none
      else
        let groupSize ← groupSize? integer
        return some
          { before, after
            leastInteger := integer.count '0'
            leastFraction := fraction.count '0'
            mostFraction := fraction.countP Pattern.isDigitMark
            groupSize
            factor := Pattern.factorOf (before ++ after) }

/-- A number written in a pattern given as text. -/
def formatPattern? (locale : Locale) (number : Number) (source : String) :
    Option (Option String) := do
  let read ← readPattern? source.toList
  return read.bind fun pattern =>
    (Digits.fixed? (scaled pattern.factor number) pattern.leastFraction pattern.mostFraction).map
      fun digits => String.ofList
        (digits.sign ++ Pattern.affixText locale pattern.before ++
          locale.joinDigits digits pattern.leastInteger pattern.groupSize ++
          Pattern.affixText locale pattern.after)

/-- A number in the style that an argument names, or else in the pattern it spells. -/
def formatBy? (locale : Locale) (number : Number) (argument : Option String) :
    Option (Option String) :=
  match argument with
  | none | some "" => formatNumber? locale number .decimal
  | some format =>
      match NumberStyle.ofKeyword? format with
      | some style => formatNumber? locale number style
      | none => formatPattern? locale number format

/-- What stands between two texts is the slice between their lengths. -/
theorem part?_append {α : Type} (before part after : List α) :
    part? (before ++ part ++ after) before.length (before.length + part.length) = some part := by
  have inside : before.length ≤ before.length + part.length ∧
      before.length + part.length ≤ (before ++ part ++ after).length := by
    simp only [List.length_append]
    omega
  rw [part?, if_pos inside, ← List.length_append, List.take_left, List.drop_left]

/-- A character that does not occur has no last offset. -/
theorem lastOffset?_eq_none {sought : Char} {text : List Char} (notMember : sought ∉ text)
    (offset : Nat) : lastOffset? sought offset text = none := by
  induction text generalizing offset with
  | nil => rfl
  | cons character rest inductionHypothesis =>
      obtain ⟨differs, notLater⟩ := List.ne_and_not_mem_of_not_mem_cons notMember
      rw [lastOffset?, inductionHypothesis notLater]
      exact if_neg (Ne.symm differs)

/-- The last offset of a character is where it stands with none behind it. -/
theorem lastOffset?_append {sought : Char} {last : List Char} (notMember : sought ∉ last)
    (before : List Char) (offset : Nat) :
    lastOffset? sought offset (before ++ sought :: last) = some (offset + byteLength before) := by
  induction before generalizing offset with
  | nil =>
      rw [List.nil_append, lastOffset?, lastOffset?_eq_none notMember]
      exact if_pos rfl
  | cons character before inductionHypothesis =>
      rw [List.cons_append, lastOffset?, inductionHypothesis, byteLength_cons, Nat.add_assoc]

/-- The slice behind the last comma exists. -/
theorem groupSize?_eq (integer : List Char) :
    groupSize? integer = some (Pattern.groupSizeOf integer) := by
  rw [groupSize?, Pattern.groupSizeOf]
  by_cases member : ',' ∈ integer
  · obtain ⟨last, before, split, notLater⟩ :=
      List.eq_append_cons_of_mem (List.mem_reverse.mpr member)
    have whole : integer = before.reverse ++ ',' :: last.reverse := by
      rw [← List.reverse_reverse integer, split]
      simp
    have ended : (last ++ ',' :: before).takeWhile (· != ',') = last := by
      rw [List.takeWhile_append_of_pos fun character isLast => by
        simpa using ne_of_mem_of_not_mem isLast notLater]
      simp
    have cut : slice? integer (byteLength before.reverse + 1) (bytesOf integer).length =
        some last.reverse := by
      have slice := slice?_append (before.reverse ++ [',']) last.reverse []
      have size : ','.utf8Size = 1 := rfl
      rw [length_bytesOf, whole]
      simpa [size, Nat.add_assoc] using slice
    have noted : lastOffset? ',' 0 integer = some (byteLength before.reverse) := by
      rw [whole, lastOffset?_append (by simpa using notLater), Nat.zero_add]
    have contained : integer.contains ',' = true := List.contains_iff_mem.mpr member
    simp only [noted, cut, contained, split, ended, if_true, Option.bind_eq_bind,
      Option.bind_some, List.countP_reverse]
    rfl
  · rw [lastOffset?_eq_none member]
    simp [member]

/-- The first index with a property, by what stands before it. -/
theorem findIdx?_eq {α : Type} (isSought : α → Bool) (items : List α) :
    items.findIdx? isSought =
      if items.dropWhile (fun item => !isSought item) = [] then none
      else some (items.takeWhile fun item => !isSought item).length := by
  induction items with
  | nil => rfl
  | cons item items inductionHypothesis =>
      rw [List.findIdx?_cons, inductionHypothesis, List.dropWhile_cons, List.takeWhile_cons]
      cases isSought item with
      | true => simp
      | false =>
          simp only [Bool.not_false, Bool.false_eq_true, if_false, if_true, List.length_cons]
          split <;> rfl

/-- The parts of a pattern are reached by their indices. -/
theorem patternParts?_eq (items : List PatternChar) :
    patternParts? items =
      some (
        let before := items.takeWhile fun item => !Pattern.isNumeric item
        let fromDigits := items.dropWhile fun item => !Pattern.isNumeric item
        if fromDigits = [] then none
        else some (before, fromDigits.takeWhile Pattern.isNumeric,
          fromDigits.dropWhile Pattern.isNumeric)) := by
  have split :=
    List.takeWhile_append_dropWhile (p := fun item => !Pattern.isNumeric item) (l := items)
  rw [patternParts?, findIdx?_eq]
  generalize items.takeWhile (fun item => !Pattern.isNumeric item) = before at split ⊢
  generalize items.dropWhile (fun item => !Pattern.isNumeric item) = fromDigits at split ⊢
  dsimp only
  by_cases noDigits : fromDigits = []
  · rw [if_pos noDigits, if_pos noDigits]
  · have splitDigits :=
      List.takeWhile_append_dropWhile (p := Pattern.isNumeric) (l := fromDigits)
    have stop := findIdx?_eq (fun item => !Pattern.isNumeric item) fromDigits
    simp only [Bool.not_not] at stop
    generalize fromDigits.takeWhile Pattern.isNumeric = digits at splitDigits stop ⊢
    generalize fromDigits.dropWhile Pattern.isNumeric = after at splitDigits stop ⊢
    subst splitDigits split
    -- Each slice is cut at the lengths of the three parts.
    have fromDigitsPart := part?_append before (digits ++ after) []
    have beforePart := part?_append [] before (digits ++ after)
    have digitsPart := part?_append before digits after
    have afterPart := part?_append (before ++ digits) after []
    simp only [List.append_nil, List.nil_append, List.length_nil, Nat.zero_add, List.append_assoc,
      ← List.length_append] at fromDigitsPart beforePart digitsPart afterPart
    have stopIndex : (((digits ++ after).findIdx? fun item => !Pattern.isNumeric item).map
        (before.length + ·)).getD (before ++ (digits ++ after)).length =
          (before ++ digits).length := by
      rw [stop]
      cases after <;> simp
    rw [if_neg noDigits, if_neg noDigits]
    simp only [fromDigitsPart, Option.bind_eq_bind, Option.bind_some, stopIndex, beforePart,
      digitsPart, afterPart]
    rfl

/-- Every part of a pattern is reached by its indices. -/
theorem readPattern?_eq (source : List Char) :
    readPattern? source = some (Pattern.read? source) := by
  rw [readPattern?, Pattern.read?, patternParts?_eq]
  generalize Pattern.unquote false source = items
  dsimp only
  by_cases noDigits : items.dropWhile (fun item => !Pattern.isNumeric item) = []
  · simp [noDigits]
  · simp only [if_neg noDigits, Option.bind_eq_bind, Option.bind_some, groupSize?_eq]
    split <;> rfl

/-- A pattern multiplies by at most a thousand. -/
theorem factor_lt {source : List Char} {pattern : Pattern}
    (isPattern : Pattern.read? source = some pattern) : pattern.factor < 2 ^ 63 := by
  have factor := Pattern.factor_cases isPattern
  omega

/-- Every slice and every product that a pattern asks for is in range. -/
theorem formatPattern?_eq (locale : Locale) (number : Number) (source : String) :
    formatPattern? locale number source = some (locale.formatPattern? number source) := by
  rw [formatPattern?, readPattern?_eq, Locale.formatPattern?]
  cases isPattern : Pattern.read? source.toList with
  | none => rfl
  | some pattern =>
      simp [scaled_eq (factor_lt isPattern), Pattern.format?, Function.comp_def]

/-- No check fails when a number is formatted by an argument. -/
theorem formatBy?_eq (locale : Locale) (number : Number) (argument : Option String) :
    formatBy? locale number argument = some (Operator.formatBy? locale number argument) := by
  match argument with
  | none => exact formatNumber?_eq locale number .decimal
  | some format =>
      by_cases isEmpty : format = ""
      · subst isEmpty
        exact formatNumber?_eq locale number .decimal
      · cases keyword : NumberStyle.ofKeyword? format with
        | some style =>
            simp [formatBy?, Operator.formatBy?, keyword, formatNumber?_eq]
        | none =>
            simp [formatBy?, Operator.formatBy?, keyword, formatPattern?_eq]

end MessageTemplate.Checked

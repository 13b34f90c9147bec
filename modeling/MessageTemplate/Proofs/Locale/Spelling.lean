import Mathlib.Algebra.Group.Nat.Defs
import MessageTemplate.Locale.Style
import MessageTemplate.Text.Parts

/-! # Numbers read from words

Every whole number of 64 bits is spelled out, and it is the number that its words are read as:
`Spelling.readsBack`. So no two of them are spelled alike.

The reader has an English vocabulary of its own: it shares no word list with the speller, and knows
nothing of how a number is divided when it is spelled. It goes through the words from left to right
and takes more than what is ever written, such as scales in another order. It does not say which
texts are spellings. -/

namespace MessageTemplate

/-! ## Parts of joined texts -/

namespace Text

variable {separator : Char} {part : List Char}

/-- A text without separators is one part. -/
theorem parts_of_not_mem (notMember : separator ∉ part) : parts separator part = [part] := by
  induction part with
  | nil => rfl
  | cons character rest inductionHypothesis =>
      obtain ⟨differs, later⟩ := List.ne_and_not_mem_of_not_mem_cons notMember
      rw [parts, if_neg (Ne.symm differs), inductionHypothesis later]
      rfl

/-- A part without separators ends at the first separator. -/
theorem parts_append_cons (notMember : separator ∉ part) (rest : List Char) :
    parts separator (part ++ separator :: rest) = part :: parts separator rest := by
  induction part with
  | nil => exact if_pos rfl
  | cons character part inductionHypothesis =>
      obtain ⟨differs, later⟩ := List.ne_and_not_mem_of_not_mem_cons notMember
      rw [List.cons_append, parts, if_neg (Ne.symm differs), inductionHypothesis later]
      rfl

/-- Parts without separators are found again where they have been joined. -/
theorem parts_intercalate {items : List (List Char)} (nonempty : items ≠ [])
    (uncut : ∀ item ∈ items, separator ∉ item) :
    parts separator ([separator].intercalate items) = items := by
  induction items with
  | nil => exact absurd rfl nonempty
  | cons item items inductionHypothesis =>
      obtain ⟨notMember, later⟩ := List.forall_mem_cons.mp uncut
      cases items with
      | nil => simpa using parts_of_not_mem notMember
      | cons next items =>
          rw [List.intercalate_cons_cons, List.append_assoc, List.singleton_append,
            parts_append_cons notMember, inductionHypothesis (List.cons_ne_nil _ _) later]

end Text

namespace Spelling

/-! ## The vocabulary of the reader -/

/-- The English words of the numbers below twenty. -/
def units : List (String × Nat) :=
  [("zero", 0), ("one", 1), ("two", 2), ("three", 3), ("four", 4), ("five", 5), ("six", 6),
   ("seven", 7), ("eight", 8), ("nine", 9), ("ten", 10), ("eleven", 11), ("twelve", 12),
   ("thirteen", 13), ("fourteen", 14), ("fifteen", 15), ("sixteen", 16), ("seventeen", 17),
   ("eighteen", 18), ("nineteen", 19)]

/-- The English words of the multiples of ten from twenty on. -/
def multiplesOfTen : List (String × Nat) :=
  [("twenty", 20), ("thirty", 30), ("forty", 40), ("fifty", 50), ("sixty", 60), ("seventy", 70),
   ("eighty", 80), ("ninety", 90)]

/-- The English words of the powers of a thousand, as far as they are needed. -/
def powersOfThousand : List (String × Nat) :=
  [("thousand", 10 ^ 3), ("million", 10 ^ 6), ("billion", 10 ^ 9), ("trillion", 10 ^ 12),
   ("quadrillion", 10 ^ 15), ("quintillion", 10 ^ 18)]

/-! ## Reading words -/

/-- Reads a word of a number below a hundred. A multiple of ten may be joined by a hyphen to one
of the numbers from one to nine. -/
def readBelowHundred? (word : String) : Option Nat :=
  match (Text.parts '-' word.toList).map String.ofList with
  | [single] => (units.lookup single).or (multiplesOfTen.lookup single)
  | [ten, one] => do
      let unit ← units.lookup one
      guard (0 < unit ∧ unit < 10)
      return (← multiplesOfTen.lookup ten) + unit
  | _ => none

/-- What the words so far say: a number up to the last scale that was named, and the number of the
words behind it. -/
structure Reading where
  named : Nat
  group : Nat
deriving DecidableEq, Repr

namespace Reading

/-- Goes on with a word. A scale multiplies the number of the words before it. -/
def add? (reading : Reading) (word : String) : Option Reading :=
  if word = "hundred" then some { reading with group := 100 * reading.group }
  else
    match powersOfThousand.lookup word with
    | some size => some ⟨reading.named + reading.group * size, 0⟩
    | none =>
        (readBelowHundred? word).map fun value => { reading with group := reading.group + value }

/-- Goes on with some words. -/
def addAll? (reading : Reading) (words : List String) : Option Reading :=
  words.foldlM add? reading

/-- The number that has been read. -/
def value (reading : Reading) : Nat :=
  reading.named + reading.group

end Reading

/-- Reads a natural number from its words. -/
def readWords? (words : List String) : Option Nat :=
  ((Reading.mk 0 0).addAll? words).map Reading.value

/-- Reads a whole number from words with a space between them. -/
def read? (text : String) : Option Int :=
  match (Text.parts ' ' text.toList).map String.ofList with
  | "minus" :: words => (readWords? words).map fun magnitude => -(magnitude : Int)
  | words => (readWords? words).map Int.ofNat

/-! ## Words of a number -/

/-- The word of a number below a hundred is read as that number. It is no scale, and
there is no space in it. -/
structure IsCounting (value : Nat) (word : String) : Prop where
  read : readBelowHundred? word = some value
  notHundred : word ≠ "hundred"
  notScale : powersOfThousand.lookup word = none
  uncut : ' ' ∉ word.toList

instance (value : Nat) (word : String) : Decidable (IsCounting value word) :=
  decidable_of_iff
    (readBelowHundred? word = some value ∧ word ≠ "hundred" ∧
      powersOfThousand.lookup word = none ∧ ' ' ∉ word.toList)
    ⟨fun ⟨read, notHundred, notScale, uncut⟩ =>
      ⟨read, notHundred, notScale, uncut⟩,
     fun ⟨read, notHundred, notScale, uncut⟩ =>
      ⟨read, notHundred, notScale, uncut⟩⟩

/-- The words of the program below twenty are read as their numbers. -/
theorem isCounting_ones : ∀ value < 20, IsCounting value (ones.getD value "") := by
  decide +kernel

/-- The words of the program below a hundred are read as their numbers. -/
theorem isCounting_belowHundred : ∀ value < 100, IsCounting value (belowHundred value) := by
  decide +kernel

variable {value named group : Nat} {word : String}

/-- A word of a number below a hundred adds this number. -/
theorem IsCounting.add? (counting : IsCounting value word) (reading : Reading) :
    reading.add? word = some { reading with group := reading.group + value } := by
  rw [Reading.add?, if_neg counting.notHundred, counting.notScale, counting.read]
  rfl

/-- Words are read one after the other. -/
theorem addAll?_cons (reading : Reading) (word : String) (words : List String) :
    reading.addAll? (word :: words) = (reading.add? word).bind (·.addAll? words) :=
  List.foldlM_cons

/-- Words may be read in two parts. -/
theorem addAll?_append (reading : Reading) (first second : List String) :
    reading.addAll? (first ++ second) = (reading.addAll? first).bind (·.addAll? second) :=
  List.foldlM_append

/-- The words of a number below a thousand are read as that number behind any scale. -/
theorem addAll?_belowThousand (small : value < 1000) (named : Nat) :
    (Reading.mk named 0).addAll? (belowThousand value) = some ⟨named, value⟩ := by
  rw [belowThousand]
  split
  · next below =>
      rw [addAll?_cons, (isCounting_belowHundred value below).add?, Nat.zero_add]
      rfl
  · have hundreds := isCounting_ones (value / 100) (by omega)
    have rest := isCounting_belowHundred (value % 100) (Nat.mod_lt value (by decide))
    have first : (Reading.mk named 0).addAll? [ones.getD (value / 100) "", "hundred"] =
        some ⟨named, 100 * (value / 100)⟩ := by
      rw [addAll?_cons, hundreds.add?, Nat.zero_add]
      rfl
    rw [addAll?_append, first, Option.bind_some]
    split
    · next isZero =>
        have whole : 100 * (value / 100) = value := by omega
        rw [whole]
        rfl
    · rw [addAll?_cons, rest.add?, Nat.div_add_mod]
      rfl

/-! ## Scales -/

/-- The numbers that some scales are enough for lie below this one. -/
def limit : List (Nat × String) → Nat
  | [] => 1000
  | (size, _) :: _ => 1000 * size

/-- Whether scales are read by their names and each begins where the smaller ones end. -/
def IsLadder : List (Nat × String) → Prop
  | [] => True
  | (size, name) :: smaller =>
      (name ≠ "hundred" ∧ ' ' ∉ name.toList ∧ powersOfThousand.lookup name = some size) ∧
        size = limit smaller ∧ 0 < size ∧ IsLadder smaller

/-- The scales of the program are read by their names, and each begins where the smaller ones
end. -/
theorem isLadder_scales : IsLadder scales := by
  simp only [IsLadder, scales]
  decide +kernel

/-- The words of a number are read as that number, where the scales are enough for it. -/
theorem exists_addAll?_inScales {ladder : List (Nat × String)} (isLadder : IsLadder ladder)
    (small : value < limit ladder) (named : Nat) :
    ∃ reading, (Reading.mk named 0).addAll? (inScales ladder value) = some reading ∧
      reading.value = named + value := by
  induction ladder generalizing value named with
  | nil =>
      rw [inScales]
      split
      · next isZero =>
          rw [isZero]
          exact ⟨⟨named, 0⟩, rfl, rfl⟩
      · exact ⟨⟨named, value⟩, addAll?_belowThousand small named, rfl⟩
  | cons scale smaller inductionHypothesis =>
      obtain ⟨size, name⟩ := scale
      obtain ⟨⟨notHundred, -, found⟩, isLimit, positive, later⟩ := isLadder
      have head : value / size < 1000 := (Nat.div_lt_iff_lt_mul positive).mpr small
      have rest : value % size < limit smaller := isLimit ▸ Nat.mod_lt value positive
      have scaled : (Reading.mk named (value / size)).add? name =
          some ⟨named + value / size * size, 0⟩ := by
        rw [Reading.add?, if_neg notHundred, found]
      -- Either no word stands for this scale, or the count below a thousand and its name.
      have first : (Reading.mk named 0).addAll?
          (if value / size = 0 then [] else belowThousand (value / size) ++ [name]) =
            some ⟨named + value / size * size, 0⟩ := by
        split
        · next isZero =>
            rw [isZero, Nat.zero_mul]
            rfl
        · rw [addAll?_append, addAll?_belowThousand head, Option.bind_some, addAll?_cons, scaled]
          rfl
      obtain ⟨reading, isRead, isValue⟩ :=
        inductionHypothesis later rest (named + value / size * size)
      refine ⟨reading, ?_, ?_⟩
      · rw [inScales, addAll?_append, first, Option.bind_some, isRead]
      · rw [isValue, Nat.add_assoc, Nat.div_add_mod']

/-- The words of a number are read as that number. -/
theorem readWords?_words (small : value < limit scales) :
    readWords? (words value) = some value := by
  rw [words]
  split
  · next isZero =>
      rw [isZero]
      decide +kernel
  · obtain ⟨reading, isRead, isValue⟩ := exists_addAll?_inScales isLadder_scales small 0
    rw [readWords?, isRead, Option.map_some, isValue, Nat.zero_add]

/-! ## Texts -/

/-- No word of a number below a thousand has a space in it. -/
theorem uncut_belowThousand (small : value < 1000) :
    ∀ word ∈ belowThousand value, ' ' ∉ word.toList := by
  intro word member
  rw [belowThousand] at member
  split at member
  · next below =>
      rw [List.mem_singleton.mp member]
      exact (isCounting_belowHundred value below).uncut
  · have rest := isCounting_belowHundred (value % 100) (Nat.mod_lt value (by decide))
    rcases List.mem_append.mp member with first | second
    · rcases List.mem_cons.mp first with rfl | isHundred
      · exact (isCounting_ones (value / 100) (by omega)).uncut
      · rw [List.mem_singleton.mp isHundred]
        decide
    · split at second
      · cases second
      · rw [List.mem_singleton.mp second]
        exact rest.uncut

/-- No word of a number has a space in it, where the scales are enough for it. -/
theorem uncut_inScales {ladder : List (Nat × String)} (isLadder : IsLadder ladder)
    (small : value < limit ladder) : ∀ word ∈ inScales ladder value, ' ' ∉ word.toList := by
  induction ladder generalizing value with
  | nil =>
      rw [inScales]
      split
      · exact List.forall_mem_nil _
      · exact uncut_belowThousand small
  | cons scale smaller inductionHypothesis =>
      obtain ⟨size, name⟩ := scale
      obtain ⟨⟨-, uncut, -⟩, isLimit, positive, later⟩ := isLadder
      have head : value / size < 1000 := (Nat.div_lt_iff_lt_mul positive).mpr small
      have rest : value % size < limit smaller := isLimit ▸ Nat.mod_lt value positive
      intro word member
      rw [inScales] at member
      rcases List.mem_append.mp member with first | second
      · split at first
        · cases first
        · rcases List.mem_append.mp first with counted | named
          · exact uncut_belowThousand head word counted
          · rwa [List.mem_singleton.mp named]
      · exact inductionHypothesis later rest word second

/-- No word of a number has a space in it. -/
theorem uncut_words (small : value < limit scales) : ∀ word ∈ words value, ' ' ∉ word.toList := by
  rw [words]
  split
  · decide +kernel
  · exact uncut_inScales isLadder_scales small

/-- Every number has a word. -/
theorem words_ne_nil (small : value < limit scales) : words value ≠ [] := by
  intro isEmpty
  have isRead := readWords?_words small
  rw [isEmpty] at isRead
  cases isRead
  exact absurd isEmpty (List.cons_ne_nil _ _)

/-- The sign is no word of a number. -/
theorem readWords?_minus (words : List String) : readWords? ("minus" :: words) = none := by
  have notRead : (Reading.mk 0 0).add? "minus" = none := by decide +kernel
  rw [readWords?, addAll?_cons, notRead]
  rfl

/-- Words without spaces are found again where they have been joined. -/
theorem parts_intercalate {words : List String} (nonempty : words ≠ [])
    (uncut : ∀ word ∈ words, ' ' ∉ word.toList) :
    (Text.parts ' ' (" ".intercalate words).toList).map String.ofList = words := by
  have uncutLists : ∀ item ∈ words.map String.toList, ' ' ∉ item := by
    intro item member
    obtain ⟨word, isWord, rfl⟩ := List.mem_map.mp member
    exact uncut word isWord
  have nonemptyLists : words.map String.toList ≠ [] := fun isEmpty =>
    nonempty (List.map_eq_nil_iff.mp isEmpty)
  have isSpace : " ".toList = [' '] := rfl
  rw [String.toList_intercalate, isSpace, Text.parts_intercalate nonemptyLists uncutLists,
    List.map_map]
  exact List.map_id'' (fun word => String.ofList_toList) words

/-- A spelled number is read with its sign. -/
theorem read?_spell (negative : Bool) (small : value < limit scales) :
    read? (spell negative value []) = some (Decimal.signed negative value) := by
  have isRead := readWords?_words small
  have nonempty := words_ne_nil small
  have uncut := uncut_words small
  cases negative with
  | false =>
      have notSign (rest : List String) : words value ≠ "minus" :: rest := by
        intro isSign
        rw [isSign, readWords?_minus] at isRead
        cases isRead
      have isText : spell false value [] = " ".intercalate (words value) := by
        simp [spell]
      rw [read?, isText, parts_intercalate nonempty uncut]
      split
      · next rest isSign => exact absurd isSign (notSign rest)
      · rw [isRead]
        rfl
  | true =>
      have isText : spell true value [] = " ".intercalate ("minus" :: words value) := by
        simp [spell]
      have uncutSign : ∀ word ∈ "minus" :: words value, ' ' ∉ word.toList :=
        List.forall_mem_cons.mpr ⟨by decide, uncut⟩
      rw [read?, isText, parts_intercalate (List.cons_ne_nil _ _) uncutSign]
      simp only [isRead]
      rfl

/-- Every whole number is spelled out and read back, so that no two are spelled alike. -/
theorem readsBack :
    (∀ value : Int64, ∃ text, spellOut? (.int value) = some text ∧
        read? text = some value.toInt) ∧
      Function.Injective fun value : Int64 => spellOut? (.int value) := by
  have readBack (value : Int64) :
      ∃ text, spellOut? (.int value) = some text ∧ read? text = some value.toInt := by
    have small : value.toInt.natAbs < limit scales := by
      have least := value.le_toInt
      have greatest := value.toInt_lt
      have isLimit : limit scales = 10 ^ 21 := by decide
      omega
    have isSigned : Decimal.signed (decide (value < 0)) value.toInt.natAbs = value.toInt := by
      have sign : value < 0 ↔ value.toInt < 0 := Int64.lt_iff_toInt_lt
      rw [Decimal.signed]
      simp only [decide_eq_true_eq, sign]
      omega
    exact ⟨_, rfl, (read?_spell (decide (value < 0)) small).trans (congrArg some isSigned)⟩
  refine ⟨readBack, fun left right sameSpelling => ?_⟩
  obtain ⟨leftText, leftSpelled, leftRead⟩ := readBack left
  obtain ⟨rightText, rightSpelled, rightRead⟩ := readBack right
  have sameText : leftText = rightText :=
    Option.some.inj (leftSpelled.symm.trans (sameSpelling.trans rightSpelled))
  rw [sameText, rightRead] at leftRead
  exact Int64.toInt_inj.mp (Option.some.inj leftRead).symm

/-- The least whole number, which has all the scales. -/
theorem readsBack_least :
    let text := "minus nine quintillion two hundred twenty-three quadrillion three hundred " ++
      "seventy-two trillion thirty-six billion eight hundred fifty-four million seven hundred " ++
      "seventy-five thousand eight hundred eight"
    spellOut? (.int Int64.minValue) = some text ∧ read? text = some (-9223372036854775808) := by
  intro text
  obtain ⟨spelled, isSpelled, isRead⟩ := readsBack.1 Int64.minValue
  have written : spellOut? (.int Int64.minValue) = some text := by decide +kernel
  have same : spelled = text := Option.some.inj (isSpelled.symm.trans written)
  exact ⟨written, same ▸ isRead⟩

/-- Words that no number is spelled with may be read as well. -/
example : read? "two million two million" = some 4000000 := by
  decide +kernel

end Spelling

end MessageTemplate

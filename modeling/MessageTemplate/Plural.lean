/-! # Plural rules

A language may have up to six forms for a counted thing. Each rule says how many forms there are and
which of them a count takes. Translation files refer to the rules by number. -/

namespace MessageTemplate

/-- The families of languages that form plurals alike. -/
inductive PluralRule where
  /-- English, German, Italian, Spanish and most Germanic languages. -/
  | oneOther
  /-- French and Brazilian Portuguese, where zero is singular too. -/
  | zeroOneOther
  | latvian
  | scottishGaelic
  | romanian
  | lithuanian
  /-- Russian, Ukrainian, Serbian and Croatian. -/
  | russian
  /-- Czech and Slovak. -/
  | czech
  | polish
  | slovenian
  | irish
  | arabic
  | maltese
  | macedonian
  | icelandic
  | breton
deriving DecidableEq, Repr

namespace PluralRule

/-- All rules in the order of their numbers. -/
def all : List PluralRule :=
  [oneOther, zeroOneOther, latvian, scottishGaelic, romanian, lithuanian, russian, czech, polish,
   slovenian, irish, arabic, maltese, macedonian, icelandic, breton]

/-- The rule with a number, counted from one. -/
def ofNumber? (number : Nat) : Option PluralRule :=
  if number = 0 then none else all[number - 1]?

/-- The number of a rule. -/
def number (rule : PluralRule) : Nat :=
  all.idxOf rule + 1

/-- How many forms a rule tells apart. -/
def formCount : PluralRule → Nat
  | oneOther | zeroOneOther | icelandic => 2
  | latvian | romanian | lithuanian | russian | czech | polish | macedonian => 3
  | scottishGaelic | slovenian | maltese => 4
  | irish | breton => 5
  | arabic => 6

/-- The index of the form that a count takes. -/
def formIndex (rule : PluralRule) (count : Nat) : Nat :=
  let ones := count % 10
  let hundreds := count % 100
  match rule with
  | oneOther => if count = 1 then 0 else 1
  | zeroOneOther => if count ≤ 1 then 0 else 1
  | latvian =>
      if ones = 1 ∧ hundreds ≠ 11 then 1 else if count ≠ 0 then 2 else 0
  | scottishGaelic =>
      if count = 1 ∨ count = 11 then 0
      else if count = 2 ∨ count = 12 then 1
      else if 3 ≤ count ∧ count ≤ 19 then 2
      else 3
  | romanian =>
      if count = 1 then 0
      else if count = 0 ∨ (1 ≤ hundreds ∧ hundreds < 20) then 1
      else 2
  | lithuanian =>
      if ones = 1 ∧ hundreds ≠ 11 then 0
      else if 2 ≤ ones ∧ ¬(10 ≤ hundreds ∧ hundreds < 20) then 2
      else 1
  | russian =>
      if ones = 1 ∧ hundreds ≠ 11 then 0
      else if 2 ≤ ones ∧ ones ≤ 4 ∧ ¬(10 ≤ hundreds ∧ hundreds < 20) then 1
      else 2
  | czech => if count = 1 then 0 else if 2 ≤ count ∧ count ≤ 4 then 1 else 2
  | polish =>
      if count = 1 then 0
      else if 2 ≤ ones ∧ ones ≤ 4 ∧ ¬(10 ≤ hundreds ∧ hundreds < 20) then 1
      else 2
  | slovenian =>
      if hundreds = 1 then 0
      else if hundreds = 2 then 1
      else if hundreds = 3 ∨ hundreds = 4 then 2
      else 3
  | irish =>
      if count = 1 then 0
      else if count = 2 then 1
      else if 3 ≤ count ∧ count ≤ 6 then 2
      else if 7 ≤ count ∧ count ≤ 10 then 3
      else 4
  | arabic =>
      if count = 0 then 5
      else if count = 1 then 0
      else if count = 2 then 1
      else if 3 ≤ hundreds ∧ hundreds ≤ 10 then 2
      else if 11 ≤ hundreds then 3
      else 4
  | maltese =>
      if count = 1 then 0
      else if count = 0 ∨ (1 ≤ hundreds ∧ hundreds ≤ 10) then 1
      else if 11 ≤ hundreds ∧ hundreds < 20 then 2
      else 3
  | macedonian => if ones = 1 then 0 else if ones = 2 then 1 else 2
  | icelandic => if ones = 1 ∧ hundreds ≠ 11 then 0 else 1
  | breton =>
      if ones = 1 ∧ hundreds ∉ [11, 71, 91] then 0
      else if ones = 2 ∧ hundreds ∉ [12, 72, 92] then 1
      else if ones ∈ [3, 4, 9] ∧ hundreds ∉ [13, 14, 19, 73, 74, 79, 93, 94, 99] then 2
      else if count ≠ 0 ∧ count % 1000000 = 0 then 3
      else 4

end PluralRule

end MessageTemplate

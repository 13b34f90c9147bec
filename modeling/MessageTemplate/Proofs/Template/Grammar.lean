import Mathlib.Data.List.TakeWhile
import MessageTemplate.Proofs.Text.Balance
import MessageTemplate.Template.Segment

/-! # The grammar of substitutions

How references, operator calls and substitutions are written, said without a reader. Each reader
accepts exactly what is written so: `Reference.read?_eq_some_iff`, `OperatorCall.read_eq_ok_iff`
and, for the text between matching braces, `Substitution.read_eq_ok_iff_parts`. -/

namespace MessageTemplate

open MessageTemplate.Character MessageTemplate.Text

namespace Reference

/-- How a reference is written: as an identifier, or as decimal digits that denote a position below
the bound, where an `@` may stand in front of the digits. -/
inductive IsWritten : Reference → List Char → Prop where
  | name {text : List Char} (identifier : isIdentifier text = true) :
      IsWritten (.name (String.ofList text)) text
  | position {digits : List Char} (digitRun : isDigitRun digits = true)
      (bounded : Decimal.naturalOf digits < positionBound) :
      IsWritten (.position (Decimal.naturalOf digits)) digits
  | marked {digits : List Char} (digitRun : isDigitRun digits = true)
      (bounded : Decimal.naturalOf digits < positionBound) :
      IsWritten (.position (Decimal.naturalOf digits)) ('@' :: digits)

/-- The characters that have a meaning in templates are no part of an identifier. -/
theorem continuesIdentifier_reserved :
    ∀ reserved ∈ ['{', '}', '|', ':', ';', '@'], continuesIdentifier reserved = false := by
  simp only [List.mem_cons, List.not_mem_nil, or_false, forall_eq_or_imp, forall_eq]
  decide

/-- The characters that have a meaning in templates are no digits. -/
theorem isDigit_reserved : ∀ reserved ∈ ['{', '}', '|', ':', ';', '@'], reserved.isDigit = false := by
  simp only [List.mem_cons, List.not_mem_nil, or_false, forall_eq_or_imp, forall_eq]
  decide

variable {text digits : List Char} {character : Char}

/-- No character of an identifier has a meaning of its own in templates. -/
theorem ne_reserved_of_continuesIdentifier (continues : continuesIdentifier character = true) :
    ∀ reserved ∈ ['{', '}', '|', ':', ';', '@'], character ≠ reserved := by
  rintro reserved member rfl
  simp [continuesIdentifier_reserved character member] at continues

/-- No digit has a meaning of its own in templates. -/
theorem ne_reserved_of_isDigit (digit : character.isDigit = true) :
    ∀ reserved ∈ ['{', '}', '|', ':', ';', '@'], character ≠ reserved := by
  rintro reserved member rfl
  simp [isDigit_reserved character member] at digit

/-- A run of digits consists of digits. -/
theorem isDigit_of_mem (digitRun : isDigitRun digits = true) (member : character ∈ digits) :
    character.isDigit = true := by
  rw [isDigitRun, Bool.and_eq_true, List.all_eq_true] at digitRun
  exact digitRun.2 character member

/-- Every character of an identifier could go on with one. -/
theorem continuesIdentifier_of_mem (identifier : isIdentifier text = true)
    (member : character ∈ text) : continuesIdentifier character = true := by
  cases text with
  | nil => simp at member
  | cons first rest =>
      simp only [isIdentifier, Bool.and_eq_true, Bool.or_eq_true, List.all_eq_true] at identifier
      obtain ⟨starts, continues⟩ := identifier
      rcases List.mem_cons.mp member with rfl | later
      · rcases starts with alphabetic | underscore
        · simp [continuesIdentifier, alphabetic]
        · simp [continuesIdentifier, underscore]
      · exact continues character later

/-- No identifier starts with a decimal digit. -/
theorem isAlphabetic_of_isDigit (digit : character.isDigit = true) :
    isAlphabetic character = false ∧ (character == '_') = false := by
  simp only [Char.isDigit, Bool.and_eq_true, decide_eq_true_eq, UInt32.le_iff_toNat_le] at digit
  have lower : 48 ≤ character.val.toNat := digit.1
  have upper : character.val.toNat ≤ 57 := digit.2
  have ascii : character.toNat < 128 := by
    have same : character.toNat = character.val.toNat := rfl
    omega
  constructor
  · rw [isAlphabetic, if_pos ascii, Bool.eq_false_iff]
    intro (letter : (character.isUpper || character.isLower) = true)
    rcases Bool.or_eq_true_iff.mp letter with isUpper | isLower
    · have aboveDigits : 65 ≤ character.val.toNat := (of_decide_eq_true isUpper).1
      omega
    · have aboveDigits : 97 ≤ character.val.toNat :=
        of_decide_eq_true (Bool.and_eq_true_iff.mp isLower).1
      omega
  · rw [beq_eq_false_iff_ne]
    rintro rfl
    have underscore : ('_' : Char).val.toNat = 95 := rfl
    omega

/-- No identifier is a run of digits. -/
theorem not_isDigitRun_of_isIdentifier (identifier : isIdentifier text = true) :
    isDigitRun text = false := by
  cases text with
  | nil => rfl
  | cons first rest =>
      cases digit : first.isDigit with
      | false => simp [isDigitRun, digit]
      | true =>
          obtain ⟨notAlphabetic, notUnderscore⟩ := isAlphabetic_of_isDigit digit
          simp [isIdentifier, notAlphabetic, notUnderscore] at identifier

/-- Digits denote the position of their number, where it fits in 64 bits. -/
theorem ofDigits?_eq_some_iff {reference : Reference} :
    ofDigits? digits = some reference ↔
      Decimal.naturalOf digits < positionBound ∧
        reference = .position (Decimal.naturalOf digits) := by
  rw [ofDigits?, Option.ite_none_right_eq_some, Option.some.injEq]
  exact and_congr_right fun _ => eq_comm

/-- Without an `@` in front, a reference is a position or else an identifier. -/
theorem read?_unmarked (unmarked : '@' ∉ text) :
    read? text =
      if isDigitRun text then ofDigits? text
      else if isIdentifier text then some (.name (String.ofList text))
      else none := by
  unfold read?
  split
  · exact absurd List.mem_cons_self unmarked
  · rfl

/-- A reference is read exactly from the texts that it is written as. -/
theorem read?_eq_some_iff {reference : Reference} :
    read? text = some reference ↔ reference.IsWritten text := by
  constructor
  · intro found
    unfold read? at found
    split at found
    · next digits =>
        split at found
        · next digitRun =>
            obtain ⟨bounded, rfl⟩ := ofDigits?_eq_some_iff.mp found
            exact .marked digitRun bounded
        · simp at found
    · split at found
      · next digitRun =>
          obtain ⟨bounded, rfl⟩ := ofDigits?_eq_some_iff.mp found
          exact .position digitRun bounded
      · split at found
        · next identifier =>
            cases found
            exact .name identifier
        · simp at found
  · intro written
    cases written with
    | name identifier =>
        have unmarked : '@' ∉ text := fun member =>
          ne_reserved_of_continuesIdentifier (continuesIdentifier_of_mem identifier member) '@'
            (by simp) rfl
        rw [read?_unmarked unmarked, not_isDigitRun_of_isIdentifier identifier, identifier]
        simp
    | position digitRun bounded =>
        have unmarked : '@' ∉ text := fun member =>
          ne_reserved_of_isDigit (isDigit_of_mem digitRun member) '@' (by simp) rfl
        rw [read?_unmarked unmarked, if_pos digitRun]
        exact ofDigits?_eq_some_iff.mpr ⟨bounded, rfl⟩
    | marked digitRun bounded =>
        simp only [read?, digitRun, if_true]
        exact ofDigits?_eq_some_iff.mpr ⟨bounded, rfl⟩

/-- An identifier has no brace and no operator separator. -/
theorem isIdentifier_plain (identifier : isIdentifier text = true) :
    ∀ character ∈ text, ¬IsBrace character ∧ character ≠ operatorSeparator := by
  intro character member
  have apart := ne_reserved_of_continuesIdentifier (continuesIdentifier_of_mem identifier member)
  exact ⟨not_or.mpr ⟨apart '{' (by simp), apart '}' (by simp)⟩, apart '|' (by simp)⟩

/-- A written reference has no brace and no separator. -/
theorem IsWritten.ne_reserved {reference : Reference} (written : reference.IsWritten text) :
    ∀ character ∈ text, ∀ reserved ∈ ['{', '}', ';', '|'], character ≠ reserved := by
  have subset : ['{', '}', ';', '|'] ⊆ ['{', '}', '|', ':', ';', '@'] := by simp
  have digitApart : ∀ {digits : List Char}, isDigitRun digits = true →
      ∀ character ∈ digits, ∀ reserved ∈ ['{', '}', ';', '|'], character ≠ reserved :=
    fun digitRun character member reserved isReserved =>
      ne_reserved_of_isDigit (isDigit_of_mem digitRun member) reserved (subset isReserved)
  cases written with
  | name identifier =>
      intro character member reserved isReserved
      exact ne_reserved_of_continuesIdentifier (continuesIdentifier_of_mem identifier member)
        reserved (subset isReserved)
  | position digitRun bounded => exact digitApart digitRun
  | marked digitRun bounded =>
      exact List.forall_mem_cons.mpr ⟨by simp, digitApart digitRun⟩

/-- A reference is written without braces and without the mark between stages. -/
theorem IsWritten.plain {reference : Reference} (written : reference.IsWritten text) :
    ∀ character ∈ text, ¬IsBrace character ∧ character ≠ operatorSeparator := by
  intro character member
  have apart := written.ne_reserved character member
  exact ⟨not_or.mpr ⟨apart '{' (by simp), apart '}' (by simp)⟩, apart '|' (by simp)⟩

end Reference

/-- The mark between stages is no brace. -/
theorem operatorSeparator_plain : ¬IsBrace operatorSeparator := by decide

namespace OperatorCall

/-- What a call must be to be written in a template: its name is an identifier, and its argument is
balanced and has no operator separator outside braces. -/
structure IsWellFormed (call : OperatorCall) : Prop where
  name : Reference.isIdentifier call.name.toList = true
  argument : ∀ argument, call.argument = some argument →
    IsBalanced argument.toList ∧ IsUncut operatorSeparator argument.toList

variable {call : OperatorCall} {text : List Char}

/-- The name of a call ends at the first colon. -/
theorem ne_argumentMark_of_mem (identifier : Reference.isIdentifier text = true) :
    ∀ character ∈ text, (character != argumentMark) = true := by
  intro character member
  have continues := Reference.continuesIdentifier_of_mem identifier member
  exact bne_iff_ne.mpr
    (Reference.ne_reserved_of_continuesIdentifier continues ':' (by simp))

/-- A call is read exactly from its written form, if its name is an identifier. -/
theorem read_eq_ok_iff :
    read text = .ok call ↔
      Reference.isIdentifier call.name.toList = true ∧ text = call.write := by
  constructor
  · intro found
    simp only [read] at found
    split at found
    case isFalse => simp at found
    case isTrue identifier =>
      cases found
      refine ⟨by simpa using identifier, ?_⟩
      have joined : text.takeWhile (· != argumentMark) ++ text.dropWhile (· != argumentMark) =
          text := List.takeWhile_append_dropWhile
      cases rest : text.dropWhile (· != argumentMark) with
      | nil =>
          rw [rest, List.append_nil] at joined
          simp [write, joined]
      | cons mark argument =>
          have isMark : mark = argumentMark := by
            have stops := List.head?_dropWhile_not (· != argumentMark) text
            rw [rest] at stops
            simpa using stops
          rw [rest, isMark] at joined
          simp [write, joined]
  · rintro ⟨identifier, rfl⟩
    have named := ne_argumentMark_of_mem identifier
    obtain ⟨name, argument⟩ := call
    cases argument with
    | none =>
        have whole : name.toList.takeWhile (· != argumentMark) = name.toList :=
          List.takeWhile_eq_self_iff.mpr named
        have nothing : name.toList.dropWhile (· != argumentMark) = [] :=
          List.dropWhile_eq_nil_iff.mpr named
        simp [read, write, whole, nothing, identifier]
    | some argument =>
        simp only [read, write, List.takeWhile_append_of_pos named,
          List.dropWhile_append_of_pos named]
        simp [identifier]

/-- Where the name is an identifier, the argument decides whether the written form is whole. -/
theorem whole_write_iff (identifier : Reference.isIdentifier call.name.toList = true) :
    IsBalanced call.write ∧ IsUncut operatorSeparator call.write ↔
      ∀ argument, call.argument = some argument →
        IsBalanced argument.toList ∧ IsUncut operatorSeparator argument.toList := by
  obtain ⟨name, argument⟩ := call
  have namePlain := Reference.isIdentifier_plain identifier
  cases argument with
  | none =>
      have balanced := isBalanced_plain fun character member => (namePlain character member).1
      have uncut := isUncut_plain namePlain
      simp [write, balanced, uncut]
  | some argument =>
      have headPlain : ∀ character ∈ name.toList ++ [argumentMark],
          ¬IsBrace character ∧ character ≠ operatorSeparator :=
        List.forall_mem_append.mpr ⟨namePlain, List.forall_mem_singleton.mpr (by decide)⟩
      have balanced : IsBalanced (name.toList ++ [argumentMark] ++ argument.toList) ↔
          IsBalanced argument.toList :=
        isBalancedFrom_plain_append fun character member => (headPlain character member).1
      have uncut :
          IsUncut operatorSeparator (name.toList ++ [argumentMark] ++ argument.toList) ↔
            IsUncut operatorSeparator argument.toList :=
        isUncutFrom_plain_append headPlain
      rw [List.append_assoc, List.singleton_append] at balanced uncut
      simp [write, balanced, uncut]

/-- A call is written in one piece: its braces are closed, and no stage ends in it. -/
theorem IsWellFormed.whole_write (wellFormed : call.IsWellFormed) :
    IsBalanced call.write ∧ IsUncut operatorSeparator call.write :=
  (whole_write_iff wellFormed.name).mpr wellFormed.argument

/-- Calls are read one by one, and each from its written form. -/
theorem mapM_read_eq_ok_iff {stages : List (List Char)} {calls : List OperatorCall} :
    stages.mapM read = .ok calls ↔
      stages = calls.map write ∧
        ∀ call ∈ calls, Reference.isIdentifier call.name.toList = true := by
  induction stages generalizing calls with
  | nil =>
      rw [List.mapM_nil]
      constructor
      · intro found
        cases found
        simp
      · rintro ⟨noStages, -⟩
        rw [List.map_eq_nil_iff.mp noStages.symm]
        rfl
  | cons stage stages inductionHypothesis =>
      rw [List.mapM_cons]
      constructor
      · intro found
        cases firstRead : read stage with
        | error problem => simp [firstRead, bind, Except.bind] at found
        | ok first =>
            cases restRead : stages.mapM read with
            | error problem => simp [firstRead, restRead, bind, Except.bind] at found
            | ok rest =>
                rw [firstRead, restRead] at found
                cases found
                obtain ⟨identifier, rfl⟩ := read_eq_ok_iff.mp firstRead
                obtain ⟨rfl, identifiers⟩ := inductionHypothesis.mp restRead
                exact ⟨rfl, List.forall_mem_cons.mpr ⟨identifier, identifiers⟩⟩
      · rintro ⟨written, identifiers⟩
        obtain ⟨first, rest, rfl, rfl, rfl⟩ := List.map_eq_cons_iff.mp written.symm
        obtain ⟨identifier, others⟩ := List.forall_mem_cons.mp identifiers
        rw [read_eq_ok_iff.mpr ⟨identifier, rfl⟩, inductionHypothesis.mpr ⟨rfl, others⟩]
        rfl

end OperatorCall

namespace Substitution

/-- The text of a substitution: the reference and the calls, each after a separator, in braces. -/
def written (referenceText : List Char) (operators : List OperatorCall) : List Char :=
  '{' :: (referenceText ++ operators.flatMap fun call => operatorSeparator :: call.write) ++ ['}']

/-- How a substitution is written, where `referenceText` is the text of its reference. -/
structure IsWrittenWith (substitution : Substitution) (referenceText : List Char) : Prop where
  source : substitution.source.toList = written referenceText substitution.operators
  reference : substitution.reference.IsWritten referenceText
  operators : ∀ call ∈ substitution.operators, call.IsWellFormed

variable {substitution : Substitution} {body referenceText : List Char}

/-- A substitution is read exactly from a body whose first part is its reference and whose other
parts are its calls. -/
theorem read_eq_ok_iff_parts :
    read body = .ok substitution ↔
      ∃ referenceText,
        splitTopLevel operatorSeparator body =
          referenceText :: substitution.operators.map OperatorCall.write ∧
        substitution.reference.IsWritten referenceText ∧
        (∀ call ∈ substitution.operators, Reference.isIdentifier call.name.toList = true) ∧
        substitution.source.toList = '{' :: body ++ ['}'] := by
  constructor
  · intro found
    obtain ⟨head, stages, parts⟩ :=
      List.exists_cons_of_ne_nil (splitFrom_ne_nil operatorSeparator 0 body)
    have parts : splitTopLevel operatorSeparator body = head :: stages := parts
    rw [read, parts_splitBalanced, parts] at found
    cases headRead : Reference.read? head with
    | none => simp [headRead] at found
    | some reference =>
        cases callsRead : stages.mapM OperatorCall.read with
        | error problem => simp [headRead, callsRead, bind, Except.bind] at found
        | ok calls =>
            simp only [headRead, callsRead] at found
            cases found
            obtain ⟨rfl, identifiers⟩ := OperatorCall.mapM_read_eq_ok_iff.mp callsRead
            exact ⟨head, parts, Reference.read?_eq_some_iff.mp headRead, identifiers,
              String.toList_ofList⟩
  · rintro ⟨referenceText, parts, written, identifiers, source⟩
    obtain ⟨sourceText, reference, operators⟩ := substitution
    have headRead := Reference.read?_eq_some_iff.mpr written
    have callsRead := OperatorCall.mapM_read_eq_ok_iff.mpr ⟨rfl, identifiers⟩
    have sourceEq : sourceText = String.ofList ('{' :: body ++ ['}']) :=
      String.ofList_toList.symm.trans (congrArg String.ofList source)
    rw [read, parts_splitBalanced, parts]
    simp only [headRead, callsRead, sourceEq]
    rfl

/-- What is read in a balanced body is written in the grammar, with the body in braces. -/
theorem isWrittenWith_of_read (balanced : IsBalanced body) (found : read body = .ok substitution) :
    substitution.source.toList = '{' :: body ++ ['}'] ∧
      ∃ referenceText, substitution.IsWrittenWith referenceText := by
  obtain ⟨referenceText, parts, reference, identifiers, source⟩ := read_eq_ok_iff_parts.mp found
  obtain ⟨joined, whole⟩ := splitTopLevel_parts operatorSeparator_plain balanced parts
  refine ⟨source, referenceText, ?_, reference, ?_⟩
  · rw [source, joined, written, List.flatMap_map]
  · intro call member
    have callWhole := whole call.write (List.mem_cons_of_mem _ (List.mem_map_of_mem member))
    have identifier := identifiers call member
    exact ⟨identifier, (OperatorCall.whole_write_iff identifier).mp callWhole⟩

/-- A substitution that is written in the grammar is read from its text, which is one balanced
group. -/
theorem IsWrittenWith.read (isWritten : substitution.IsWrittenWith referenceText) :
    ∃ body, substitution.source.toList = '{' :: body ++ ['}'] ∧ IsBalanced body ∧
      Substitution.read body = .ok substitution := by
  have referencePlain := isWritten.reference.plain
  have referenceBalanced := isBalanced_plain fun character member =>
    (referencePlain character member).1
  have callsWhole : ∀ part ∈ substitution.operators.map OperatorCall.write,
      IsBalanced part ∧ IsUncut operatorSeparator part := by
    intro part member
    obtain ⟨call, callMember, rfl⟩ := List.mem_map.mp member
    exact (isWritten.operators call callMember).whole_write
  have parts := splitTopLevel_joined operatorSeparator_plain
    (List.forall_mem_cons.mpr ⟨⟨referenceBalanced, isUncut_plain referencePlain⟩, callsWhole⟩)
  have balanced := referenceBalanced.append (isBalanced_flatMap_cons operatorSeparator_plain
    fun part member => (callsWhole part member).1)
  refine ⟨_, ?_, balanced, read_eq_ok_iff_parts.mpr ⟨referenceText, parts, isWritten.reference,
    fun call member => (isWritten.operators call member).name, ?_⟩⟩ <;>
  rw [isWritten.source, written, List.flatMap_map]

end Substitution

end MessageTemplate

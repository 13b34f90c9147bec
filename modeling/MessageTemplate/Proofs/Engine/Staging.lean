import MessageTemplate.Proofs.Bindings.History
import MessageTemplate.Proofs.Engine.Concatenation
import MessageTemplate.Proofs.Template.Nesting

/-! # Expanding in two stages

A template of plain substitutions can be expanded with some bindings first, and what comes out with
the others: `Engine.expand_expand` says that this is the same as expanding it once with both. What
the first stage writes must have no braces, for the second stage reads it as a template; what the
second stage writes is not read again and may have any. Substitutions with operators are left out,
since an operator of the first stage could see that the others are missing. -/

namespace MessageTemplate

open MessageTemplate.Text

namespace Template

variable {write : Substitution → String} {fill : Substitution → Option String}

/-- The text that `fill` gives a substitution, or else its own. -/
def filledText (fill : Substitution → Option String) (substitution : Substitution) : String :=
  (fill substitution).getD substitution.source

/-- The pieces that a piece becomes when `fill` gives the text of substitutions. -/
def filledPieces (fill : Substitution → Option String) (piece : Piece) : List Piece :=
  match meaning piece with
  | .substitution substitution =>
      match fill substitution with
      | some text => text.toList.map .plain
      | none => [piece]
  | .text _ => [piece]

variable {piece : Piece} {substitution : Substitution}

/-- A piece that stays text is not filled. -/
theorem filledPieces_of_text {problem : Option Problem} (isText : meaning piece = .text problem) :
    filledPieces fill piece = [piece] := by
  rw [filledPieces, isText]

/-- A substitution without a text stays as it is. -/
theorem filledPieces_of_unfilled (isSubstitution : meaning piece = .substitution substitution)
    (unfilled : fill substitution = none) : filledPieces fill piece = [piece] := by
  rw [filledPieces, isSubstitution]
  simp only [unfilled]

/-- A substitution with a text becomes the characters of this text. -/
theorem filledPieces_of_filled (isSubstitution : meaning piece = .substitution substitution)
    {text : String} (filled : fill substitution = some text) :
    filledPieces fill piece = text.toList.map .plain := by
  rw [filledPieces, isSubstitution]
  simp only [filled]

/-- Where text without braces is filled in, all that was not filled in is read as before. -/
theorem ofText_flatMap_pieceText
    (braceless : ∀ substitution text, fill substitution = some text →
      ∀ character ∈ text.toList, ¬IsBrace character) (text : List Char) :
    Piece.ofText ((Piece.ofText text).flatMap (pieceText (filledText fill))) =
      (Piece.ofText text).flatMap (filledPieces fill) := by
  -- A filled text has no brace, so that it cannot join a brace of the text around it.
  induction text using Piece.ofText_induction with
  | nil => rfl
  | plain character rest isPlain inductionHypothesis =>
      have isText : meaning (.plain character) = .text none := rfl
      rw [List.flatMap_cons, pieceText_of_text isText, List.flatMap_cons,
        filledPieces_of_text isText, ← inductionHypothesis]
      exact Piece.ofText_plain isPlain _
  | stray rest inductionHypothesis =>
      have isText : meaning .stray = .text (some .strayBrace) := rfl
      rw [List.flatMap_cons, pieceText_of_text isText, List.flatMap_cons,
        filledPieces_of_text isText, ← inductionHypothesis]
      exact Piece.ofText_stray _
  | group body rest balanced inductionHypothesis =>
      rw [List.flatMap_cons, List.flatMap_cons, ← inductionHypothesis]
      have unfilled (later : List Char) : Piece.ofText ((Piece.group body).source ++ later) =
          .group body :: Piece.ofText later := by
        rw [Piece.source, List.append_assoc]
        exact Piece.ofText_group balanced later
      cases bodyMeaning : meaning (.group body) with
      | text problem =>
          rw [pieceText_of_text bodyMeaning, filledPieces_of_text bodyMeaning, unfilled]
          rfl
      | substitution substitution =>
          rw [pieceText_of_substitution bodyMeaning]
          cases filled : fill substitution with
          | none =>
              rw [filledText, filled, Option.getD_none, source_of_meaning bodyMeaning, unfilled,
                filledPieces_of_unfilled bodyMeaning filled]
              rfl
          | some text =>
              rw [filledText, filled, Option.getD_some, filledPieces_of_filled bodyMeaning filled]
              exact Piece.ofText_plain_append (braceless substitution text filled) _
  | unclosed rest isUnclosed =>
      have isText : meaning (.unclosed rest) =
          .text (some (.unclosedGroup (String.ofList ('{' :: rest)))) := rfl
      rw [List.flatMap_singleton, List.flatMap_singleton, pieceText_of_text isText,
        filledPieces_of_text isText]
      exact isUnclosed

/-- Characters that are no braces are written as they are. -/
theorem flatMap_pieceText_plain (text : List Char) :
    (text.map Piece.plain).flatMap (pieceText write) = text := by
  induction text with
  | nil => rfl
  | cons character rest inductionHypothesis =>
      rw [List.map_cons, List.flatMap_cons, inductionHypothesis]
      rfl

/-- Filling in and then writing the rest is writing all at once. -/
theorem flatMap_filledPieces {both : Substitution → String}
    (agree : ∀ substitution, meaning piece = .substitution substitution →
      both substitution = (fill substitution).getD (write substitution)) :
    (filledPieces fill piece).flatMap (pieceText write) = pieceText both piece := by
  cases pieceMeaning : meaning piece with
  | text problem =>
      rw [filledPieces_of_text pieceMeaning, List.flatMap_singleton,
        pieceText_of_text pieceMeaning, pieceText_of_text pieceMeaning]
  | substitution substitution =>
      rw [pieceText_of_substitution pieceMeaning, agree substitution pieceMeaning]
      cases filled : fill substitution with
      | none =>
          rw [filledPieces_of_unfilled pieceMeaning filled, List.flatMap_singleton,
            pieceText_of_substitution pieceMeaning]
          rfl
      | some text =>
          rw [filledPieces_of_filled pieceMeaning filled, flatMap_pieceText_plain]
          rfl

end Template

/-- Whether a substitution is a name without operators. -/
def Substitution.IsPlain (substitution : Substitution) : Prop :=
  (∃ name, substitution.reference = .name name) ∧ substitution.operators = []

namespace Engine

/-- The text of the value that a substitution names. A position names none. -/
def nameText (engine : Engine) (bindings : Bindings) (substitution : Substitution) :
    Option String :=
  match substitution.reference with
  | .name name => (bindings.get? name).map (Value.render engine.locale)
  | .position _ => none

/-- The text of a plain substitution: that of its value, or its own. -/
theorem result_substitute_of_isPlain (engine : Engine) (bindings : Bindings)
    {substitution : Substitution} (isPlain : substitution.IsPlain) :
    (substitute engine.registry (engine.topSite bindings) substitution).result =
      Template.filledText (engine.nameText bindings) substitution := by
  obtain ⟨⟨name, isName⟩, noOperators⟩ := isPlain
  have resolved : (engine.topSite bindings).bindings.resolve? substitution.reference =
      bindings.get? name := by
    rw [isName]
    rfl
  simp only [Template.filledText, nameText, isName]
  cases bound : bindings.get? name with
  | none =>
      rw [substitute, resolved, bound]
      rfl
  | some value =>
      rw [substitute_eq_of_bound _ _ (resolved.trans bound), noOperators]
      rfl

/-- The text of a template of plain substitutions, with the text of a value for each bound name. -/
theorem toList_text_expand_of_isPlain (engine : Engine) (text : String) (bindings : Bindings)
    (plain : ∀ substitution ∈ (Template.read text).substitutions, substitution.IsPlain) :
    (engine.expand text bindings).text.toList =
      (Piece.ofText text.toList).flatMap
        (Template.pieceText (Template.filledText (engine.nameText bindings))) := by
  rw [toList_text_expand]
  refine List.flatMap_congr fun piece member => ?_
  cases pieceMeaning : Template.meaning piece with
  | text problem =>
      rw [Template.pieceText_of_text pieceMeaning, Template.pieceText_of_text pieceMeaning]
  | substitution substitution =>
      have isPlain := plain _ (Template.mem_substitutions_of_meaning member pieceMeaning)
      rw [Template.pieceText_of_substitution pieceMeaning,
        Template.pieceText_of_substitution pieceMeaning,
        result_substitute_of_isPlain engine bindings isPlain]

/-- Where no name is bound twice, a name finds what is filled in first or else what is filled in
next. -/
theorem filledText_nameText_insertAll (engine : Engine) {first second : Bindings}
    (disjoint : ∀ name, first.contains name = true → second.contains name = false)
    (distinct : second.names.Nodup) (substitution : Substitution) :
    Template.filledText (engine.nameText (first.insertAll second.named)) substitution =
      (engine.nameText first substitution).getD
        (Template.filledText (engine.nameText second) substitution) := by
  rw [Template.filledText, Template.filledText, nameText, nameText, nameText]
  cases substitution.reference with
  | position index => rfl
  | name name =>
      simp only [Bindings.get?_insertAll_named first distinct]
      cases bound : first.get? name with
      | none => simp
      | some value =>
          have isBound : first.contains name = true := by
            rw [Bindings.contains_eq_isSome_get?, bound, Option.isSome_some]
          have notSecond := disjoint name isBound
          rw [Bindings.contains_eq_isSome_get?, Option.isSome_eq_false_iff,
            Option.isNone_iff_eq_none] at notSecond
          rw [notSecond]
          rfl

/-- A template of plain substitutions can be expanded in two stages, if the values of the first
stage have no braces and no name is bound in both. The bindings of the second stage are any that
operations make, for these have distinct names. -/
theorem expand_expand (engine : Engine) (text : String) (first : Bindings)
    (history : List Operation)
    (plain : ∀ substitution ∈ (Template.read text).substitutions, substitution.IsPlain)
    (disjoint : ∀ name, first.contains name = true →
      (Bindings.after history).contains name = false)
    (braceless : ∀ name value, first.get? name = some value →
      ∀ character ∈ (value.render engine.locale).toList, ¬IsBrace character) :
    (engine.expand (engine.expand text first).text (Bindings.after history)).text =
      (engine.expand text (first.insertAll (Bindings.after history).named)).text := by
  have fillBraceless (substitution : Substitution) (written : String)
      (filled : engine.nameText first substitution = some written) :
      ∀ character ∈ written.toList, ¬IsBrace character := by
    rw [nameText] at filled
    split at filled
    · obtain ⟨value, bound, rfl⟩ := Option.map_eq_some_iff.mp filled
      exact braceless _ value bound
    · cases filled
  apply String.toList_injective
  rw [toList_text_expand, toList_text_expand_of_isPlain engine text first plain,
    toList_text_expand_of_isPlain engine text _ plain,
    Template.ofText_flatMap_pieceText fillBraceless, List.flatMap_assoc]
  refine List.flatMap_congr fun piece member =>
    Template.flatMap_filledPieces fun substitution pieceMeaning => ?_
  have isPlain := plain _ (Template.mem_substitutions_of_meaning member pieceMeaning)
  rw [result_substitute_of_isPlain engine _ isPlain]
  exact filledText_nameText_insertAll engine disjoint (Bindings.nodup_names_after history)
    substitution

/-- A stray brace, a rejected group, a name that stays unbound and an open brace are carried through
both stages, and what the second stage writes is not read again. -/
theorem expand_expand_malformed :
    let first := Bindings.empty.insert "x" (.string "ä")
    let history : List Operation := [.add (.insert "y" (.string "{x}"))]
    (standard.expand "é\x7d{x}{ bad {y}}{y}{z}\x7bx" first).text =
        "é\x7dä{ bad {y}}{y}{z}\x7bx" ∧
      (standard.expand "é\x7dä{ bad {y}}{y}{z}\x7bx" (Bindings.after history)).text =
        (standard.expand "é\x7d{x}{ bad {y}}{y}{z}\x7bx"
          (first.insertAll (Bindings.after history).named)).text ∧
      (standard.expand "é\x7dä{ bad {y}}{y}{z}\x7bx" (Bindings.after history)).text =
        "é\x7dä{ bad {y}}{x}{z}\x7bx" := by
  intro first history
  have firstText : (standard.expand "é\x7d{x}{ bad {y}}{y}{z}\x7bx" first).text =
      "é\x7dä{ bad {y}}{y}{z}\x7bx" := by decide
  have plain : ∀ substitution ∈
      (Template.read "é\x7d{x}{ bad {y}}{y}{z}\x7bx").substitutions, substitution.IsPlain := by
    have read : (Template.read "é\x7d{x}{ bad {y}}{y}{z}\x7bx").substitutions =
        [⟨"{x}", .name "x", []⟩, ⟨"{y}", .name "y", []⟩, ⟨"{z}", .name "z", []⟩] := by decide
    rw [read]
    simp [Substitution.IsPlain]
  have bound (name : String) (value : Value) (found : first.get? name = some value) :
      name = "x" ∧ value = .string "ä" := by
    have stands := (Bindings.get?_eq_some_iff (by decide)).mp found
    have entries : first.entries = [⟨some "x", .string "ä"⟩] := rfl
    rw [entries, List.mem_singleton] at stands
    cases stands
    exact ⟨rfl, rfl⟩
  have disjoint (name : String) (isBound : first.contains name = true) :
      (Bindings.after history).contains name = false := by
    rw [Bindings.contains_eq_isSome_get?, Option.isSome_iff_exists] at isBound
    obtain ⟨value, found⟩ := isBound
    rw [(bound name value found).1]
    decide
  have braceless (name : String) (value : Value) (found : first.get? name = some value) :
      ∀ character ∈ (value.render standard.locale).toList, ¬IsBrace character := by
    have rendered : ((Value.string "ä").render standard.locale).toList = ['ä'] := rfl
    rw [(bound name value found).2, rendered]
    exact List.forall_mem_singleton.mpr (by decide)
  have staged := expand_expand standard _ first history plain disjoint braceless
  rw [firstText] at staged
  exact ⟨firstText, staged, by decide⟩

end Engine

end MessageTemplate

import MessageTemplate.Proofs.Engine.Rendering
import MessageTemplate.Proofs.Template.Segments

/-! # Templates one after the other

A template that leaves no brace open can be followed by another one: `Engine.expand_append` says
that their texts are joined, and their problems too, with the places of the later ones moved.
Literal text at the seam becomes one segment, so segments are not simply joined; pieces are. Nothing
is said of what follows an open brace, which takes the rest of the template. -/

namespace MessageTemplate

open MessageTemplate.Text

/-- The length of a text in bytes is that of its characters. -/
theorem Text.byteLength_toList (text : String) : byteLength text.toList = text.utf8ByteSize := by
  induction text using String.push_induction with
  | empty => rfl
  | push text character inductionHypothesis => simp [inductionHypothesis]

/-- A problem met `amount` bytes further on. What the problem is stays as it is. -/
def Diagnostic.shift (amount : Nat) (diagnostic : Diagnostic) : Diagnostic :=
  { diagnostic with offset := diagnostic.offset.map (· + amount) }

/-- The pieces of a text that leaves no brace open are not changed by what follows it. -/
theorem Piece.ofText_append {left : List Char} (closed : ∀ rest, .unclosed rest ∉ ofText left)
    (right : List Char) : ofText (left ++ right) = ofText left ++ ofText right := by
  -- Only a brace that is never closed takes what follows the text into its piece.
  induction left using ofText_induction with
  | nil => rfl
  | plain character rest isPlain inductionHypothesis =>
      have joinedRest := inductionHypothesis fun tail member =>
        closed tail (List.mem_cons_of_mem _ member)
      rw [List.cons_append, ofText_plain isPlain, joinedRest, List.cons_append]
  | stray rest inductionHypothesis =>
      have joinedRest := inductionHypothesis fun tail member =>
        closed tail (List.mem_cons_of_mem _ member)
      rw [List.cons_append, ofText_stray, joinedRest, List.cons_append]
  | group body rest balanced inductionHypothesis =>
      have joinedRest := inductionHypothesis fun tail member =>
        closed tail (List.mem_cons_of_mem _ member)
      have joined : ('{' :: body ++ '}' :: rest) ++ right =
          '{' :: body ++ '}' :: (rest ++ right) := by
        simp
      rw [joined, ofText_group balanced, joinedRest, List.cons_append]
  | unclosed rest => exact absurd (List.mem_singleton_self _) (closed rest)

namespace Template

variable {piece : Piece} {pieces left right : List Piece} {problem : Problem}

/-- The problem of a piece is among those of its template. -/
theorem exists_mem_problemsFrom (member : piece ∈ pieces)
    (isProblem : meaning piece = .text (some problem)) (offset : Nat) :
    ∃ diagnostic ∈ problemsFrom offset pieces, diagnostic.problem = problem := by
  induction pieces generalizing offset with
  | nil => cases member
  | cons first rest inductionHypothesis =>
      rw [problemsFrom]
      rcases List.mem_cons.mp member with rfl | later
      · rw [isProblem]
        exact ⟨_, List.mem_cons_self, rfl⟩
      · obtain ⟨diagnostic, found, same⟩ :=
          inductionHypothesis later (offset + byteLength first.source)
        split
        · exact ⟨diagnostic, List.mem_cons_of_mem _ found, same⟩
        · exact ⟨diagnostic, found, same⟩

/-- Pieces that stand further on have their problems further on. -/
theorem problemsFrom_add (offset amount : Nat) (pieces : List Piece) :
    problemsFrom (offset + amount) pieces =
      (problemsFrom offset pieces).map (Diagnostic.shift amount) := by
  induction pieces generalizing offset with
  | nil => rfl
  | cons first rest inductionHypothesis =>
      have moved : offset + amount + byteLength first.source =
          offset + byteLength first.source + amount := by omega
      rw [problemsFrom, problemsFrom, moved, inductionHypothesis]
      split
      · rfl
      · rfl

/-- The problems of pieces start where the pieces before them end. -/
theorem problemsFrom_append (offset : Nat) (left right : List Piece) :
    problemsFrom offset (left ++ right) =
      problemsFrom offset left ++
        problemsFrom (offset + byteLength (left.flatMap Piece.source)) right := by
  induction left generalizing offset with
  | nil => rfl
  | cons first rest inductionHypothesis =>
      rw [List.cons_append, problemsFrom, problemsFrom, inductionHypothesis, List.flatMap_cons,
        byteLength_append, Nat.add_assoc]
      split
      · rfl
      · rfl

end Template

namespace Engine

/-- Where checking finds no unterminated substitution, every group is closed. -/
theorem closed_of_check {engine : Engine} {text : String}
    (terminated : ∀ diagnostic ∈ engine.check text, diagnostic.kind ≠ .unterminatedSubstitution) :
    ∀ rest, .unclosed rest ∉ Piece.ofText text.toList := by
  intro rest member
  obtain ⟨diagnostic, found, isProblem⟩ := Template.exists_mem_problemsFrom member rfl 0
  refine terminated diagnostic found ?_
  rw [Diagnostic.kind, isProblem]
  rfl

/-- The text of an expansion is that of the pieces of its template. -/
theorem toList_text_expand (engine : Engine) (text : String) (bindings : Bindings) :
    (engine.expand text bindings).text.toList =
      (Piece.ofText text.toList).flatMap (Template.pieceText fun substitution =>
        (substitute engine.registry (engine.topSite bindings) substitution).result) := by
  rw [← Template.toList_join_segmentsOf]
  have rendered : (fun segment =>
      (renderSegment engine.registry (engine.topSite bindings) segment).result) =
        Template.segmentText fun substitution =>
          (substitute engine.registry (engine.topSite bindings) substitution).result := by
    funext segment
    cases segment <;> rfl
  have expanded : (engine.expand text bindings).text =
      (renderAt engine.registry (engine.topSite bindings) (Template.read text)).result := rfl
  rw [expanded, result_renderAt, rendered]
  rfl

/-- Where a template leaves no brace open, a template after it adds its text and its problems, as
many bytes further on as the first template has. This holds of each engine. -/
theorem expand_append (engine : Engine) (left right : String) (bindings : Bindings)
    (terminated : ∀ diagnostic ∈ engine.check left,
      diagnostic.kind ≠ .unterminatedSubstitution) :
    (engine.expand (left ++ right) bindings).text =
        (engine.expand left bindings).text ++ (engine.expand right bindings).text ∧
      engine.check (left ++ right) =
        engine.check left ++ (engine.check right).map (Diagnostic.shift left.utf8ByteSize) := by
  have pieces : Piece.ofText (left ++ right).toList =
      Piece.ofText left.toList ++ Piece.ofText right.toList := by
    rw [String.toList_append, Piece.ofText_append (closed_of_check terminated)]
  constructor
  · apply String.toList_injective
    rw [String.toList_append, toList_text_expand, toList_text_expand, toList_text_expand, pieces,
      List.flatMap_append]
  · have checked (text : String) :
        engine.check text = Template.problemsFrom 0 (Piece.ofText text.toList) := rfl
    rw [checked, checked, checked, pieces, Template.problemsFrom_append,
      Template.problemsFrom_add, Piece.flatMap_source_ofText, byteLength_toList]

/-- Plain text and stray braces on both sides of the seam, with a rejected group before it and an
open brace after it. -/
theorem expand_append_seam :
    let bindings := Bindings.empty.insert "x" (.string "ä")
    (∀ diagnostic ∈ standard.check "é\x7d{x}{1bad}ü",
        diagnostic.kind ≠ .unterminatedSubstitution) ∧
      (standard.expand ("é\x7d{x}{1bad}ü" ++ "ö{x|trim}\x7d\x7bx") bindings).text =
        "é\x7dä{1bad}ü" ++ "öä\x7d\x7bx" ∧
      standard.check ("é\x7d{x}{1bad}ü" ++ "ö{x|trim}\x7d\x7bx") =
        [⟨.strayBrace, some 2⟩, ⟨.notAReference "{1bad}", some 6⟩,
          ⟨.strayBrace, some 24⟩, ⟨.unclosedGroup "\x7bx", some 25⟩] := by
  intro bindings
  have terminated : ∀ diagnostic ∈ standard.check "é\x7d{x}{1bad}ü",
      diagnostic.kind ≠ .unterminatedSubstitution := by decide
  obtain ⟨text, problems⟩ :=
    expand_append standard "é\x7d{x}{1bad}ü" "ö{x|trim}\x7d\x7bx" bindings terminated
  refine ⟨terminated, ?_, ?_⟩
  · rw [text]
    decide
  · rw [problems]
    decide

end Engine

end MessageTemplate

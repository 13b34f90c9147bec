import MessageTemplate.Proofs.Text.Balance
import MessageTemplate.Template.Piece

/-! # The pieces of a template

`Piece.ofText` follows the text: `ofText_induction` gives one case to each kind of piece, with the
text that the piece stands for. Everything said about the pieces of a template is proved by it,
first of all that they lose no character and that the groups among them are balanced. -/

namespace MessageTemplate.Piece

open MessageTemplate.Text

/-- A text inside braces goes on to the brace that closes the outermost of them, or else to its
end. -/
theorem scan_inside (depth : Nat) (body text : List Char) :
    (∃ inner rest, text = inner ++ '}' :: rest ∧ IsBalancedFrom depth inner ∧
      scan (depth + 1) body text = group (body.reverse ++ inner) :: ofText rest) ∨
    scan (depth + 1) body text = [unclosed (body.reverse ++ text)] := by
  induction text generalizing depth body with
  | nil => exact .inr (by simp [scan])
  | cons character rest inductionHypothesis =>
      by_cases opens : character = '{'
      · subst opens
        simp only [scan, if_true]
        rcases inductionHypothesis (depth + 1) ('{' :: body) with
          ⟨inner, after, rfl, balanced, closed⟩ | stays
        · exact .inl ⟨'{' :: inner, after, rfl, ⟨by simp, balanced⟩, by simp [closed]⟩
        · exact .inr (by simp [stays])
      · by_cases closes : character = '}'
        · subst closes
          cases depth with
          | zero => exact .inl ⟨[], rest, rfl, rfl, by simp [scan, ofText]⟩
          | succ outer =>
              simp only [scan, if_neg opens, if_true]
              rcases inductionHypothesis outer ('}' :: body) with
                ⟨inner, after, rfl, balanced, closed⟩ | stays
              · exact .inl ⟨'}' :: inner, after, rfl, ⟨by simp, balanced⟩, by simp [closed]⟩
              · exact .inr (by simp [stays])
        · simp only [scan, if_neg opens, if_neg closes]
          rcases inductionHypothesis depth (character :: body) with
            ⟨inner, after, rfl, balanced, closed⟩ | stays
          · refine .inl ⟨character :: inner, after, rfl, ⟨fun equal => absurd equal closes, ?_⟩,
              by simp [closed]⟩
            rwa [depthAfter_plain (not_or.mpr ⟨opens, closes⟩)]
          · exact .inr (by simp [stays])

/-- A text that closes the braces around it ends the group they belong to. -/
theorem scan_balanced {depth : Nat} {inner : List Char} (balanced : IsBalancedFrom depth inner)
    (body rest : List Char) :
    scan (depth + 1) body (inner ++ '}' :: rest) =
      group (body.reverse ++ inner) :: ofText rest := by
  induction inner generalizing depth body with
  | nil =>
      cases balanced
      simp [scan, ofText]
  | cons character inner inductionHypothesis =>
      obtain ⟨closes, later⟩ := balanced
      by_cases isOpen : character = '{'
      · subst isOpen
        have inside : IsBalancedFrom (depth + 1) inner := later
        simp [scan, inductionHypothesis inside]
      · by_cases isClose : character = '}'
        · subst isClose
          obtain ⟨outer, rfl⟩ := Nat.exists_eq_succ_of_ne_zero (closes rfl)
          have inside : IsBalancedFrom outer inner := later
          simp [scan, inductionHypothesis inside]
        · rw [depthAfter_plain (not_or.mpr ⟨isOpen, isClose⟩)] at later
          simp [scan, isOpen, isClose, inductionHypothesis later]

@[simp] theorem ofText_nil : ofText [] = [] := rfl

/-- A character that is no brace is a piece. -/
theorem ofText_plain {character : Char} (isPlain : ¬IsBrace character) (rest : List Char) :
    ofText (character :: rest) = plain character :: ofText rest := by
  obtain ⟨notOpen, notClose⟩ := not_or.mp isPlain
  simp [ofText, scan, notOpen, notClose]

/-- A closing brace that closes nothing is a piece. -/
theorem ofText_stray (rest : List Char) : ofText ('}' :: rest) = stray :: ofText rest := by
  simp [ofText, scan]

/-- Balanced text in braces is one piece. -/
theorem ofText_group {body : List Char} (balanced : IsBalanced body) (rest : List Char) :
    ofText ('{' :: body ++ '}' :: rest) = group body :: ofText rest := by
  have closed := scan_balanced balanced [] rest
  rwa [List.reverse_nil, List.nil_append] at closed

/-- Plain text in front of a text adds its characters as pieces. -/
theorem ofText_plain_append {text : List Char} (isPlain : ∀ character ∈ text, ¬IsBrace character)
    (rest : List Char) : ofText (text ++ rest) = text.map plain ++ ofText rest := by
  induction text with
  | nil => rfl
  | cons character text inductionHypothesis =>
      obtain ⟨characterPlain, textPlain⟩ := List.forall_mem_cons.mp isPlain
      rw [List.cons_append, ofText_plain characterPlain, inductionHypothesis textPlain,
        List.map_cons, List.cons_append]

/-- Induction along the pieces of a text. The text of a group is balanced, and a brace that is never
closed is a piece of its own in its rest of the text. -/
theorem ofText_induction {motive : List Char → List Piece → Prop}
    (nil : motive [] [])
    (plain : ∀ character rest, ¬IsBrace character → motive rest (ofText rest) →
      motive (character :: rest) (plain character :: ofText rest))
    (stray : ∀ rest, motive rest (ofText rest) → motive ('}' :: rest) (stray :: ofText rest))
    (group : ∀ body rest, IsBalanced body → motive rest (ofText rest) →
      motive ('{' :: body ++ '}' :: rest) (group body :: ofText rest))
    (unclosed : ∀ rest, ofText ('{' :: rest) = [unclosed rest] →
      motive ('{' :: rest) [unclosed rest])
    (text : List Char) : motive text (ofText text) := by
  match text with
  | [] => exact nil
  | character :: rest =>
      by_cases isOpen : character = '{'
      · subst isOpen
        -- Either the group is closed and reading starts again behind it, or it takes all that is
        -- left.
        rcases scan_inside 0 [] rest with ⟨body, after, rfl, balanced, -⟩ | stays
        · have shorter : after.length < ('{' :: (body ++ '}' :: after)).length := by
            simp
            omega
          have later := ofText_induction nil plain stray group unclosed after
          rw [show '{' :: (body ++ '}' :: after) = '{' :: body ++ '}' :: after from rfl,
            ofText_group balanced]
          exact group body after balanced later
        · have whole : ofText ('{' :: rest) = [.unclosed rest] := stays
          rw [whole]
          exact unclosed rest whole
      · have later := ofText_induction nil plain stray group unclosed rest
        by_cases isClose : character = '}'
        · subst isClose
          rw [ofText_stray]
          exact stray rest later
        · have isPlain : ¬IsBrace character := not_or.mpr ⟨isOpen, isClose⟩
          rw [ofText_plain isPlain]
          exact plain character rest isPlain later
termination_by text.length

/-- The pieces of a text make up the text. -/
theorem flatMap_source_ofText (text : List Char) : (ofText text).flatMap source = text := by
  induction text using ofText_induction with
  | nil => rfl
  | plain character rest isPlain inductionHypothesis => simp [source, inductionHypothesis]
  | stray rest inductionHypothesis => simp [source, inductionHypothesis]
  | group body rest balanced inductionHypothesis => simp [source, inductionHypothesis]
  | unclosed rest => simp [source]

/-- The groups of a text are balanced. -/
theorem isBalanced_of_group_mem_ofText {body text : List Char} (member : group body ∈ ofText text) :
    IsBalanced body := by
  induction text using ofText_induction with
  | nil => simp at member
  | plain character rest isPlain inductionHypothesis =>
      exact inductionHypothesis (by simpa using member)
  | stray rest inductionHypothesis => exact inductionHypothesis (by simpa using member)
  | group other rest balanced inductionHypothesis =>
      rcases List.mem_cons.mp member with equal | later
      · cases equal
        exact balanced
      · exact inductionHypothesis later
  | unclosed rest => simp at member

/-- Balanced text has neither a stray brace nor an unclosed group. -/
theorem plain_or_group_of_mem_ofText {text : List Char} (balanced : IsBalanced text) {piece : Piece}
    (member : piece ∈ ofText text) :
    (∃ character, piece = plain character) ∨ ∃ body, piece = group body := by
  refine balanced.induction (motive := fun text => ∀ piece ∈ ofText text,
    (∃ character, piece = plain character) ∨ ∃ body, piece = group body) ?nil ?plain ?group
    piece member
  case nil => simp
  case plain =>
    intro character rest isPlain inductionHypothesis
    rw [ofText_plain isPlain]
    exact List.forall_mem_cons.mpr ⟨.inl ⟨character, rfl⟩, inductionHypothesis⟩
  case group =>
    intro body rest bodyBalanced inductionHypothesis
    rw [ofText_group bodyBalanced]
    exact List.forall_mem_cons.mpr ⟨.inr ⟨body, rfl⟩, inductionHypothesis⟩

end MessageTemplate.Piece

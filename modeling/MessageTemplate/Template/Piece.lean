import MessageTemplate.Text.Braces

/-! # The brace structure of a template

A template is cut at its braces before anything inside them is looked at. Each brace at depth zero
begins or is a piece of its own, so the pieces tell every brace of the template apart from plain
text, and `source` gives the template back. -/

namespace MessageTemplate

/-- A stretch of template text, as its braces divide it. -/
inductive Piece where
  /-- A character outside all braces. -/
  | plain (character : Char)
  /-- A closing brace that closes nothing. -/
  | stray
  /-- A closed group with the text between its braces. -/
  | group (body : List Char)
  /-- An opening brace that is never closed, with the rest of the template. -/
  | unclosed (rest : List Char)
deriving DecidableEq, Repr

namespace Piece

/-- The text of a piece. -/
def source : Piece → List Char
  | plain character => [character]
  | stray => ['}']
  | group body => '{' :: body ++ ['}']
  | unclosed rest => '{' :: rest

/-- The pieces of a text that follows `depth` open braces, where `body`, read backwards, is the text
after the first of them. -/
def scan : (depth : Nat) → (body text : List Char) → List Piece
  | 0, _, [] => []
  | _ + 1, body, [] => [unclosed body.reverse]
  | 0, _, character :: rest =>
      if character = '{' then scan 1 [] rest
      else if character = '}' then stray :: scan 0 [] rest
      else plain character :: scan 0 [] rest
  | depth + 1, body, character :: rest =>
      if character = '{' then scan (depth + 2) (character :: body) rest
      else if character = '}' then
        match depth with
        | 0 => group body.reverse :: scan 0 [] rest
        | outer + 1 => scan (outer + 1) (character :: body) rest
      else scan (depth + 1) (character :: body) rest

/-- The pieces of a template. -/
def ofText (text : List Char) : List Piece :=
  scan 0 [] text

end Piece

end MessageTemplate

import MessageTemplate.Casing.Basic
import MessageTemplate.Character.Mark
import MessageTemplate.Folding.Bases
import MessageTemplate.Folding.Hangul
import MessageTemplate.Folding.Width
import MessageTemplate.Text.Parts

/-! # Folding

Folding removes distinctions between texts: of width, of diacritics, of case. The three foldings are
applied in this order, because width may bring out a diacritic and a base may have a case. -/

namespace MessageTemplate.Folding

open MessageTemplate.Character

/-- The foldings to apply. -/
structure Options where
  case : Bool := false
  width : Bool := false
  diacritics : Bool := false
deriving DecidableEq, Repr, Inhabited

/-- Adds a named folding, or the name to the unknown ones. -/
def addOption (state : Options × List String) (name : String) : Options × List String :=
  match name with
  | "case" => ({ state.1 with case := true }, state.2)
  | "width" => ({ state.1 with width := true }, state.2)
  | "diacritics" => ({ state.1 with diacritics := true }, state.2)
  | other => (state.1, state.2 ++ [other])

/-- Reads names between commas, with the names that no folding has. -/
def Options.read (text : String) : Options × List String :=
  let names := (Text.parts ',' text.toList).map trimBlanks |>.filter (!·.isEmpty)
  (names.map String.ofList).foldl addOption ({}, [])

/-- Every character in its usual width. -/
def foldWidth (text : List Char) : List Char :=
  text.flatMap usualWidth

/-- Every character without its diacritics. -/
def foldDiacritics (text : List Char) : List Char :=
  joinLetters ((text.flatMap fun character => letters (baseChar character)).filter (!isMark ·))

/-- Applies foldings to a text. -/
def fold (turkic : Bool) (options : Options) (text : List Char) : List Char :=
  let text := if options.width then foldWidth text else text
  let text := if options.diacritics then foldDiacritics text else text
  if options.case then Casing.lower turkic text else text

end MessageTemplate.Folding

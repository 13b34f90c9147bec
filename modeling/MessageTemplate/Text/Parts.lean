/-! # Parts of a text

A text is cut into parts at every separator. Empty parts are kept, so the separators can be put
back. -/

namespace MessageTemplate.Text

/-- Puts a character in front of the first part. -/
def pushFront (character : Char) : List (List Char) → List (List Char)
  | [] => [[character]]
  | part :: parts => (character :: part) :: parts

theorem pushFront_ne_nil (character : Char) (parts : List (List Char)) :
    pushFront character parts ≠ [] := by
  cases parts <;> simp [pushFront]

/-- The parts of a text between separators. There is always at least one part. -/
def parts (separator : Char) : List Char → List (List Char)
  | [] => [[]]
  | character :: rest =>
      if character = separator then [] :: parts separator rest
      else pushFront character (parts separator rest)

/-- There is always a part, were it only an empty one. -/
theorem parts_ne_nil (separator : Char) (text : List Char) : parts separator text ≠ [] := by
  cases text with
  | nil => simp [parts]
  | cons character rest =>
      rw [parts]
      split
      · simp
      · exact pushFront_ne_nil _ _

end MessageTemplate.Text

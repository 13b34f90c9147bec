import MessageTemplate.Yaml.NodeReader

/-! # What reading gives

A reader may fail, but whatever it gives has the property that each of its ways to the end sees to.
`Gives` and `Reads` say so without a word on what is read, and follow the steps of a reader. -/

namespace MessageTemplate

variable {α β : Type} {property : α → Prop}

/-- Whether what is found, if anything is, has a property. -/
def Gives (property : α → Prop) (found : Option α) : Prop :=
  ∀ result, found = some result → property result

/-- Who gives nothing gives nothing wrong. -/
theorem gives_none : Gives property none :=
  nofun

/-- A result with the property is given. -/
theorem gives_some {result : α} (has : property result) : Gives property (some result) := by
  rintro _ ⟨rfl⟩
  exact has

/-- What is given at the end counts, whatever has been found before. -/
theorem Gives.bind {next : β → Option α} (gives : ∀ result, Gives property (next result))
    (found : Option β) : Gives property (found >>= next) := by
  cases found with
  | none => exact gives_none
  | some result => exact gives result

/-- What is made of a result counts, whatever the result. -/
theorem Gives.map {next : β → α} (has : ∀ result, property (next result)) (found : Option β) :
    Gives property (found.map next) := by
  cases found with
  | none => exact gives_none
  | some result => exact gives_some (has result)

namespace Yaml

variable {other : β → Prop}

/-- Whether what a reader gives, if it gives anything, has a property. -/
def Reads (property : α → Prop) (reader : NodeReader α) : Prop :=
  ∀ document followable, Gives (fun result => property result.1)
    ((reader document).run followable)

/-- Every reader reads something or fails. -/
theorem reads_any (reader : NodeReader α) : Reads (fun _ => True) reader :=
  fun _ _ _ _ => trivial

/-- A reader that fails reads nothing wrong. -/
theorem reads_failure : Reads property failure :=
  fun _ _ => gives_none

/-- A reader that gives a result with the property reads it. -/
theorem reads_pure {result : α} (has : property result) : Reads property (pure result) :=
  fun _ _ => gives_some has

/-- Readers one after the other read what the last of them does. -/
theorem Reads.bind {reader : NodeReader α} {next : α → NodeReader β} (reads : Reads property reader)
    (readsNext : ∀ result, property result → Reads other (next result)) :
    Reads other (reader >>= next) := by
  intro document followable result isRead
  obtain ⟨⟨first, left⟩, reached, rest⟩ := Option.bind_eq_some_iff.mp isRead
  exact readsNext first (reads document followable _ reached) document left result rest

/-- A reader may take over what is given without reading. -/
theorem reads_lift {read : Option α} (gives : Gives property read) : Reads property (liftM read) := by
  cases read with
  | none => exact reads_failure
  | some found => exact reads_pure (gives found rfl)

/-- What is read from a document is what the reader gives for its root. -/
theorem Reads.read? {document : Document} {reader : Node → NodeReader α} {result : α}
    (reads : ∀ node, Reads property (reader node))
    (isRead : document.read? reader = some result) : property result := by
  obtain ⟨⟨_, left⟩, reached, rfl⟩ := Option.map_eq_some_iff.mp isRead
  exact reads _ _ _ _ reached

end Yaml

end MessageTemplate

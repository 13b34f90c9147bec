/-! # Entries

Values by key, one to a key, in the order in which the keys arrived. `List.lookup` finds the value of
a key, and `lookup_put` says that binding a key changes what is found for that key alone. -/

namespace MessageTemplate.Entries

variable {κ α : Type} [DecidableEq κ]

/-- Binds a key to a value. A key that is bound already keeps its place. -/
def put (key : κ) (value : α) : List (κ × α) → List (κ × α)
  | [] => [(key, value)]
  | (other, held) :: rest =>
      if key = other then (key, value) :: rest else (other, held) :: put key value rest

/-- Binds the keys of pairs in turn, so that the last value of a key counts. -/
def putAll (pairs entries : List (κ × α)) : List (κ × α) :=
  pairs.foldl (fun held pair => put pair.1 pair.2 held) entries

/-- The entries that pairs make up. -/
def ofPairs (pairs : List (κ × α)) : List (κ × α) :=
  putAll pairs []

/-- Whether two lists of entries have the same keys with the same values. Their order does not
count. -/
def same [BEq α] (left right : List (κ × α)) : Bool :=
  left.length == right.length && left.all fun (key, value) => right.lookup key == some value

/-- Binding a key changes what is found for that key alone. -/
theorem lookup_put (key other : κ) (value : α) (entries : List (κ × α)) :
    (put key value entries).lookup other =
      if other = key then some value else entries.lookup other := by
  induction entries with
  | nil => grind [put]
  | cons entry rest inductionHypothesis => grind [put]

/-- What is bound was bound now or before. -/
theorem mem_put {key : κ} {value : α} {entries : List (κ × α)} {entry : κ × α}
    (member : entry ∈ put key value entries) : entry = (key, value) ∨ entry ∈ entries := by
  induction entries with
  | nil => exact .inl (List.mem_singleton.mp member)
  | cons first rest inductionHypothesis => grind [put]

/-- What a key finds is bound to it. -/
theorem mem_of_lookup {key : κ} {value : α} {entries : List (κ × α)}
    (found : entries.lookup key = some value) : (key, value) ∈ entries := by
  obtain ⟨before, rest, rfl, -⟩ := List.lookup_eq_some_iff.mp found
  exact List.mem_append_right before List.mem_cons_self

end MessageTemplate.Entries

import Mathlib.Data.List.Perm.Subperm

/-! # Places in a text

A place is a stretch of a longer text: where it starts, and what stands there. Positions count
characters, not bytes. Two places may hold the same text, so a place says more than that its text
occurs. -/

namespace MessageTemplate.Text

/-- A stretch of a longer text. -/
structure Place where
  /-- How many characters stand before it. -/
  start : Nat
  text : List Char
deriving DecidableEq, Repr

namespace Place

/-- The position after the last character. -/
def stop (place : Place) : Nat :=
  place.start + place.text.length

/-- Whether a text has the stretch at its place. -/
def IsIn (place : Place) (whole : List Char) : Prop :=
  ∃ before after, before.length = place.start ∧ whole = before ++ place.text ++ after

/-- Whether a place ends before another one starts. -/
def Before (left right : Place) : Prop :=
  left.stop ≤ right.start

/-- Whether a place lies inside another one. -/
def Within (inner outer : Place) : Prop :=
  outer.start ≤ inner.start ∧ inner.stop ≤ outer.stop

variable {place inner middle outer left right : Place} {whole first second : List Char}
  {start : Nat}

/-- A place lies within itself. -/
theorem Within.refl (place : Place) : place.Within place :=
  ⟨Nat.le_refl _, Nat.le_refl _⟩

/-- A place within another lies within all that the other lies in. -/
theorem Within.trans (lower : inner.Within middle) (upper : middle.Within outer) :
    inner.Within outer :=
  ⟨Nat.le_trans upper.1 lower.1, Nat.le_trans lower.2 upper.2⟩

/-- Places apart have their parts apart. -/
theorem Before.of_within (apart : left.Before right) (innerLeft : inner.Within left)
    (innerRight : outer.Within right) : inner.Before outer :=
  Nat.le_trans innerLeft.2 (Nat.le_trans apart innerRight.1)

/-- A whole text stands in itself. -/
theorem isIn_self (text : List Char) : IsIn ⟨0, text⟩ text :=
  ⟨[], [], rfl, (List.append_nil _).symm⟩

/-- What stands in a text is a contiguous part of it. -/
theorem IsIn.isInfix (isIn : place.IsIn whole) : place.text <:+: whole := by
  obtain ⟨before, after, -, rfl⟩ := isIn
  exact List.infix_append ..

/-- A part of what stands in a text stands there too. -/
theorem IsIn.part (inner : Place) (before after : List Char)
    (isIn : IsIn ⟨start, before ++ inner.text ++ after⟩ whole)
    (starts : inner.start = start + before.length) : inner.IsIn whole := by
  obtain ⟨earlier, later, length, rfl⟩ := isIn
  refine ⟨earlier ++ before, after ++ later, ?_, by simp⟩
  rw [List.length_append, length, starts]

/-- A part lies within the text that it is a part of. -/
theorem within_part (inner : Place) (before after : List Char)
    (starts : inner.start = start + before.length) :
    inner.Within ⟨start, before ++ inner.text ++ after⟩ := by
  constructor
  · rw [starts]
    exact Nat.le_add_right ..
  · simp only [stop, starts, List.length_append]
    omega

/-- The first of two parts stands where both stand. -/
theorem IsIn.append_left (isIn : IsIn ⟨start, first ++ second⟩ whole) :
    IsIn ⟨start, first⟩ whole :=
  IsIn.part ⟨start, first⟩ [] second isIn rfl

/-- The second of two parts stands behind the first. -/
theorem IsIn.append_right (isIn : IsIn ⟨start, first ++ second⟩ whole) :
    IsIn ⟨start + first.length, second⟩ whole :=
  IsIn.part ⟨start + first.length, second⟩ first [] (by simpa using isIn) rfl

/-- The first of two parts lies within both. -/
theorem within_append_left : Within ⟨start, first⟩ ⟨start, first ++ second⟩ :=
  within_part ⟨start, first⟩ [] second rfl

/-- The second of two parts lies within both. -/
theorem within_append_right :
    Within ⟨start + first.length, second⟩ ⟨start, first ++ second⟩ := by
  simpa using within_part ⟨start + first.length, second⟩ first [] rfl

/-- The position of a place is among those of its first character. -/
theorem IsIn.start_mem_idxsOf {character : Char} {rest : List Char}
    (isIn : IsIn ⟨start, character :: rest⟩ whole) : start ∈ whole.idxsOf character := by
  obtain ⟨before, after, rfl, rfl⟩ := isIn
  rw [List.mem_idxsOf_iff_exists_getElem_pos]
  exact ⟨by simp, by simp⟩

/-- There are no more places that start with a character than there are such characters. -/
theorem length_le_count {character : Char} {starts : List Nat}
    (ascending : starts.Pairwise (· < ·))
    (marked : ∀ start ∈ starts, start ∈ whole.idxsOf character) :
    starts.length ≤ whole.count character := by
  have distinct : starts.Nodup := ascending.imp Nat.ne_of_lt
  have fewer : starts.length ≤ (whole.idxsOf character).length :=
    (distinct.subperm marked).length_le
  rwa [List.length_idxsOf] at fewer

end Place

end MessageTemplate.Text

import MessageTemplate.Bindings

/-! # What references resolve to

Where names are distinct, the order of the entries does not matter to names: `Bindings.ShareOn` is
agreement by entries, which may stand anywhere. And what is added without a name, or under a name
that is not bound, takes the next position and moves nothing, so that every reference keeps its
value: `Bindings.keptBy_addAll`. Nothing is said of pinning, where a value can hide another one. -/

namespace MessageTemplate

namespace Bindings

/-- Whether two sets of bindings have the same entries under some names, in any order and among any
others, and the same values in some positions. -/
structure ShareOn (left right : Bindings) (references : Reference → Prop) : Prop where
  leftDistinct : left.names.Nodup
  rightDistinct : right.names.Nodup
  names : ∀ name, references (.name name) → ∀ value,
    ⟨some name, value⟩ ∈ left.entries ↔ ⟨some name, value⟩ ∈ right.entries
  positions : ∀ position, references (.position position) →
    left.atPosition? position = right.atPosition? position

/-- Where names are distinct, the value of a name is that of its only entry. -/
theorem get?_eq_some_iff {bindings : Bindings} (distinct : bindings.names.Nodup) {name : String}
    {value : Value} : bindings.get? name = some value ↔ ⟨some name, value⟩ ∈ bindings.entries := by
  obtain ⟨entries, pinned⟩ := bindings
  simp only [names, get?] at distinct ⊢
  induction entries with
  | nil => simp
  | cons entry rest inductionHypothesis =>
      obtain ⟨entryName, held⟩ := entry
      by_cases isNamed : entryName = some name
      · subst isNamed
        have unbound : ⟨some name, value⟩ ∉ rest := fun member =>
          (List.nodup_cons.mp distinct).1 (List.mem_filterMap.mpr ⟨_, member, rfl⟩)
        simp [hasName, unbound, eq_comm]
      · have restDistinct : (rest.filterMap Binding.name).Nodup :=
          distinct.sublist ((List.sublist_cons_self _ rest).filterMap Binding.name)
        simp [hasName, isNamed, Ne.symm isNamed, inductionHypothesis restDistinct]

/-- Who agrees on some references agrees on fewer of them. -/
theorem ShareOn.mono {left right : Bindings} {references fewer : Reference → Prop}
    (share : left.ShareOn right references)
    (included : ∀ reference, fewer reference → references reference) :
    left.ShareOn right fewer where
  leftDistinct := share.leftDistinct
  rightDistinct := share.rightDistinct
  names name isOne := share.names name (included _ isOne)
  positions position isOne := share.positions position (included _ isOne)

/-- Who agrees on a reference resolves it alike. -/
theorem ShareOn.resolve?_eq {left right : Bindings} {references : Reference → Prop}
    (share : left.ShareOn right references) {reference : Reference}
    (isOne : references reference) : left.resolve? reference = right.resolve? reference := by
  cases reference with
  | name name =>
      refine Option.ext fun value => ?_
      rw [resolve?, resolve?, get?_eq_some_iff share.leftDistinct,
        get?_eq_some_iff share.rightDistinct]
      exact share.names name isOne value
  | position position => exact share.positions position isOne

end Bindings

/-! ## Additions -/

/-- A value that is added to bindings. -/
inductive Addition where
  | insert (name : String) (value : Value)
  | insertNew (name : String) (value : Value)
  | push (value : Value)

namespace Addition

/-- Adds to bindings. -/
def apply : Addition → Bindings → Bindings
  | insert name value, bindings => bindings.insert name value
  | insertNew name value, bindings => bindings.insertNew name value
  | push value, bindings => bindings.push value

/-- Whether an addition replaces no value of a bound name. `insertNew` never does. -/
def Spares (bindings : Bindings) : Addition → Prop
  | insert name _ => bindings.contains name = false
  | insertNew _ _ | push _ => True

end Addition

namespace Bindings

/-- Adds to bindings in turn. -/
def addAll (bindings : Bindings) (additions : List Addition) : Bindings :=
  additions.foldl (fun held addition => addition.apply held) bindings

/-- Whether every reference that is bound keeps its value. -/
def KeptBy (bindings wider : Bindings) : Prop :=
  ∀ reference value, bindings.resolve? reference = some value →
    wider.resolve? reference = some value

/-- Whether bindings have the entries of others, in front of their own, and the same pinned
positions. -/
def GrowsTo (bindings grown : Bindings) : Prop :=
  (∃ more, grown.entries = bindings.entries ++ more) ∧ grown.pinned = bindings.pinned

variable {bindings held grown : Bindings} {name : String}

/-- Bindings grow to themselves. -/
theorem GrowsTo.refl (bindings : Bindings) : bindings.GrowsTo bindings :=
  ⟨⟨[], (List.append_nil _).symm⟩, rfl⟩

/-- One more entry behind the others is growth. -/
theorem GrowsTo.append (grows : bindings.GrowsTo held) (entry : Binding) :
    bindings.GrowsTo (held.append entry) := by
  obtain ⟨⟨more, entries⟩, pinned⟩ := grows
  refine ⟨⟨more ++ [entry], ?_⟩, pinned⟩
  rw [Bindings.append, entries, List.append_assoc]

/-- A name that was not bound at first is replaced among what was added. -/
theorem GrowsTo.replace (grows : bindings.GrowsTo held) (isNew : bindings.contains name = false)
    (value : Value) : bindings.GrowsTo (held.replace name value) := by
  obtain ⟨⟨more, entries⟩, pinned⟩ := grows
  let revalue (entry : Binding) : Binding :=
    if hasName name entry then { entry with value } else entry
  have untouched : bindings.entries.map revalue = bindings.entries := by
    refine (List.map_congr_left fun entry member => ?_).trans (List.map_id _)
    exact if_neg (List.any_eq_false.mp isNew entry member)
  refine ⟨⟨more.map revalue, ?_⟩, pinned⟩
  calc (held.replace name value).entries
      _ = (bindings.entries ++ more).map revalue := congrArg (List.map revalue) entries
      _ = bindings.entries ++ more.map revalue := by rw [List.map_append, untouched]

/-- A value under a new name is growth. -/
theorem GrowsTo.insert (grows : bindings.GrowsTo held) (isNew : bindings.contains name = false)
    (value : Value) : bindings.GrowsTo (held.insert name value) := by
  rw [Bindings.insert]
  split
  · exact grows.replace isNew value
  · exact grows.append _

/-- A name that is bound stays bound. -/
theorem GrowsTo.contains (grows : bindings.GrowsTo held) (isBound : bindings.contains name = true) :
    held.contains name = true := by
  obtain ⟨⟨more, entries⟩, -⟩ := grows
  rw [Bindings.contains, entries, List.any_append, ← Bindings.contains, isBound, Bool.true_or]

/-- A default is always growth, as it replaces nothing. -/
theorem GrowsTo.insertNew (grows : bindings.GrowsTo held) (name : String) (value : Value) :
    bindings.GrowsTo (held.insertNew name value) := by
  rw [Bindings.insertNew]
  cases isBound : bindings.contains name with
  | true => rwa [if_pos (grows.contains isBound)]
  | false =>
      split
      · exact grows
      · exact grows.insert isBound value

/-- An addition that spares the bindings is growth. -/
theorem GrowsTo.apply {addition : Addition} (grows : bindings.GrowsTo held)
    (spares : addition.Spares bindings) : bindings.GrowsTo (addition.apply held) := by
  cases addition with
  | insert name value => exact grows.insert spares value
  | insertNew name value => exact grows.insertNew name value
  | push value => exact grows.append _

/-- Additions that all spare the bindings are growth. -/
theorem GrowsTo.addAll {additions : List Addition} (grows : bindings.GrowsTo held)
    (spare : ∀ addition ∈ additions, addition.Spares bindings) :
    bindings.GrowsTo (held.addAll additions) := by
  induction additions generalizing held with
  | nil => exact grows
  | cons addition rest inductionHypothesis =>
      obtain ⟨spares, restSpare⟩ := List.forall_mem_cons.mp spare
      exact inductionHypothesis (grows.apply spares) restSpare

/-- Entries after the others and the same pinned positions hide nothing. -/
theorem GrowsTo.keptBy (grows : bindings.GrowsTo grown) : bindings.KeptBy grown := by
  obtain ⟨⟨more, entries⟩, pinned⟩ := grows
  intro reference value bound
  cases reference with
  | name name =>
      obtain ⟨entry, found, rfl⟩ := Option.map_eq_some_iff.mp bound
      rw [resolve?, get?, entries, List.find?_append, found]
      rfl
  | position index =>
      rw [resolve?, atPosition?] at bound ⊢
      rw [pinned, entries]
      cases isPinned : bindings.pinned.lookup index with
      | some held => simpa [isPinned] using bound
      | none =>
          rw [isPinned] at bound
          obtain ⟨entry, found, rfl⟩ := Option.map_eq_some_iff.mp bound
          have inside : index < bindings.entries.length := (List.getElem?_eq_some_iff.mp found).1
          rw [List.getElem?_append_left inside, found]
          rfl

/-- Whatever is added, and replaces no value of a bound name, leaves every reference its value. -/
theorem keptBy_addAll {additions : List Addition}
    (spare : ∀ addition ∈ additions, addition.Spares bindings) :
    bindings.KeptBy (bindings.addAll additions) :=
  ((GrowsTo.refl bindings).addAll spare).keptBy

end Bindings

end MessageTemplate

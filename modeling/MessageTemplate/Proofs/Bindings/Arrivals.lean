import MessageTemplate.Proofs.Bindings.History

/-! # The entries that additions bring

`Bindings.entries_addAll` is the whole of what additions under names leave behind, in the order of
the positions. Entries that stand already stay; the names that are new follow them in the order in
which they first come. Each entry has the value that its name has in the end, and so
`Bindings.insertAll_congr` can forget how it came by it.

Values without a name are left to those who add them, for they go behind all others. -/

namespace MessageTemplate

/-! ## First occurrences -/

section FirstOccurrences

variable {α : Type} [DecidableEq α]

/-- Leaving items out and dropping repeats can change places. -/
theorem eraseDups_filter (keep : α → Bool) (items : List α) :
    (items.filter keep).eraseDups = items.eraseDups.filter keep := by
  induction items using List.reverseRecOn with
  | nil => rfl
  | append_singleton items item inductionHypothesis =>
      have last : (([item].filter keep).removeAll (items.filter keep)).eraseDups =
          ([item].removeAll items).eraseDups.filter keep := by
        by_cases kept : keep item = true <;> by_cases member : item ∈ items <;>
          simp [List.removeAll, kept, member, List.eraseDups_cons]
      rw [List.filter_append, List.eraseDups_append, List.eraseDups_append, List.filter_append,
        inductionHypothesis, last]

/-- Without repeats nothing is dropped. -/
theorem eraseDups_of_nodup {items : List α} (distinct : items.Nodup) : items.eraseDups = items := by
  induction items with
  | nil => rfl
  | cons item rest inductionHypothesis =>
      obtain ⟨notLater, restDistinct⟩ := List.nodup_cons.mp distinct
      have untouched : rest.filter (fun other => !other == item) = rest := by
        refine List.filter_eq_self.mpr fun other member => ?_
        have differs : other ≠ item := fun same => notLater (same ▸ member)
        simpa using differs
      rw [List.eraseDups_cons, untouched, inductionHypothesis restDistinct]

end FirstOccurrences

namespace Addition

/-- What a name that was not bound finds after additions. -/
def given? (name : String) (additions : List Addition) : Option Value :=
  (lastInsert? name additions).or (firstDefault? name additions)

variable {addition : Addition} {name other : String} {additions : List Addition}

/-- An addition under another name gives a name nothing. -/
theorem given?_cons_of_ne (isName : addition.name? = some name) (differs : other ≠ name) :
    given? other (addition :: additions) = given? other additions := by
  rw [given?, given?, lastInsert?_cons, firstDefault?_cons]
  cases addition with
  | insert _ value =>
      cases isName
      simp [replacing?, filling?, Entries.lookup_singleton, differs]
  | insertNew _ value =>
      cases isName
      simp [replacing?, filling?, Entries.lookup_singleton, differs]
  | push value => cases isName

/-- An addition under a name gives it its value, unless a later one replaces it. -/
theorem given?_cons_self (isName : addition.name? = some name) :
    given? name (addition :: additions) =
      some ((lastInsert? name additions).getD addition.value) := by
  rw [given?, lastInsert?_cons, firstDefault?_cons]
  cases addition with
  | insert _ value =>
      cases isName
      cases lastInsert? name additions <;> simp [replacing?, filling?, Addition.value]
  | insertNew _ value =>
      cases isName
      cases lastInsert? name additions <;> simp [replacing?, filling?, Addition.value]
  | push value => cases isName

/-- The entries that additions bring under names that are not held already: one for each name, in
the order in which the names first come, with the value that the name has in the end. -/
def arrivals (held : List String) (additions : List Addition) : List Binding :=
  ((additions.filterMap name?).eraseDups.removeAll held).filterMap fun name =>
    (given? name additions).map (Binding.mk (some name))

/-- Which names arrive depends on the names that are held, not on their order. -/
theorem arrivals_congr {held others : List String} (sameNames : ∀ name, name ∈ held ↔ name ∈ others)
    (additions : List Addition) : arrivals held additions = arrivals others additions := by
  have sameTest : (fun name => !held.elem name) = fun name => !others.elem name := by
    funext name
    simp [sameNames]
  rw [arrivals, arrivals, List.removeAll, List.removeAll, sameTest]

/-- The first of some additions brings an entry if its name is new, and then the name is not. -/
theorem arrivals_cons (isName : addition.name? = some name) (held : List String)
    (rest : List Addition) :
    arrivals held (addition :: rest) =
      (if name ∈ held then [] else
        [⟨some name, (lastInsert? name rest).getD addition.value⟩]) ++
        arrivals (name :: held) rest := by
  let names := rest.filterMap name?
  have first : (addition :: rest).filterMap name? = name :: names := by
    rw [List.filterMap_cons, isName]
  -- Of the other names, the first one's later occurrences are as good as held.
  have others : (names.eraseDups.filter fun other => !other == name).removeAll held =
      names.eraseDups.removeAll (name :: held) := by
    rw [List.removeAll, List.filter_filter, List.removeAll]
    congr 1
    funext other
    simp [beq_eq_decide, Bool.and_comm]
  have sameValues : ((names.eraseDups.removeAll (name :: held)).filterMap fun other =>
      (given? other (addition :: rest)).map (Binding.mk (some other))) =
        arrivals (name :: held) rest := by
    refine List.filterMap_congr fun other member => ?_
    have differs : other ≠ name := by
      rintro rfl
      simp [List.removeAll] at member
    rw [given?_cons_of_ne isName differs]
  have split : (name :: names.eraseDups.filter fun other => !other == name).removeAll held =
      (if name ∈ held then [] else [name]) ++ names.eraseDups.removeAll (name :: held) := by
    rw [← others]
    by_cases isHeld : name ∈ held <;> simp [List.removeAll, isHeld]
  rw [arrivals, first, List.eraseDups_cons, eraseDups_filter, split, List.filterMap_append,
    sameValues]
  split
  · rfl
  · simp [given?_cons_self isName]

end Addition

namespace Bindings

open Addition

variable {bindings : Bindings}

/-- Under a name, an addition gives entries that stand already their values, or brings one. -/
theorem entries_apply {addition : Addition} {name : String} (isName : addition.name? = some name)
    (bindings : Bindings) :
    (addition.apply bindings).entries = bindings.entries.map addition.revalue ++
      (if name ∈ bindings.names then [] else [⟨some name, addition.value⟩]) := by
  rcases addition.apply_cases bindings with
    ⟨_, value, rfl, isBound, applied⟩ | ⟨_, value, rfl, isBound, applied⟩ | ⟨isNew, applied⟩
  · cases isName
    rw [applied, if_pos (contains_iff_mem_names.mp isBound), List.append_nil]
    rfl
  · cases isName
    rw [applied, if_pos (contains_iff_mem_names.mp isBound), List.append_nil]
    exact (List.map_id _).symm
  · have unbound := isNew name isName
    have notName : name ∉ bindings.names := fun member =>
      Bool.false_ne_true (unbound.symm.trans (contains_iff_mem_names.mpr member))
    have untouched : bindings.entries.map addition.revalue = bindings.entries := by
      refine (List.map_congr_left fun entry member => ?_).trans (List.map_id _)
      cases addition with
      | insert _ value =>
          cases isName
          exact if_neg (List.any_eq_false.mp unbound entry member)
      | insertNew _ value => rfl
      | push value => rfl
    rw [applied, if_neg notName, untouched, isName]
    rfl

/-- Under names, additions move no entry, and the names that are new follow in the order in which
they first come. -/
theorem entries_addAll (bindings : Bindings) {additions : List Addition}
    (named : ∀ addition ∈ additions, ∃ name, addition.name? = some name) :
    (bindings.addAll additions).entries =
      bindings.entries.map (settle additions) ++ arrivals bindings.names additions := by
  -- From the front, for it is the first addition of a new name that brings its entry.
  induction additions generalizing bindings with
  | nil =>
      have unchanged : settle [] = id := funext fun entry => (foldl_revalue [] entry).symm
      rw [unchanged, List.map_id]
      exact (List.append_nil _).symm
  | cons addition rest inductionHypothesis =>
      obtain ⟨⟨name, isName⟩, restNamed⟩ := List.forall_mem_cons.mp named
      have settled : settle (addition :: rest) = settle rest ∘ addition.revalue := by
        funext entry
        rw [← foldl_revalue, List.foldl_cons, foldl_revalue]
        rfl
      have held : ∀ other, other ∈ (addition.apply bindings).names ↔
          other ∈ name :: bindings.names := by
        intro other
        rw [addition.names_apply, isName]
        by_cases isHeld : name ∈ bindings.names <;>
          by_cases same : other = name <;> simp [List.removeAll, isHeld, same]
      rw [addAll_cons, inductionHypothesis _ restNamed, entries_apply isName, arrivals_congr held,
        arrivals_cons isName, settled, List.map_append, List.map_map, List.append_assoc]
      congr 2
      split
      · rfl
      · rfl

end Bindings

/-! ## Assignments over defaults -/

namespace Addition

/-- What gives names their values, one after the other. -/
def inserts (pairs : List (String × Value)) : List Addition :=
  pairs.map fun pair => insert pair.1 pair.2

/-- What gives names their values where they are not bound. -/
def fills (pairs : List (String × Value)) : List Addition :=
  pairs.map fun pair => insertNew pair.1 pair.2

variable {pairs defaults : List (String × Value)} {name : String}

/-- Inserts and defaults all have names. -/
theorem name?_of_mem (pairs defaults : List (String × Value)) :
    ∀ addition ∈ inserts pairs ++ fills defaults, ∃ name, addition.name? = some name := by
  intro addition member
  rcases List.mem_append.mp member with isInsert | isFill
  · obtain ⟨pair, -, rfl⟩ := List.mem_map.mp isInsert
    exact ⟨pair.1, rfl⟩
  · obtain ⟨pair, -, rfl⟩ := List.mem_map.mp isFill
    exact ⟨pair.1, rfl⟩

/-- The names of inserts and defaults are those of the pairs, in order. -/
theorem filterMap_name? (pairs defaults : List (String × Value)) :
    (inserts pairs ++ fills defaults).filterMap name? =
      pairs.map Prod.fst ++ defaults.map Prod.fst := by
  simp [inserts, fills, List.filterMap_map, Function.comp_def, name?]

/-- The last insert of a name has the last value that the pairs give it; defaults do not count. -/
theorem lastInsert?_inserts (name : String) (pairs defaults : List (String × Value)) :
    lastInsert? name (inserts pairs ++ fills defaults) = Entries.last? name pairs := by
  simp [lastInsert?, inserts, fills, List.filterMap_map, Function.comp_def, replacing?]

/-- The first default of a name has the first value among the defaults; inserts do not count. -/
theorem firstDefault?_fills (name : String) (pairs defaults : List (String × Value)) :
    firstDefault? name (inserts pairs ++ fills defaults) = defaults.lookup name := by
  simp [firstDefault?, inserts, fills, List.filterMap_map, Function.comp_def, filling?]

/-- Where no name comes twice, the names of some pairs find the values they come with. -/
theorem filterMap_lookup (distinct : (pairs.map Prod.fst).Nodup) (keep : String → Bool) :
    ((pairs.map Prod.fst).filter keep).filterMap (fun name =>
        (pairs.lookup name).map (Binding.mk (some name))) =
      (pairs.filter fun pair => keep pair.1).map fun pair => ⟨some pair.1, pair.2⟩ := by
  rw [List.filter_map, List.filterMap_map]
  refine (List.filterMap_congr fun pair member => ?_).trans (congrFun List.filterMap_eq_map _)
  have found : pairs.lookup pair.1 = some pair.2 :=
    (Entries.lookup_eq_some_iff_mem distinct).mpr (List.mem_of_mem_filter member)
  simp [found]

/-- New names come in the order of the assignments, and then those of the defaults that are bound
neither before nor by the assignments. -/
theorem arrivals_inserts (held : List String) (pairs : List (String × Value))
    (distinct : (defaults.map Prod.fst).Nodup) :
    arrivals held (inserts pairs ++ fills defaults) =
      (((pairs.map Prod.fst).eraseDups.removeAll held).filterMap fun name =>
        (Entries.last? name pairs).map (Binding.mk (some name))) ++
      (defaults.filter fun pair => pair.1 ∉ held ∧ pair.1 ∉ pairs.map Prod.fst).map fun pair =>
        ⟨some pair.1, pair.2⟩ := by
  have given (name : String) : given? name (inserts pairs ++ fills defaults) =
      (Entries.last? name pairs).or (defaults.lookup name) := by
    rw [given?, lastInsert?_inserts, firstDefault?_fills]
  have later : ((defaults.map Prod.fst).removeAll (pairs.map Prod.fst)).eraseDups =
      (defaults.map Prod.fst).removeAll (pairs.map Prod.fst) :=
    eraseDups_of_nodup (distinct.filter _)
  -- The names that are inserted come first, and of the defaults only those that are not among them.
  rw [arrivals, filterMap_name?, List.eraseDups_append, later, List.removeAll, List.filter_append,
    List.filterMap_append, ← List.removeAll]
  congr 1
  · refine List.filterMap_congr fun name member => ?_
    have isName : name ∈ pairs.map Prod.fst := List.mem_eraseDups.mp (List.mem_of_mem_filter member)
    obtain ⟨value, isLast⟩ := Option.isSome_iff_exists.mp (Entries.isSome_last?_iff.mpr isName)
    rw [given, isLast]
    rfl
  · have unbound : ((defaults.map Prod.fst).removeAll (pairs.map Prod.fst)).filter
        (fun name => !held.elem name) = (defaults.map Prod.fst).filter
          (fun name => name ∉ held ∧ name ∉ pairs.map Prod.fst) := by
      rw [List.removeAll, List.filter_filter]
      congr 1
      funext name
      simp
    rw [unbound]
    refine (List.filterMap_congr fun name member => ?_).trans (filterMap_lookup distinct
      fun name => name ∉ held ∧ name ∉ pairs.map Prod.fst)
    have isNew := of_decide_eq_true (List.mem_filter.mp member).2
    have notAssigned : Entries.last? name pairs = none := by
      rw [← Option.not_isSome_iff_eq_none, Entries.isSome_last?_iff]
      exact isNew.2
    rw [given, notAssigned, Option.none_or]

end Addition

namespace Bindings

open Addition

variable {pairs others : List (String × Value)}

/-- Inserting pairs is carrying out the inserts they stand for. -/
theorem insertAll_eq_inserts (bindings : Bindings) (pairs : List (String × Value)) :
    bindings.insertAll pairs = bindings.addAll (inserts pairs ++ fills []) := by
  rw [insertAll_eq_addAll]
  exact congrArg bindings.addAll (List.append_nil _).symm

/-- Inserting pairs settles the entries that stand already and adds one behind them for each new
name, with the last value of the name. -/
theorem entries_insertAll (bindings : Bindings) (pairs : List (String × Value)) :
    (bindings.insertAll pairs).entries =
      bindings.entries.map (settle (inserts pairs ++ fills [])) ++
        ((pairs.map Prod.fst).eraseDups.removeAll bindings.names).filterMap fun name =>
          (Entries.last? name pairs).map (Binding.mk (some name)) := by
  have noDefaults : (([] : List (String × Value)).map Prod.fst).Nodup := .nil
  rw [insertAll_eq_inserts, entries_addAll _ (name?_of_mem _ _), arrivals_inserts _ _ noDefaults]
  exact congrArg (bindings.entries.map _ ++ ·) (List.append_nil _)

/-- Inserting pairs pins nothing. -/
theorem pinned_insertAll (bindings : Bindings) (pairs : List (String × Value)) :
    (bindings.insertAll pairs).pinned = bindings.pinned := by
  rw [insertAll_eq_inserts, pinned_addAll]

/-- Of the names that are bound in turn, only their order and the last value of each count. -/
theorem insertAll_congr (bindings : Bindings)
    (sameNames : (pairs.map Prod.fst).eraseDups = (others.map Prod.fst).eraseDups)
    (sameLast : ∀ name, Entries.last? name pairs = Entries.last? name others) :
    bindings.insertAll pairs = bindings.insertAll others := by
  have settled : settle (inserts pairs ++ fills []) = settle (inserts others ++ fills []) := by
    funext entry
    simp only [settle, lastInsert?_inserts, sameLast]
  have entries : (bindings.insertAll pairs).entries = (bindings.insertAll others).entries := by
    rw [entries_insertAll, entries_insertAll, settled, sameNames]
    simp only [sameLast]
  have pinned : (bindings.insertAll pairs).pinned = (bindings.insertAll others).pinned := by
    rw [pinned_insertAll, pinned_insertAll]
  calc bindings.insertAll pairs
      = ⟨(bindings.insertAll pairs).entries, (bindings.insertAll pairs).pinned⟩ := rfl
    _ = bindings.insertAll others := by rw [entries, pinned]

/-- To bind names in turn is to gather them in bindings of their own and to bind what these hold. -/
theorem insertAll_named_insertAll (bindings : Bindings) (pairs : List (String × Value)) :
    bindings.insertAll (empty.insertAll pairs).named = bindings.insertAll pairs := by
  have noNames : empty.names.Nodup := .nil
  have distinct : (empty.insertAll pairs).names.Nodup := by
    rw [insertAll_eq_inserts]
    exact nodup_names_addAll noNames _
  have names : (empty.insertAll pairs).names = (pairs.map Prod.fst).eraseDups := by
    rw [insertAll_eq_inserts, names_addAll_empty, filterMap_name?]
    exact congrArg List.eraseDups (List.append_nil _)
  refine insertAll_congr bindings ?_ fun name => ?_
  · rw [map_fst_named, eraseDups_of_nodup distinct, names]
  · rw [last?_named distinct, insertAll_eq_inserts, get?_addAll, lastInsert?_inserts,
      firstDefault?_fills]
    simp [get?, empty]

/-- Distinct names are bound in the order they come in. -/
theorem insertAll_empty (distinct : (pairs.map Prod.fst).Nodup) :
    empty.insertAll pairs = ⟨pairs.map fun pair => ⟨some pair.1, pair.2⟩, []⟩ := by
  have everyName : (pairs.map Prod.fst).eraseDups.removeAll empty.names =
      (pairs.map Prod.fst).filter fun _ => true := by
    rw [eraseDups_of_nodup distinct]
    rfl
  have entries : (empty.insertAll pairs).entries = pairs.map fun pair => ⟨some pair.1, pair.2⟩ := by
    rw [entries_insertAll, everyName]
    simp only [Entries.last?_eq_lookup distinct]
    rw [filterMap_lookup distinct]
    simp [empty]
  have pinned : (empty.insertAll pairs).pinned = [] := pinned_insertAll empty pairs
  rw [← entries, ← pinned]

/-- The members of an object are bound in the order they stand in. -/
theorem ofJson?_object {members : List (String × Json)}
    (distinct : (members.map Prod.fst).Nodup) :
    ofJson? (.object members) =
      some ⟨members.map fun member => ⟨some member.1, Value.ofJson member.2⟩, []⟩ := by
  have distinctNames : ((members.map fun member => (member.1, Value.ofJson member.2)).map
      Prod.fst).Nodup := by
    rwa [List.map_map]
  rw [ofJson?, insertAll_empty distinctNames, List.map_map]
  rfl

end Bindings

end MessageTemplate

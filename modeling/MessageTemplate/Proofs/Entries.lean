import Mathlib.Data.Finset.Card
import MessageTemplate.Entries

/-! # Theory of entries

Entries seen through their keys: what binding keys in turn makes of a look-up, of the keys and of
their number. `lookup_putAll` says that of values bound to one key the last counts. That a look-up
finds every entry needs distinct keys, which binding keeps distinct: `nodup_keys_putAll`. -/

namespace MessageTemplate.Entries

variable {κ α : Type} [DecidableEq κ] {key : κ} {value : α} {entries pairs : List (κ × α)}

/-- The value that comes last for a key. -/
def last? {κ α : Type} [DecidableEq κ] (key : κ) (entries : List (κ × α)) : Option α :=
  entries.reverse.lookup key

/-- A later pair counts before an earlier one. -/
theorem last?_append {κ α : Type} [DecidableEq κ] (key : κ) (left right : List (κ × α)) :
    last? key (left ++ right) = (last? key right).or (last? key left) := by
  rw [last?, List.reverse_append, List.lookup_append]
  rfl

/-- A single pair is found under its own key. -/
theorem lookup_singleton {κ α : Type} [DecidableEq κ] (key other : κ) (value : α) :
    [(other, value)].lookup key = if key = other then some value else none := by
  rw [List.lookup_cons, List.lookup_nil]
  by_cases same : key = other
  · rw [if_pos same, beq_iff_eq.mpr same]
  · rw [if_neg same, beq_eq_false_iff_ne.mpr same]

/-- The first pair counts where no later one has its key. -/
theorem last?_cons (key : κ) (pair : κ × α) (rest : List (κ × α)) :
    last? key (pair :: rest) =
      (last? key rest).or (if key = pair.1 then some pair.2 else none) := by
  rw [← List.singleton_append, last?_append, last?, last?, List.reverse_singleton,
    lookup_singleton key pair.1 pair.2]

/-- Where no key comes twice, looking up is membership. -/
theorem lookup_eq_some_iff_mem {κ α : Type} [DecidableEq κ] {entries : List (κ × α)}
    (distinct : (entries.map Prod.fst).Nodup) {key : κ} {value : α} :
    entries.lookup key = some value ↔ (key, value) ∈ entries := by
  rw [List.lookup_eq_some_iff]
  constructor
  · rintro ⟨before, rest, rfl, -⟩
    exact List.mem_append_right _ List.mem_cons_self
  · intro member
    obtain ⟨before, rest, rfl⟩ := List.append_of_mem member
    refine ⟨before, rest, rfl, fun other isBefore => bne_iff_ne.mpr ?_⟩
    rw [List.map_append, List.map_cons] at distinct
    exact ((List.nodup_append.mp distinct).2.2 other.1 (List.mem_map_of_mem isBefore) key
      List.mem_cons_self).symm

/-- Where no key comes twice, the last value of a key is its only one. -/
theorem last?_eq_lookup (distinct : (entries.map Prod.fst).Nodup) (key : κ) :
    last? key entries = entries.lookup key := by
  have distinctReversed : (entries.reverse.map Prod.fst).Nodup := by
    rw [List.map_reverse]
    exact List.nodup_reverse.mpr distinct
  ext value
  rw [last?, lookup_eq_some_iff_mem distinctReversed, List.mem_reverse,
    lookup_eq_some_iff_mem distinct]

/-- A key finds a value if it is the key of an entry. -/
theorem isSome_lookup_iff : (entries.lookup key).isSome = true ↔ key ∈ entries.map Prod.fst := by
  induction entries with
  | nil => simp
  | cons entry rest inductionHypothesis =>
      rw [List.lookup_cons, List.map_cons, List.mem_cons]
      by_cases same : key = entry.1
      · simp [same]
      · rw [beq_eq_false_iff_ne.mpr same]
        simp [same, inductionHypothesis]

/-- A key has a last value exactly if it occurs. -/
theorem isSome_last?_iff : (last? key entries).isSome = true ↔ key ∈ entries.map Prod.fst := by
  rw [last?, isSome_lookup_iff, List.map_reverse, List.mem_reverse]

/-! ## Binding keys in turn -/

@[simp] theorem putAll_nil (entries : List (κ × α)) : putAll [] entries = entries := rfl

@[simp] theorem putAll_cons (pair : κ × α) (rest entries : List (κ × α)) :
    putAll (pair :: rest) entries = putAll rest (put pair.1 pair.2 entries) := rfl

/-- Of the values bound to a key in turn, the last is found. -/
theorem lookup_putAll (key : κ) (pairs entries : List (κ × α)) :
    (putAll pairs entries).lookup key = (last? key pairs).or (entries.lookup key) := by
  induction pairs generalizing entries with
  | nil => rfl
  | cons pair rest inductionHypothesis =>
      rw [putAll_cons, inductionHypothesis, lookup_put, last?_cons, Option.or_assoc]
      congr 1
      split <;> rfl

/-- A new key goes behind the others. -/
theorem keys_put (key : κ) (value : α) (entries : List (κ × α)) :
    (put key value entries).map Prod.fst =
      if key ∈ entries.map Prod.fst then entries.map Prod.fst
      else entries.map Prod.fst ++ [key] := by
  induction entries with
  | nil => rfl
  | cons entry rest inductionHypothesis =>
      rw [put]
      by_cases same : key = entry.1
      · simp [same]
      · rw [if_neg same, List.map_cons, inductionHypothesis]
        by_cases isKey : key ∈ rest.map Prod.fst
        · simp [isKey]
        · rw [if_neg isKey, if_neg (by simp_all), List.map_cons, List.cons_append]

/-- Binding a key adds this key to the others, if it is new. -/
theorem mem_keys_put {other : κ} :
    other ∈ (put key value entries).map Prod.fst ↔ other = key ∨ other ∈ entries.map Prod.fst := by
  rw [keys_put]
  split
  case isTrue isKey => exact ⟨.inr, fun held => held.elim (· ▸ isKey) id⟩
  case isFalse => rw [List.mem_append, List.mem_singleton, or_comm]

/-- Binding a key keeps the keys distinct. -/
theorem nodup_keys_put (distinct : (entries.map Prod.fst).Nodup) :
    ((put key value entries).map Prod.fst).Nodup := by
  rw [keys_put]
  split
  case isTrue => exact distinct
  case isFalse isNew =>
    rw [← List.concat_eq_append]
    exact distinct.concat isNew

/-- Binding keeps keys distinct. -/
theorem nodup_keys_putAll (distinct : (entries.map Prod.fst).Nodup) :
    ((putAll pairs entries).map Prod.fst).Nodup := by
  induction pairs generalizing entries with
  | nil => exact distinct
  | cons pair rest inductionHypothesis => exact inductionHypothesis (nodup_keys_put distinct)

/-- The keys afterwards are those there were and those that were bound. -/
theorem mem_keys_putAll :
    key ∈ (putAll pairs entries).map Prod.fst ↔
      key ∈ pairs.map Prod.fst ∨ key ∈ entries.map Prod.fst := by
  rw [← isSome_lookup_iff, lookup_putAll, Option.isSome_or, Bool.or_eq_true, isSome_last?_iff,
    isSome_lookup_iff]

/-- Where no key comes twice, there are as many entries as there are keys among given ones. -/
theorem length_eq_card {keys : List κ} (distinct : (entries.map Prod.fst).Nodup)
    (sameKeys : ∀ key, key ∈ entries.map Prod.fst ↔ key ∈ keys) :
    entries.length = keys.toFinset.card := by
  have sameSet : (entries.map Prod.fst).toFinset = keys.toFinset := by
    ext key
    rw [List.mem_toFinset, List.mem_toFinset, sameKeys]
  rw [← sameSet, List.toFinset_card_of_nodup distinct, List.length_map]

/-- Under a key of pairs, the last value is found. -/
theorem lookup_ofPairs (key : κ) (pairs : List (κ × α)) :
    (ofPairs pairs).lookup key = last? key pairs := by
  rw [ofPairs, lookup_putAll, List.lookup_nil, Option.or_none]

/-- Entries that are made of pairs have distinct keys. -/
theorem nodup_keys_ofPairs (pairs : List (κ × α)) : ((ofPairs pairs).map Prod.fst).Nodup :=
  nodup_keys_putAll .nil

/-- Pairs make up one entry for each of their keys. -/
theorem length_ofPairs (pairs : List (κ × α)) :
    (ofPairs pairs).length = (pairs.map Prod.fst).toFinset.card := by
  refine length_eq_card (nodup_keys_ofPairs pairs) fun key => ?_
  rw [ofPairs, mem_keys_putAll]
  simp

end MessageTemplate.Entries

import Mathlib.Data.String.Basic
import MessageTemplate.Catalog
import MessageTemplate.Proofs.Entries
import MessageTemplate.Yaml.Views

/-! # The history of a catalog

A catalog is changed by adding a text or by loading a table. `Catalog.keepsTexts` says what can be
asked of a catalog after any history of changes: it is one map from places and keys to texts, where
the last text of a key counts; a change that fails leaves it as it is; and a change in one place is
not noticed in another. All this holds whatever the reader of YAML makes of a document: nothing is
asked of it. A document that names a key twice counts it once, with its last text. -/

namespace MessageTemplate

namespace Catalog

/-- A change that is asked of a catalog. -/
inductive Change where
  | insert (table scope : Option String) (key text : String)
  | loadYaml (document : String) (table scope : Option String)
  /-- The content is what reading the file gave. -/
  | loadFile (path : String) (content : Except FileProblem String) (table scope : Option String)

namespace Change

/-- The place that is changed. -/
def place : Change → TablePlace
  | insert table scope _ _ => .ofNames table scope
  | loadYaml _ table scope => .ofNames table scope
  | loadFile _ _ table scope => .ofNames table scope

/-- The texts by key that a change brings, in order, or why it fails. -/
def texts (reader : TableReader) : Change → Except Failure (List (String × String))
  | insert _ _ key text => .ok [(key, text)]
  | loadYaml document _ _ =>
      match reader document with
      | some texts => .ok texts
      | none => .error .malformedYaml
  | loadFile path content _ _ =>
      match content with
      | .error problem => .error (.unreadableTable path problem)
      | .ok document =>
          match reader document with
          | some texts => .ok texts
          | none => .error (.malformedTable path)

/-- The number that a change answers with: for a load, that of the different keys. -/
def count? (change : Change) (texts : List (String × String)) : Option Nat :=
  match change with
  | insert .. => none
  | loadYaml .. | loadFile .. => some (texts.map Prod.fst).toFinset.card

/-- Carries a change out: the catalog afterwards, and the number that a load answers with. -/
def carryOut (reader : TableReader) (change : Change) (catalog : Catalog) :
    Except Failure (Catalog × Option Nat) :=
  match change with
  | insert table scope key text => .ok (catalog.insert table scope key text, none)
  | loadYaml document table scope =>
      (catalog.loadYaml reader document table scope).map fun (next, count) => (next, some count)
  | loadFile path content table scope =>
      (catalog.loadFile reader path content table scope).map fun (next, count) => (next, some count)

/-- What a change writes where. -/
def writes (reader : TableReader) (change : Change) : List ((TablePlace × String) × String) :=
  match change.texts reader with
  | .ok texts => texts.map fun (key, text) => ((change.place, key), text)
  | .error _ => []

end Change

variable {reader : TableReader}

namespace Change

variable {change : Change}

/-- A change writes all the texts that it brings, in its place. -/
theorem writes_of_ok {texts : List (String × String)} (brings : change.texts reader = .ok texts) :
    change.writes reader = texts.map fun (key, text) => ((change.place, key), text) := by
  rw [writes, brings]

/-- A change that fails writes nothing. -/
theorem writes_of_error {failure : Failure} (fails : change.texts reader = .error failure) :
    change.writes reader = [] := by
  rw [writes, fails]

end Change

/-- The catalog after a change, which stays as it is if the change fails. -/
def perform (reader : TableReader) (catalog : Catalog) (change : Change) : Catalog :=
  match change.carryOut reader catalog with
  | .ok (next, _) => next
  | .error _ => catalog

/-- The catalog after a history of changes. -/
def after (reader : TableReader) (history : List Change) : Catalog :=
  history.foldl (perform reader) empty

/-- All that is written in a history, in order. -/
def writesOf (reader : TableReader) (history : List Change) :
    List ((TablePlace × String) × String) :=
  history.flatMap (Change.writes reader)

/-- The last change of a history is carried out on what the earlier ones leave. -/
theorem after_concat (history : List Change) (change : Change) :
    after reader (history ++ [change]) = (after reader history).perform reader change :=
  List.foldl_concat ..

/-- A change comes down to adding its texts in its place, if it has any. -/
theorem Change.carryOut_eq (change : Change) (catalog : Catalog) :
    change.carryOut reader catalog = (change.texts reader).map fun texts =>
      (catalog.addAll change.place (Entries.ofPairs texts), change.count? texts) := by
  cases change with
  | insert table scope key text => rfl
  | loadYaml document table scope =>
      simp only [carryOut, Catalog.loadYaml, readTable?, texts]
      cases reader document with
      | none => rfl
      | some texts => simp [Except.map, count?, place, Entries.length_ofPairs]
  | loadFile path content table scope =>
      cases content with
      | error problem => rfl
      | ok document =>
          simp only [carryOut, Catalog.loadFile, readTable?, texts]
          cases reader document with
          | none => rfl
          | some texts => simp [Except.map, count?, place, Entries.length_ofPairs]

/-- A change that brings texts adds them. -/
theorem perform_of_ok {change : Change} {texts : List (String × String)}
    (brings : change.texts reader = .ok texts) (catalog : Catalog) :
    catalog.perform reader change = catalog.addAll change.place (Entries.ofPairs texts) := by
  rw [perform, Change.carryOut_eq, brings]
  rfl

/-- A change that fails leaves the catalog as it is. -/
theorem perform_of_error {change : Change} {failure : Failure}
    (fails : change.texts reader = .error failure) (catalog : Catalog) :
    catalog.perform reader change = catalog := by
  rw [perform, Change.carryOut_eq, fails]
  rfl

/-- The last change of a history writes last. -/
theorem writesOf_concat (history : List Change) (change : Change) :
    writesOf reader (history ++ [change]) = writesOf reader history ++ change.writes reader := by
  rw [writesOf, List.flatMap_append, List.flatMap_singleton, writesOf]

/-! ## The map that a catalog is -/

variable {catalog : Catalog} {place other : TablePlace} {key : String}

/-- Adding texts in one place leaves the tables of the other places as they are. -/
theorem tableAt_addAll (catalog : Catalog) (place other : TablePlace) (texts : Table) :
    (catalog.addAll place texts).tableAt other =
      if other = place then Entries.putAll texts (catalog.tableAt place)
      else catalog.tableAt other := by
  rw [tableAt, addAll, Entries.lookup_put]
  split <;> rfl

/-- In a place, the last text of a key is that of what is written there. -/
theorem last?_at (place other : TablePlace) (key : String) (texts : List (String × String)) :
    Entries.last? (other, key) (texts.map fun (key, text) => ((place, key), text)) =
      if other = place then Entries.last? key texts else none := by
  induction texts with
  | nil => rw [List.map_nil]; split <;> rfl
  | cons entry rest inductionHypothesis =>
      rw [List.map_cons, Entries.last?_cons, inductionHypothesis, Entries.last?_cons]
      by_cases same : other = place
      · simp [same]
      · simp [same]

/-- A change writes in no place but its own. -/
theorem Change.last?_writes_of_ne {change : Change} (apart : place ≠ change.place) (key : String) :
    Entries.last? (place, key) (change.writes reader) = none := by
  cases brought : change.texts reader with
  | error failure => rw [writes_of_error brought]; rfl
  | ok texts => rw [writes_of_ok brought, last?_at, if_neg apart]

/-- A change binds what it writes, the last text of a key in the end. -/
theorem lookup_perform (catalog : Catalog) (change : Change) (place : TablePlace) (key : String) :
    ((catalog.perform reader change).tableAt place).lookup key =
      (Entries.last? (place, key) (change.writes reader)).or ((catalog.tableAt place).lookup key) := by
  cases brought : change.texts reader with
  | error failure =>
      rw [perform_of_error brought, Change.writes_of_error brought]
      rfl
  | ok texts =>
      rw [perform_of_ok brought, tableAt_addAll, Change.writes_of_ok brought]
      by_cases same : place = change.place
      · rw [if_pos same, Entries.lookup_putAll,
          Entries.last?_eq_lookup (Entries.nodup_keys_ofPairs texts), Entries.lookup_ofPairs,
          last?_at, if_pos same, same]
      · rw [if_neg same, last?_at, if_neg same, Option.none_or]

/-- What is found after a history is what was written last. -/
theorem lookup_after (history : List Change) (place : TablePlace) (key : String) :
    ((after reader history).tableAt place).lookup key =
      Entries.last? (place, key) (writesOf reader history) := by
  induction history using List.reverseRecOn with
  | nil => rfl
  | append_singleton earlier change inductionHypothesis =>
      rw [after_concat, lookup_perform, inductionHypothesis, writesOf_concat, Entries.last?_append]

/-! ## Distinct places and keys -/

/-- Whether no place has two tables and no key of a table two texts. -/
structure IsKeyed (catalog : Catalog) : Prop where
  places : (catalog.tables.map Prod.fst).Nodup
  keys : ∀ place table, (place, table) ∈ catalog.tables → (table.map Prod.fst).Nodup

/-- The table in any place has distinct keys, also where there is none. -/
theorem IsKeyed.keys_tableAt (isKeyed : catalog.IsKeyed) (place : TablePlace) :
    ((catalog.tableAt place).map Prod.fst).Nodup := by
  rw [tableAt]
  cases found : catalog.tables.lookup place with
  | none => exact .nil
  | some table =>
      exact isKeyed.keys place table ((Entries.lookup_eq_some_iff_mem isKeyed.places).mp found)

/-- Adding texts keeps places and keys distinct. -/
theorem IsKeyed.addAll (isKeyed : catalog.IsKeyed) (place : TablePlace) (texts : Table) :
    (catalog.addAll place texts).IsKeyed where
  places := Entries.nodup_keys_put isKeyed.places
  keys other table member := by
    have found : (catalog.addAll place texts).tables.lookup other = some table :=
      (Entries.lookup_eq_some_iff_mem (Entries.nodup_keys_put isKeyed.places)).mpr member
    have held : (catalog.addAll place texts).tableAt other = table := by
      rw [tableAt, found, Option.getD_some]
    rw [← held, tableAt_addAll]
    split
    case isTrue => exact Entries.nodup_keys_putAll (isKeyed.keys_tableAt place)
    case isFalse => exact isKeyed.keys_tableAt other

/-- Places and keys are distinct after any history. -/
theorem isKeyed_after (history : List Change) : (after reader history).IsKeyed := by
  induction history using List.reverseRecOn with
  | nil => exact ⟨.nil, by simp [after, empty]⟩
  | append_singleton earlier change inductionHypothesis =>
      rw [after_concat]
      cases brought : change.texts reader with
      | error failure => rwa [perform_of_error brought]
      | ok texts =>
          rw [perform_of_ok brought]
          exact inductionHypothesis.addAll _ _

/-- All texts of a catalog, by place and key. -/
def entries (catalog : Catalog) : List ((TablePlace × String) × String) :=
  catalog.tables.flatMap fun (place, table) => table.map fun (key, text) => ((place, key), text)

/-- The size counts the texts of all tables. -/
theorem size_eq_length (catalog : Catalog) : catalog.size = catalog.entries.length := by
  have counted (tables : List (TablePlace × Table)) (start : Nat) :
      tables.foldl (fun count (_, table) => count + table.length) start =
        start + (Catalog.mk tables).entries.length := by
    induction tables generalizing start with
    | nil => rfl
    | cons entry rest inductionHypothesis =>
        rw [List.foldl_cons, inductionHypothesis]
        simp only [entries, List.flatMap_cons, List.length_append, List.length_map]
        omega
  rw [size, counted, Nat.zero_add]

/-- All texts are listed table by table, under the place and the key of each. -/
theorem map_fst_entries (catalog : Catalog) :
    catalog.entries.map Prod.fst =
      catalog.tables.flatMap fun (place, table) => (table.map Prod.fst).map (place, ·) := by
  simp [entries, List.map_flatMap, Function.comp_def]

/-- A place and a key are listed exactly where a text is found for them. -/
theorem IsKeyed.mem_keys_entries (isKeyed : catalog.IsKeyed) :
    (place, key) ∈ catalog.entries.map Prod.fst ↔
      ((catalog.tableAt place).lookup key).isSome = true := by
  rw [map_fst_entries, List.mem_flatMap, Entries.isSome_lookup_iff, tableAt]
  constructor
  · rintro ⟨⟨other, table⟩, member, isKey⟩
    obtain ⟨same, isKey, ⟨⟩⟩ := List.mem_map.mp isKey
    rw [(Entries.lookup_eq_some_iff_mem isKeyed.places).mpr member]
    exact isKey
  · intro isKey
    cases found : catalog.tables.lookup place with
    | none => simp [found] at isKey
    | some table =>
        rw [found] at isKey
        exact ⟨(place, table), (Entries.lookup_eq_some_iff_mem isKeyed.places).mp found,
          List.mem_map_of_mem isKey⟩

/-- No place and key are listed twice. -/
theorem IsKeyed.nodup_keys_entries (isKeyed : catalog.IsKeyed) :
    (catalog.entries.map Prod.fst).Nodup := by
  rw [map_fst_entries, List.nodup_flatMap]
  constructor
  · rintro ⟨place, table⟩ member
    exact (isKeyed.keys place table member).map fun _ _ same => (Prod.mk.inj same).2
  · refine (List.pairwise_map.mp isKeyed.places).imp fun apart => ?_
    intro one inFirst inSecond
    obtain ⟨_, -, rfl⟩ := List.mem_map.mp inFirst
    obtain ⟨_, -, same⟩ := List.mem_map.mp inSecond
    exact apart (Prod.mk.inj same).1.symm

/-- A catalog has as many texts as there are places and keys that were written. -/
theorem size_after (history : List Change) :
    (after reader history).size = ((writesOf reader history).map Prod.fst).toFinset.card := by
  rw [size_eq_length]
  refine Entries.length_eq_card (isKeyed_after history).nodup_keys_entries fun ⟨place, key⟩ => ?_
  rw [(isKeyed_after history).mem_keys_entries, lookup_after, Entries.isSome_last?_iff]

/-! ## Tables -/

/-- A table comes into being where a change brings texts, were it only an empty list of them. -/
theorem mem_places_after (history : List Change) (place : TablePlace) :
    place ∈ (after reader history).tables.map Prod.fst ↔
      ∃ change ∈ history, (change.texts reader).isOk = true ∧ change.place = place := by
  induction history using List.reverseRecOn with
  | nil => simp [after, empty]
  | append_singleton earlier change inductionHypothesis =>
      simp only [List.mem_append, List.mem_singleton, or_and_right, exists_or, exists_eq_left]
      rw [after_concat, ← inductionHypothesis]
      cases brought : change.texts reader with
      | error failure => simp [perform_of_error brought, Except.isOk, Except.toBool]
      | ok texts =>
          rw [perform_of_ok brought, addAll, Entries.mem_keys_put]
          simp [Except.isOk, Except.toBool, or_comm, eq_comm]

/-- A scope lists a name exactly if it has a table of that name. -/
theorem mem_tableNames_iff {scope : Option String} {name : String} :
    name ∈ catalog.tableNames scope ↔
      ⟨scope.getD TablePlace.defaultScope, name⟩ ∈ catalog.tables.map Prod.fst := by
  rw [tableNames, List.mem_mergeSort, List.mem_filterMap, List.mem_map]
  constructor
  · rintro ⟨⟨⟨other, table⟩, texts⟩, member, named⟩
    obtain ⟨rfl, ⟨⟩⟩ := Option.ite_none_right_eq_some.mp named
    exact ⟨_, member, rfl⟩
  · rintro ⟨⟨place, texts⟩, member, rfl⟩
    exact ⟨_, member, if_pos rfl⟩

/-- A scope lists each of its tables once. -/
theorem IsKeyed.nodup_tableNames (isKeyed : catalog.IsKeyed) (scope : Option String) :
    (catalog.tableNames scope).Nodup := by
  rw [tableNames, (List.mergeSort_perm _ _).nodup_iff]
  refine List.pairwise_filterMap.mpr ((List.pairwise_map.mp isKeyed.places).imp ?_)
  intro ⟨⟨oneScope, one⟩, _⟩ ⟨⟨otherScope, other⟩, _⟩ apart name isOne _ isOther same
  subst same
  obtain ⟨rfl, ⟨⟩⟩ := Option.ite_none_right_eq_some.mp isOne
  obtain ⟨rfl, ⟨⟩⟩ := Option.ite_none_right_eq_some.mp isOther
  exact apart rfl

/-- Names of tables are listed in ascending order, each once. -/
theorem IsKeyed.pairwise_tableNames (isKeyed : catalog.IsKeyed) (scope : Option String) :
    (catalog.tableNames scope).Pairwise (· < ·) := by
  have ascending : (catalog.tableNames scope).Pairwise (· ≤ ·) := by
    refine (List.pairwise_mergeSort ?trans ?total _).imp of_decide_eq_true
    case trans =>
      intro one other third first second
      exact decide_eq_true ((of_decide_eq_true first).trans (of_decide_eq_true second))
    case total =>
      intro one other
      simpa using le_total one other
  exact (ascending.and (isKeyed.nodup_tableNames scope)).imp fun ⟨atMost, apart⟩ =>
    lt_of_le_of_ne atMost apart

/-! ## The promises of a catalog -/

/-- What a catalog promises after a history, with a reader of documents. -/
structure KeepsTexts (reader : TableReader) (history : List Change) : Prop where
  /-- A key finds the text that was last written for it in the place. -/
  lookup : ∀ key table scope, (after reader history).lookup key table scope =
    Entries.last? (⟨scope.getD "main", table.getD "Localizable"⟩, key) (writesOf reader history)
  /-- There are as many texts as places and keys that were ever written. -/
  size : (after reader history).size = ((writesOf reader history).map Prod.fst).toFinset.card
  /-- A scope lists the tables that a change brought texts for. -/
  tables : ∀ scope name, name ∈ (after reader history).tableNames scope ↔
    ∃ change ∈ history, (change.texts reader).isOk = true ∧
      change.place = ⟨scope.getD "main", name⟩
  ascending : ∀ scope, ((after reader history).tableNames scope).Pairwise (· < ·)
  /-- A change that has texts is carried out, and a load answers with the number of their keys. -/
  succeeds : ∀ (change : Change) texts, change.texts reader = .ok texts →
    change.carryOut reader (after reader history) =
      .ok (after reader (history ++ [change]), change.count? texts)
  /-- A change that has none fails for the same reason, and the catalog stays as it is. -/
  fails : ∀ (change : Change) failure, change.texts reader = .error failure →
    change.carryOut reader (after reader history) = .error failure ∧
      after reader (history ++ [change]) = after reader history
  /-- What is found in other places stays the same. -/
  elsewhere : ∀ (change : Change) key table scope,
    change.place ≠ ⟨scope.getD "main", table.getD "Localizable"⟩ →
      (after reader (history ++ [change])).lookup key table scope =
        (after reader history).lookup key table scope

/-- A catalog keeps its promises after any history, whatever its reader makes of documents. -/
theorem keepsTexts (reader : TableReader) (history : List Change) :
    KeepsTexts reader history where
  lookup key table scope := lookup_after history _ key
  size := size_after history
  tables scope name := mem_tableNames_iff.trans (mem_places_after history _)
  ascending := (isKeyed_after history).pairwise_tableNames
  succeeds change texts brings := by
    rw [after_concat, perform_of_ok brings, Change.carryOut_eq, brings]
    rfl
  fails change failure lacks := by
    rw [after_concat, perform_of_error lacks, Change.carryOut_eq, lacks]
    exact ⟨rfl, rfl⟩
  elsewhere change key table scope apart := by
    rw [after_concat]
    have unwritten :
        Entries.last? (TablePlace.ofNames table scope, key) (change.writes reader) = none :=
      Change.last?_writes_of_ne apart.symm key
    refine (lookup_perform (after reader history) change (.ofNames table scope) key).trans ?_
    rw [unwritten, Option.none_or]
    rfl

/-- With the reader of YAML, a mapping is loaded over a text of the default place under its two
names, a sequence is refused, a file is missing, and another scope notices nothing. -/
theorem keepsTexts_yaml :
    let history : List Change :=
      [.insert none none "k" "a", .insert none (some "app") "k" "b"]
    let mapping : Change := .loadYaml "k: c\nä: d" (some "Localizable") (some "main")
    let sequence : Change := .loadYaml "- k" none none
    let missing : Change := .loadFile "app.yaml" (.error .missing) none (some "app")
    let catalog := after Yaml.readTexts? (history ++ [mapping])
    mapping.carryOut Yaml.readTexts? (after Yaml.readTexts? history) = .ok (catalog, some 2) ∧
      catalog.lookup "k" none none = some "c" ∧
      catalog.lookup "k" none (some "app") = some "b" ∧ catalog.size = 3 ∧
      sequence.carryOut Yaml.readTexts? catalog = .error .malformedYaml ∧
      missing.carryOut Yaml.readTexts? catalog =
        .error (.unreadableTable "app.yaml" .missing) ∧
      after Yaml.readTexts? (history ++ [mapping] ++ [missing]) = catalog := by
  intro history mapping sequence missing catalog
  have read : Yaml.readTexts? "k: c\nä: d" = some [("k", "c"), ("ä", "d")] := by decide +kernel
  have refused : Yaml.readTexts? "- k" = none := by decide +kernel
  have brings : mapping.texts Yaml.readTexts? = .ok [("k", "c"), ("ä", "d")] := by
    rw [Change.texts, read]
  have isSequence : sequence.texts Yaml.readTexts? = .error .malformedYaml := by
    rw [Change.texts, refused]
  have isMissing : missing.texts Yaml.readTexts? =
      .error (.unreadableTable "app.yaml" .missing) := rfl
  have writes : writesOf Yaml.readTexts? (history ++ [mapping]) =
      [((⟨"main", "Localizable"⟩, "k"), "a"), ((⟨"app", "Localizable"⟩, "k"), "b"),
        ((⟨"main", "Localizable"⟩, "k"), "c"), ((⟨"main", "Localizable"⟩, "ä"), "d")] := by
    rw [writesOf_concat, Change.writes_of_ok brings]
    rfl
  have before := keepsTexts Yaml.readTexts? history
  have behind := keepsTexts Yaml.readTexts? (history ++ [mapping])
  have loads := before.succeeds mapping _ brings
  have failed := behind.fails missing _ isMissing
  refine ⟨loads, ?_, ?_, ?_, (behind.fails sequence _ isSequence).1, failed.1, failed.2⟩
  · rw [behind.lookup, writes]
    decide
  · exact before.elsewhere mapping "k" none (some "app") (by decide)
  · rw [behind.size, writes]
    decide

end Catalog

end MessageTemplate

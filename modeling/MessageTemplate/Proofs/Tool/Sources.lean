import Mathlib
import MessageTemplate.Proofs.Bindings.Arrivals
import MessageTemplate.Proofs.Json.Members
import MessageTemplate.Proofs.Tool.Settings
import MessageTemplate.Tool.Variables

/-! # Where the variables of a request come from

A request has variables from a file, from positional values, from assignments and from the settings.
`mergesSources` says which of them each name and each position finds in the end, for all that these
sources can hold, and when a request is refused instead.

What a file holds and what a text assigns are told apart from how they are written: they are a
`Content` and an `Assignment`, and `loadBindings_eq_ok_iff` reduces a request to them. -/

namespace MessageTemplate.Tool

open MessageTemplate.Addition (inserts fills)

/-! ## Assignments -/

/-- An assignment as it is written. Its name ends at the first equals sign. -/
structure Assignment where
  name : String
  spelled : String
  noSign : '=' ∉ name.toList

namespace Assignment

/-- The text of an assignment. -/
def text (assignment : Assignment) : String :=
  assignment.name ++ "=" ++ assignment.spelled

/-- The name and the value that is assigned to it. -/
def pair (assignment : Assignment) : String × Value :=
  (assignment.name, spelledValue assignment.spelled)

/-- The last value that assignments give a name. -/
def last? (name : String) (assignments : List Assignment) : Option Value :=
  Entries.last? name (assignments.map pair)

variable {text : String} {texts : List String}

/-- A text is an assignment if it has an equals sign. -/
theorem exists_text_iff :
    (∃ assignment : Assignment, assignment.text = text) ↔ '=' ∈ text.toList := by
  constructor
  · rintro ⟨assignment, rfl⟩
    simp [Assignment.text]
  · intro hasSign
    obtain ⟨name, spelled, isText, noSign⟩ := List.eq_append_cons_of_mem hasSign
    refine ⟨⟨String.ofList name, String.ofList spelled, by simpa using noSign⟩, ?_⟩
    apply String.toList_inj.mp
    simp [Assignment.text, isText]

/-- Texts are assignments exactly if each has a sign in it. -/
theorem exists_map_text_iff :
    (∃ assignments : List Assignment, assignments.map Assignment.text = texts) ↔
      ∀ text ∈ texts, '=' ∈ text.toList := by
  induction texts with
  | nil => exact ⟨fun _ => nofun, fun _ => ⟨[], rfl⟩⟩
  | cons text rest inductionHypothesis =>
      rw [List.forall_mem_cons, ← inductionHypothesis, ← exists_text_iff]
      constructor
      · rintro ⟨assignments, isMap⟩
        obtain ⟨first, others, -, isFirst, isRest⟩ := List.map_eq_cons_iff.mp isMap
        exact ⟨⟨first, isFirst⟩, others, isRest⟩
      · rintro ⟨⟨first, rfl⟩, others, rfl⟩
        exact ⟨first :: others, rfl⟩

end Assignment

/-- An assignment is read as its name and its value. -/
theorem readAssignment_text (assignment : Assignment) :
    readAssignment assignment.text = .ok assignment.pair := by
  have isText : assignment.text.toList =
      assignment.name.toList ++ '=' :: assignment.spelled.toList := by
    simp [Assignment.text]
  have passed : ∀ character ∈ assignment.name.toList, (character != '=') = true :=
    fun character member => bne_iff_ne.mpr fun same => assignment.noSign (same ▸ member)
  have before : assignment.text.toList.takeWhile (· != '=') = assignment.name.toList := by
    rw [isText, List.takeWhile_append_of_pos passed]
    simp
  have behind : assignment.text.toList.dropWhile (· != '=') =
      '=' :: assignment.spelled.toList := by
    rw [isText, List.dropWhile_append_of_pos passed]
    simp
  simp only [readAssignment, before, behind, String.ofList_toList]
  rfl

/-- A text without a sign is refused by itself. -/
theorem readAssignment_of_noSign {text : String} (noSign : '=' ∉ text.toList) :
    readAssignment text = .error (.notAssignment text) := by
  have behind : text.toList.dropWhile (· != '=') = [] :=
    List.dropWhile_eq_nil_iff.mpr fun character member =>
      bne_iff_ne.mpr fun same => noSign (same ▸ member)
  simp only [readAssignment, behind]

/-- Assignments are read in turn, the last value of a name counts. -/
theorem readAssignments_map_text (assignments : List Assignment) :
    readAssignments (assignments.map Assignment.text) =
      .ok (Bindings.empty.insertAll (assignments.map Assignment.pair)) := by
  have read : (assignments.map Assignment.text).mapM readAssignment =
      .ok (assignments.map Assignment.pair) := by
    induction assignments with
    | nil => rfl
    | cons assignment rest inductionHypothesis =>
        rw [List.map_cons, List.mapM_cons, readAssignment_text, inductionHypothesis]
        rfl
  rw [readAssignments, read]
  rfl

/-- Assignments are refused for the first text without an equals sign. -/
theorem readAssignments_of_noSign {text : String} {texts : List String} (member : text ∈ texts)
    (noSign : '=' ∉ text.toList) : ∃ failure, readAssignments texts = .error failure := by
  have refused : ∃ failure, texts.mapM readAssignment = .error failure := by
    induction texts with
    | nil => cases member
    | cons first rest inductionHypothesis =>
        rw [List.mapM_cons]
        cases isRead : readAssignment first with
        | error failure => exact ⟨failure, rfl⟩
        | ok pair =>
            rcases List.mem_cons.mp member with rfl | later
            · rw [readAssignment_of_noSign noSign] at isRead
              cases isRead
            · obtain ⟨failure, refused⟩ := inductionHypothesis later
              exact ⟨failure, by rw [refused]; rfl⟩
  obtain ⟨failure, refused⟩ := refused
  exact ⟨failure, by rw [readAssignments, refused]; rfl⟩

/-! ## The variables file -/

/-- The variables of a file: those of an object have names, those of an array have none. -/
inductive Content where
  | named (members : List (String × Json))
  | listed (items : List Json)

namespace Content

/-- No variables. -/
def nothing : Content := listed []

/-- The document that holds variables. -/
def document : Content → Json
  | named members => .object members
  | listed items => .array items

/-- The variables as bindings, in their order. -/
def entries : Content → List Binding
  | named members => members.map fun member => ⟨some member.1, Value.ofJson member.2⟩
  | listed items => items.map fun item => ⟨none, Value.ofJson item⟩

/-- The names of variables. -/
def names : Content → List String
  | named members => members.map Prod.fst
  | listed _ => []

/-- The value of a name. -/
def value? (name : String) : Content → Option Value
  | named members => (members.lookup name).map Value.ofJson
  | listed _ => none

end Content

/-- Whether these are the variables in a variables file. Without a file there are none. -/
inductive Holds (files : FileAccess Id) : Option String → Content → Prop where
  | nothing : Holds files none .nothing
  | file {path text : String} {content : Content} (isText : files.read path = .ok text)
      (isDocument : readDocument path text = .ok content.document) :
      Holds files (some path) content

variable {files : FileAccess Id} {path text : String} {document : Json} {content : Content}

/-- Whatever the form of a file, the members of its object are in order. -/
theorem isOrdered_readDocument (isRead : readDocument path text = .ok document) :
    document.IsOrdered := by
  rw [readDocument] at isRead
  split at isRead
  · split at isRead
    case h_1 found =>
      cases isRead
      exact Yaml.isOrdered_readJson? found
    case h_2 => cases isRead
  · split at isRead
    case h_1 found =>
      cases isRead
      exact Json.isOrdered_read? found
    case h_2 => cases isRead

/-- A document whose members are in order is bound as what it holds. -/
theorem ofJson?_document (isOrdered : content.document.IsOrdered) :
    Bindings.ofJson? content.document = some ⟨content.entries, []⟩ := by
  cases content with
  | named members => exact Bindings.ofJson?_object (isOrdered members rfl).nodup
  | listed items =>
      clear isOrdered
      have pushed (held : Bindings) : items.foldl (fun held item => held.push (Value.ofJson item))
          held = ⟨held.entries ++ (Content.listed items).entries, held.pinned⟩ := by
        induction items generalizing held with
        | nil => simp [Content.entries]
        | cons item rest inductionHypothesis =>
            rw [List.foldl_cons, inductionHypothesis]
            simp [Bindings.push, Bindings.append, Content.entries]
      rw [Content.document, Bindings.ofJson?, pushed]
      rfl

/-- Only objects and arrays hold variables. -/
theorem exists_document_of_ofJson? {bindings : Bindings}
    (isFound : Bindings.ofJson? document = some bindings) :
    ∃ content : Content, content.document = document := by
  cases document with
  | object members => exact ⟨.named members, rfl⟩
  | array items => exact ⟨.listed items, rfl⟩
  | _ => cases isFound

/-- A file with such a document gives what it holds. -/
theorem readVariables_of_document (isDocument : readDocument path text = .ok content.document) :
    readVariables path text = .ok ⟨content.entries, []⟩ := by
  have found := ofJson?_document (isOrdered_readDocument isDocument)
  rw [readVariables, isDocument]
  simp only [Except.bind, bind, found]
  rfl

/-- A text holds the variables of an object or an array, or it is refused. -/
theorem readVariables_eq_ok_iff {bindings : Bindings} :
    readVariables path text = .ok bindings ↔
      ∃ content : Content, readDocument path text = .ok content.document ∧
        bindings = ⟨content.entries, []⟩ := by
  constructor
  · intro isRead
    cases isDocument : readDocument path text with
    | error failure =>
        rw [readVariables, isDocument] at isRead
        cases isRead
    | ok document =>
        cases isFound : Bindings.ofJson? document with
        | none =>
            rw [readVariables, isDocument] at isRead
            simp only [Except.bind, bind, isFound] at isRead
            cases isRead
        | some found =>
            obtain ⟨content, rfl⟩ := exists_document_of_ofJson? isFound
            cases (readVariables_of_document isDocument).symm.trans isRead
            exact ⟨content, rfl, rfl⟩
  · rintro ⟨content, isDocument, rfl⟩
    exact readVariables_of_document isDocument

variable {request : ExpandRequest} {settings : Settings} {bindings : Bindings}

/-- The variables of a request are those that its variables file holds. -/
theorem loadVariables_eq_ok_iff :
    loadVariables files request = .ok bindings ↔
      ∃ content, Holds files request.variablesFile content ∧
        bindings = ⟨content.entries, []⟩ := by
  rw [loadVariables]
  cases request.variablesFile with
  | none =>
      constructor
      · rintro ⟨rfl⟩
        exact ⟨.nothing, .nothing, rfl⟩
      · rintro ⟨content, holds, rfl⟩
        cases holds
        rfl
  | some path =>
      cases isText : files.read path with
      | error problem =>
          simp only [isText]
          refine ⟨nofun, ?_⟩
          rintro ⟨_, holds, -⟩
          cases holds with
          | file found _ => cases isText.symm.trans found
      | ok text =>
          simp only [isText]
          refine readVariables_eq_ok_iff.trans (exists_congr fun content => and_congr_left' ?_)
          constructor
          · exact fun isDocument => .file isText isDocument
          · intro holds
            cases holds with
            | file found isDocument =>
                cases isText.symm.trans found
                exact isDocument

/-! ## Merging -/

/-- The values of the settings, for names that nothing else binds. -/
def defaults (settings : Settings) : List (String × Value) :=
  settings.templateVars.map fun default => (default.1, spelledValue default.2)

/-- The bindings before anything is assigned. -/
def unassigned (request : ExpandRequest) (content : Content) : Bindings where
  entries := content.entries ++ request.positional.map fun text => ⟨none, spelledValue text⟩

/-- The bindings that the sources of a request make up in turn. -/
def merged (request : ExpandRequest) (settings : Settings) (content : Content)
    (assignments : List Assignment) : Bindings :=
  (unassigned request content).addAll
    (inserts (assignments.map Assignment.pair) ++ fills (defaults settings))

variable {assignments : List Assignment}

/-- The sources are merged where all assignments can be read. -/
theorem collect_of_assignments (isText : assignments.map Assignment.text = request.assignments) :
    collect request settings ⟨content.entries, []⟩ =
      .ok (merged request settings content assignments) := by
  have pushed (texts : List String) (held : Bindings) :
      texts.foldl (fun held text => held.push (spelledValue text)) held =
        ⟨held.entries ++ texts.map fun text => ⟨none, spelledValue text⟩, held.pinned⟩ := by
    induction texts generalizing held with
    | nil => simp
    | cons text rest inductionHypothesis =>
        rw [List.foldl_cons, inductionHypothesis]
        simp [Bindings.push, Bindings.append]
  have filled (held : Bindings) : settings.templateVars.foldl
      (fun held default => held.insertNew default.1 (spelledValue default.2)) held =
        held.addAll (fills (defaults settings)) := by
    rw [Bindings.addAll, fills, defaults, List.map_map, List.foldl_map]
    rfl
  rw [collect, ← isText, readAssignments_map_text, pushed]
  show Except.ok _ = _
  rw [filled, Bindings.insertAll_named_insertAll, Bindings.insertAll_eq_addAll,
    ← Bindings.addAll_append]
  rfl

/-- The sources of a request are merged unless its file holds no variables or one of its texts has
no equals sign. -/
theorem loadBindings_eq_ok_iff :
    loadBindings files request settings = .ok bindings ↔
      ∃ content assignments, Holds files request.variablesFile content ∧
        assignments.map Assignment.text = request.assignments ∧
        bindings = merged request settings content assignments := by
  have loaded : loadBindings files request settings =
      (loadVariables files request).run.bind (collect request settings) := rfl
  rw [loaded]
  constructor
  · intro isLoaded
    cases isFile : (loadVariables files request).run with
    | error failure =>
        rw [isFile] at isLoaded
        cases isLoaded
    | ok fromFile =>
        obtain ⟨content, holds, rfl⟩ := loadVariables_eq_ok_iff.mp isFile
        rw [isFile] at isLoaded
        have haveSigns : ∀ text ∈ request.assignments, '=' ∈ text.toList := by
          intro text member
          by_contra noSign
          obtain ⟨failure, isRefused⟩ := readAssignments_of_noSign member noSign
          have notCollected : collect request settings ⟨content.entries, []⟩ = .error failure := by
            rw [collect, isRefused]
            rfl
          cases notCollected.symm.trans isLoaded
        obtain ⟨assignments, isText⟩ := Assignment.exists_map_text_iff.mpr haveSigns
        refine ⟨content, assignments, holds, isText, ?_⟩
        cases (collect_of_assignments isText).symm.trans isLoaded
        rfl
  · rintro ⟨content, assignments, holds, isText, rfl⟩
    have isFile : (loadVariables files request).run = .ok ⟨content.entries, []⟩ :=
      loadVariables_eq_ok_iff.mpr ⟨content, holds, rfl⟩
    rw [isFile]
    exact collect_of_assignments isText

/-- Bindings are loaded exactly if the file holds a document and every assignment has a sign. -/
theorem exists_loadBindings_iff :
    (∃ bindings, loadBindings files request settings = .ok bindings) ↔
      (∃ content, Holds files request.variablesFile content) ∧
        ∀ text ∈ request.assignments, '=' ∈ text.toList := by
  rw [← Assignment.exists_map_text_iff]
  simp only [loadBindings_eq_ok_iff]
  constructor
  · rintro ⟨_, content, assignments, holds, isText, -⟩
    exact ⟨⟨content, holds⟩, assignments, isText⟩
  · rintro ⟨⟨content, holds⟩, assignments, isText⟩
    exact ⟨_, content, assignments, holds, isText, rfl⟩

/-- A request that is not carried out is refused. -/
theorem exists_failure_iff :
    (∃ failure, loadBindings files request settings = .error failure) ↔
      ¬∃ bindings, loadBindings files request settings = .ok bindings := by
  cases result : (loadBindings files request settings).run with
  | error failure =>
      refine ⟨fun _ => ?_, fun _ => ⟨failure, result⟩⟩
      rintro ⟨bindings, isLoaded⟩
      cases result.symm.trans isLoaded
  | ok bindings =>
      refine ⟨?_, fun notLoaded => absurd ⟨bindings, result⟩ notLoaded⟩
      rintro ⟨failure, isRefused⟩
      cases result.symm.trans isRefused

/-! ## Names and positions after merging -/

/-- An entry with the last value that assignments give its name, or else with its own. -/
def reassigned (assignments : List Assignment) (entry : Binding) : Binding :=
  { entry with
    value := (entry.name.bind fun name => Assignment.last? name assignments).getD entry.value }

/-- The entries of all sources in the order of their positions: the file's, with what is assigned to
them; those without a name; names that are assigned and not in the file; and the settings' values
for names that are bound nowhere else. -/
def mergedEntries (request : ExpandRequest) (settings : Settings) (content : Content)
    (assignments : List Assignment) : List Binding :=
  content.entries.map (reassigned assignments) ++
    request.positional.map (fun text => ⟨none, spelledValue text⟩) ++
    ((assignments.map Assignment.name).eraseDups.removeAll content.names).filterMap (fun name =>
      (Assignment.last? name assignments).map (Binding.mk (some name))) ++
    ((defaults settings).filter fun default =>
      default.1 ∉ content.names ∧ default.1 ∉ assignments.map Assignment.name).map fun default =>
        ⟨some default.1, default.2⟩

/-- Before any assignment, the names are those of the file. -/
theorem names_unassigned (request : ExpandRequest) (content : Content) :
    (unassigned request content).names = content.names := by
  have unnamed : (request.positional.map fun text =>
      (⟨none, spelledValue text⟩ : Binding)).filterMap Binding.name = [] := by
    simp
  rw [Bindings.names, unassigned, List.filterMap_append, unnamed, List.append_nil]
  cases content with
  | named members => simp [Content.entries, Content.names, List.filterMap_map]
  | listed items => simp [Content.entries, Content.names, List.filterMap_map]

/-- Before any assignment, a name has its value of the file. -/
theorem get?_unassigned (request : ExpandRequest) (content : Content) (name : String) :
    (unassigned request content).get? name = content.value? name := by
  have unnamed {α : Type} (value : α → Value) (items : List α) :
      (items.map fun item => (⟨none, value item⟩ : Binding)).find? (Bindings.hasName name) =
        none := by
    refine List.find?_eq_none.mpr fun entry member => ?_
    obtain ⟨item, -, rfl⟩ := List.mem_map.mp member
    exact Bool.false_ne_true
  rw [Bindings.get?, unassigned, List.find?_append, unnamed, Option.or_none]
  cases content with
  | named members =>
      rw [Content.entries, Content.value?]
      induction members with
      | nil => rfl
      | cons member rest inductionHypothesis =>
          obtain ⟨first, held⟩ := member
          by_cases isFirst : name = first
          · subst isFirst
            simp [Bindings.hasName]
          · have passed : Bindings.hasName name ⟨some first, Value.ofJson held⟩ = false := by
              simpa [Bindings.hasName] using Ne.symm isFirst
            rw [List.map_cons, List.find?_cons, passed, List.lookup_cons,
              beq_eq_false_iff_ne.mpr isFirst]
            exact inductionHypothesis
  | listed items =>
      rw [Content.entries, unnamed]
      rfl

/-- The last assignment of a name counts before the file, and the file before the settings. -/
theorem get?_merged (name : String) :
    (merged request settings content assignments).get? name =
      (Assignment.last? name assignments).or
        ((content.value? name).or ((defaults settings).lookup name)) := by
  rw [merged, Bindings.get?_addAll, get?_unassigned, Addition.lastInsert?_inserts,
    Addition.firstDefault?_fills]
  rfl

/-- What is assigned moves none of the entries before it, nor those that have no name. -/
theorem map_reassigned_unassigned :
    (unassigned request content).entries.map (reassigned assignments) =
      content.entries.map (reassigned assignments) ++
        request.positional.map fun text => ⟨none, spelledValue text⟩ := by
  rw [unassigned, List.map_append, List.map_map]
  rfl

/-- Assignments replace the values of entries that stand already; defaults replace none. -/
theorem settle_eq_reassigned (assignments : List Assignment) (settings : Settings) :
    Addition.settle (inserts (assignments.map Assignment.pair) ++ fills (defaults settings)) =
      reassigned assignments := by
  funext entry
  simp only [Addition.settle, Addition.lastInsert?_inserts]
  rfl

/-- The merged entries in order, where the settings name each value once. -/
theorem entries_merged (once : settings.NamesOnce) :
    (merged request settings content assignments).entries =
      mergedEntries request settings content assignments := by
  have distinctNames : ((defaults settings).map Prod.fst).Nodup := by
    rw [defaults, List.map_map]
    exact once
  have names : (assignments.map Assignment.pair).map Prod.fst =
      assignments.map Assignment.name := by
    rw [List.map_map]
    rfl
  rw [merged, Bindings.entries_addAll _ (Addition.name?_of_mem _ _), settle_eq_reassigned,
    Addition.arrivals_inserts _ _ distinctNames, names_unassigned, names,
    map_reassigned_unassigned, mergedEntries, ← List.append_assoc]
  rfl

/-- A position finds its entry, as nothing is pinned. -/
theorem atPosition?_merged (position : Nat) :
    (merged request settings content assignments).atPosition? position =
      (merged request settings content assignments).entries[position]?.map Binding.value := by
  rw [Bindings.atPosition?_eq, Bindings.getElem?_arguments, merged, Bindings.pinned_addAll]
  rfl

/-! ## What merging promises -/

/-- What the bindings of a request hold, given what its file holds and what is assigned. -/
structure IsMerged (request : ExpandRequest) (settings : Settings) (content : Content)
    (assignments : List Assignment) (bindings : Bindings) : Prop where
  /-- A name finds the last value assigned to it, else that of the file, else its default. -/
  value : ∀ name, bindings.get? name = (Assignment.last? name assignments).or
    ((content.value? name).or ((defaults settings).lookup name))
  entries : bindings.entries = mergedEntries request settings content assignments
  position : ∀ position, bindings.atPosition? position =
    (mergedEntries request settings content assignments)[position]?.map Binding.value

/-- What the sources of a request promise. -/
structure MergesSources (files : FileAccess Id) (request : ExpandRequest) (settings : Settings) :
    Prop where
  /-- A request is refused where its file holds neither an object nor an array, or where one of its
  texts has no equals sign. -/
  refused : (∃ failure, loadBindings files request settings = .error failure) ↔
    (∀ content, ¬Holds files request.variablesFile content) ∨
      ∃ text ∈ request.assignments, '=' ∉ text.toList
  /-- A text assigns something if it has an equals sign, whatever else is in it. -/
  assigned : (∃ assignments : List Assignment,
    assignments.map Assignment.text = request.assignments) ↔
      ∀ text ∈ request.assignments, '=' ∈ text.toList
  /-- The members of an object come in the order of the bytes of their names. -/
  ordered : ∀ members, Holds files request.variablesFile (.named members) →
    Json.Ascend (members.map Prod.fst)
  /-- A request that is not refused loses nothing. -/
  merged : ∀ content assignments, Holds files request.variablesFile content →
    assignments.map Assignment.text = request.assignments →
      ∃ bindings, loadBindings files request settings = .ok bindings ∧
        IsMerged request settings content assignments bindings

/-- The sources of a request are merged by fixed rules, whatever they hold. Settings that are loaded
name each of their values once (`Settings.namesOnce_load`). -/
theorem mergesSources (files : FileAccess Id) (request : ExpandRequest) {settings : Settings}
    (once : settings.NamesOnce) : MergesSources files request settings where
  refused := by
    rw [exists_failure_iff, exists_loadBindings_iff, not_and_or]
    simp only [not_exists, not_forall, exists_prop]
  assigned := Assignment.exists_map_text_iff
  ordered members holds := by
    generalize request.variablesFile = named at holds
    cases holds with
    | file _ isDocument => exact isOrdered_readDocument isDocument members rfl
  merged content assignments holds isText := by
    refine ⟨_, loadBindings_eq_ok_iff.mpr ⟨content, assignments, holds, isText, rfl⟩, ?_⟩
    exact
      { value := get?_merged
        entries := entries_merged once
        position := fun position => by rw [atPosition?_merged, entries_merged once] }

/-- A name of the file that is assigned keeps its place, one that is assigned twice has its first
place and its last value, and a default for a name that is bound is left out. -/
theorem mergesSources_mixed :
    let files := (FileTree.ofFiles [("v.json", "\x7b\"b\": 1, \"a\": [2]\x7d")]).access
    let request : ExpandRequest := {
      variablesFile := some "v.json", positional := ["null"]
      assignments := ["d=1", "b=x=y", "c=true", "d="] }
    let settings : Settings := { templateVars := [("c", "0"), ("e", "-5")] }
    settings.NamesOnce ∧
      ∃ bindings, loadBindings files request settings = .ok bindings ∧
        bindings.entries = [⟨some "a", .string "[2]"⟩, ⟨some "b", .string "x=y"⟩, ⟨none, .null⟩,
          ⟨some "d", .string ""⟩, ⟨some "c", .bool true⟩, ⟨some "e", .int (-5)⟩] ∧
        bindings.get? "d" = some (.string "") ∧ bindings.atPosition? 5 = some (.int (-5)) := by
  intro files request settings
  have once : settings.NamesOnce := by
    show ["c", "e"].Nodup
    decide
  have isText : files.read "v.json" = .ok "\x7b\"b\": 1, \"a\": [2]\x7d" := by cbv
  have isDocument : readDocument "v.json" "\x7b\"b\": 1, \"a\": [2]\x7d" =
      .ok (Content.named [("a", .array [.integer 2]), ("b", .integer 1)]).document := by
    have isJson : isYamlPath "v.json" = false := by cbv
    have isRead : Json.read? "\x7b\"b\": 1, \"a\": [2]\x7d" =
        some (.object [("a", .array [.integer 2]), ("b", .integer 1)]) := by cbv
    rw [readDocument, isJson, isRead]
    rfl
  obtain ⟨bindings, isLoaded, isMerged⟩ := (mergesSources files request once).merged _
    [⟨"d", "1", by decide⟩, ⟨"b", "x=y", by decide⟩, ⟨"c", "true", by decide⟩, ⟨"d", "", by decide⟩]
    (.file isText isDocument) (by decide)
  have entries := isMerged.entries
  have value := isMerged.value "d"
  have position := isMerged.position 5
  refine ⟨once, bindings, isLoaded, entries.trans ?_, value.trans ?_, position.trans ?_⟩
  · cbv
  · cbv
  · cbv

end MessageTemplate.Tool

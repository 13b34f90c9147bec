import MessageTemplate.Proofs.Tool.Sources

/-! # The numbers of positional values

Positional values are numbered behind the variables of the file, and in front of all that is
assigned: `numbersPositional`. Their numbers start at zero only where there are no variables in a
file. -/

namespace MessageTemplate.Tool

variable {files : FileAccess Id} {request : ExpandRequest} {settings : Settings}
  {bindings : Bindings} {content : Content} {assignments : List Assignment}

/-- The entries before any assignment keep their positions, whatever is assigned. -/
theorem atPosition?_merged_of_unassigned {position : Nat} {entry : Binding}
    (stands : (unassigned request content).entries[position]? = some entry) :
    (merged request settings content assignments).atPosition? position =
      some (reassigned assignments entry).value := by
  rw [atPosition?_merged, merged, Bindings.getElem?_entries_addAll stands, Addition.foldl_revalue,
    settle_eq_reassigned]
  rfl

/-- How the positions of a request are numbered, given what its file holds. -/
structure NumbersPositional (request : ExpandRequest) (content : Content)
    (assignments : List Assignment) (bindings : Bindings) : Prop where
  /-- The file's variables come first, also those that are assigned to. -/
  file : ∀ (position : Nat) (entry : Binding), content.entries[position]? = some entry →
    bindings.resolve? (.position position) = some (reassigned assignments entry).value
  /-- Each positional value is as many positions further on as the file has variables. -/
  shifted : ∀ (index : Nat) (text : String), request.positional[index]? = some text →
    bindings.resolve? (.position (content.entries.length + index)) = some (spelledValue text)
  /-- Without variables in a file, positional values have the numbers they are given in. -/
  unshifted : content.entries = [] → ∀ (index : Nat) (text : String),
    request.positional[index]? = some text →
      bindings.resolve? (.position index) = some (spelledValue text)

/-- Where a request is not refused, the number of variables in its file is what is added to the
numbers of its positional values. -/
theorem numbersPositional (isLoaded : loadBindings files request settings = .ok bindings) :
    ∃ content assignments, Holds files request.variablesFile content ∧
      assignments.map Assignment.text = request.assignments ∧
      NumbersPositional request content assignments bindings := by
  obtain ⟨content, assignments, holds, isText, rfl⟩ := loadBindings_eq_ok_iff.mp isLoaded
  have shifted (index : Nat) (text : String) (given : request.positional[index]? = some text) :
      (merged request settings content assignments).resolve?
        (.position (content.entries.length + index)) = some (spelledValue text) := by
    have stands : (unassigned request content).entries[content.entries.length + index]? =
        some ⟨none, spelledValue text⟩ := by
      rw [unassigned, List.getElem?_append_right (Nat.le_add_right _ _), Nat.add_sub_cancel_left,
        List.getElem?_map, given]
      rfl
    exact atPosition?_merged_of_unassigned stands
  refine ⟨content, assignments, holds, isText, ?_, shifted, ?_⟩
  · intro position entry stands
    refine atPosition?_merged_of_unassigned ?_
    rw [unassigned, List.getElem?_append_left (List.getElem?_eq_some_iff.mp stands).1, stands]
  · intro noVariables index text given
    have position : content.entries.length + index = index := by
      rw [noVariables]
      exact Nat.zero_add index
    rw [← position]
    exact shifted index text given

/-- One variable in the file takes the number of the first positional value. -/
theorem numbersPositional_behind :
    let files := (FileTree.ofFiles [("v.json", "\x7b\"name\": \"Ada\"\x7d")]).access
    let request : ExpandRequest := { variablesFile := some "v.json", positional := ["7", "x"] }
    ∃ bindings, loadBindings files request {} = .ok bindings ∧
      bindings.resolve? (.position 0) = some (.string "Ada") ∧
      bindings.resolve? (.position 1) = some (.int 7) ∧
      bindings.resolve? (.position 2) = some (.string "x") := by
  intro files request
  have isText : files.read "v.json" = .ok "\x7b\"name\": \"Ada\"\x7d" := by cbv
  have isDocument : readDocument "v.json" "\x7b\"name\": \"Ada\"\x7d" =
      .ok (Content.named [("name", .string "Ada")]).document := by
    have isJson : isYamlPath "v.json" = false := by cbv
    have isRead : Json.read? "\x7b\"name\": \"Ada\"\x7d" =
        some (.object [("name", .string "Ada")]) := by cbv
    rw [readDocument, isJson, isRead]
    rfl
  have isLoaded : loadBindings files request {} =
      .ok (merged request {} (.named [("name", .string "Ada")]) []) :=
    loadBindings_eq_ok_iff.mpr ⟨_, [], .file isText isDocument, rfl, rfl⟩
  obtain ⟨content, assignments, holds, noAssignments, numbered⟩ := numbersPositional isLoaded
  obtain rfl : assignments = [] := List.map_eq_nil_iff.mp noAssignments
  obtain rfl : content = .named [("name", .string "Ada")] := by
    cases holds with
    | file found isFound =>
        cases isText.symm.trans found
        have same := isDocument.symm.trans isFound
        cases content <;> cases same
        rfl
  exact ⟨_, isLoaded, numbered.file 0 _ rfl, numbered.shifted 0 "7" rfl,
    numbered.shifted 1 "x" rfl⟩

end MessageTemplate.Tool

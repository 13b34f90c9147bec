import MessageTemplate.Operator.Basic

/-! # Logs

The sorts of events, and the result and the events of the ways in which logged results and steps are
put together. A log goes on behind a report that the program breaks off, and the program does not:
`Logged.unwound` is the log as far as the program comes. -/

namespace MessageTemplate

namespace Event

/-- Whether an event is a problem. -/
def isProblem : Event → Bool
  | problem _ => true
  | _ => false

/-- Whether an event is the reading of template text. -/
def isFragment : Event → Bool
  | fragment _ _ => true
  | _ => false

variable {depth : Nat} {text operator : String} {diagnostic : Diagnostic}

@[simp] theorem isProblem_problem : (problem diagnostic).isProblem = true := rfl

@[simp] theorem isProblem_fragment : (fragment depth text).isProblem = false := rfl

@[simp] theorem isProblem_called : (called depth operator).isProblem = false := rfl

@[simp] theorem isFragment_problem : (problem diagnostic).isFragment = false := rfl

@[simp] theorem isFragment_fragment : (fragment depth text).isFragment = true := rfl

@[simp] theorem isFragment_called : (called depth operator).isFragment = false := rfl

/-- Whether an event is the report that the program breaks off. -/
def isBreak : Event → Bool
  | problem diagnostic => diagnostic.problem == .refused .tooManyDigits
  | _ => false

end Event

/-- Whether a log holds no report that the program breaks off. -/
def IsUnbrokenLog (events : List Event) : Prop :=
  ∀ event ∈ events, event.isBreak = false

/-- There is no break in two logs exactly if there is none in either. -/
theorem isUnbrokenLog_append {earlier later : List Event} :
    IsUnbrokenLog (earlier ++ later) ↔ IsUnbrokenLog earlier ∧ IsUnbrokenLog later :=
  List.forall_mem_append

/-- To have no break is decided by going through the log. -/
theorem isUnbrokenLog_iff_any {events : List Event} :
    IsUnbrokenLog events ↔ events.any Event.isBreak = false := by
  simp [IsUnbrokenLog]

/-- Logged results agree when their results and their events do. -/
@[ext] theorem Logged.ext {left right : Logged α} (result : left.result = right.result)
    (events : left.events = right.events) : left = right := by
  cases left
  cases right
  cases result
  cases events
  rfl

namespace Logged

@[simp] theorem result_map (map : α → β) (logged : Logged α) :
    (map <$> logged).result = map logged.result := rfl

@[simp] theorem events_map (map : α → β) (logged : Logged α) :
    (map <$> logged).events = logged.events :=
  List.append_nil _

@[simp] theorem events_record (event : Event) : (record event).events = [event] := rfl

@[simp] theorem events_report (problem : Problem) :
    (report problem).events = [.problem ⟨problem, none⟩] := rfl

/-- A loop that records an event for each item logs these events. -/
theorem events_forIn_record (items : List α) (event : α → Event) :
    (forIn items PUnit.unit fun item _ => do
      record (event item)
      pure (ForInStep.yield PUnit.unit)).events = items.map event := by
  induction items with
  | nil => rfl
  | cons item rest inductionHypothesis =>
      rw [List.forIn_cons, List.map_cons, ← inductionHypothesis]
      rfl

/-! ## Logs that break off -/

/-- What the program does of what is logged: it goes no further than to the first report that it
breaks off, and then there is no result. -/
def unwound (logged : Logged α) : Logged (Option α) :=
  ⟨if logged.events.any Event.isBreak then none else some logged.result,
    logged.events.takeWhile fun event => !event.isBreak⟩

/-- What the program comes to is a part of what is logged. -/
theorem events_unwound_subset (logged : Logged α) : logged.unwound.events ⊆ logged.events :=
  List.takeWhile_subset _

/-- What does not break off is done to its end. -/
theorem unwound_of_unbroken {logged : Logged α} (unbroken : IsUnbrokenLog logged.events) :
    logged.unwound = ⟨some logged.result, logged.events⟩ := by
  have noBreak := isUnbrokenLog_iff_any.mp unbroken
  have whole : logged.events.takeWhile (fun event => !event.isBreak) = logged.events := by
    have goesOn : ∀ event ∈ logged.events, (!event.isBreak) = true := fun event member => by
      simp [unbroken event member]
    have reached : (logged.events ++ []).takeWhile (fun event => !event.isBreak) =
        logged.events ++ [].takeWhile _ := List.takeWhile_append_of_pos goesOn
    simpa using reached
  rw [unwound, noBreak, whole]
  rfl

/-- There is a result exactly where nothing breaks off. -/
theorem result_unwound_eq_none_iff {logged : Logged α} :
    logged.unwound.result = none ↔ ¬IsUnbrokenLog logged.events := by
  rw [isUnbrokenLog_iff_any, unwound]
  cases logged.events.any Event.isBreak with
  | true => simp
  | false => simp

/-- The program comes to the result with the whole log, or it breaks off without one. -/
theorem unwound_cases (logged : Logged α) :
    (IsUnbrokenLog logged.events ∧ logged.unwound = ⟨some logged.result, logged.events⟩) ∨
      (¬IsUnbrokenLog logged.events ∧ logged.unwound.result = none) := by
  by_cases unbroken : IsUnbrokenLog logged.events
  · exact .inl ⟨unbroken, unwound_of_unbroken unbroken⟩
  · exact .inr ⟨unbroken, result_unwound_eq_none_iff.mpr unbroken⟩

/-- A result that there is was logged, and so was all that leads to it. -/
theorem of_unwound_eq_some {logged : Logged α} {result : α} {events : List Event}
    (ends : logged.unwound = ⟨some result, events⟩) :
    IsUnbrokenLog logged.events ∧ logged = ⟨result, events⟩ := by
  have unbroken : IsUnbrokenLog logged.events := by
    refine Classical.byContradiction fun broken => ?_
    rw [← result_unwound_eq_none_iff, ends] at broken
    cases broken
  rw [unwound_of_unbroken unbroken] at ends
  cases ends
  exact ⟨unbroken, rfl⟩

/-- The program goes on behind an event that is no break. -/
theorem unwound_cons {event : Event} (goesOn : event.isBreak = false) (result : α)
    (later : List Event) :
    (Logged.mk result (event :: later)).unwound =
      ⟨(Logged.mk result later).unwound.result,
        event :: (Logged.mk result later).unwound.events⟩ := by
  simp [unwound, goesOn]

/-- Nothing comes after a break. -/
theorem unwound_cons_of_isBreak {event : Event} (isBreak : event.isBreak = true) (result : α)
    (later : List Event) : (Logged.mk result (event :: later)).unwound = ⟨none, []⟩ := by
  simp [unwound, isBreak]

/-- The program goes on behind a log that does not break off. -/
theorem unwound_append {earlier : List Event} (goesOn : IsUnbrokenLog earlier) (result : α)
    (later : List Event) :
    (Logged.mk result (earlier ++ later)).unwound =
      ⟨(Logged.mk result later).unwound.result,
        earlier ++ (Logged.mk result later).unwound.events⟩ := by
  induction earlier with
  | nil => rfl
  | cons event rest inductionHypothesis =>
      obtain ⟨here, behind⟩ := List.forall_mem_cons.mp goesOn
      rw [List.cons_append, unwound_cons here, inductionHypothesis behind]
      rfl

/-- Nothing comes after a log that breaks off. -/
theorem unwound_append_of_broken {earlier : List Event} (breaks : ¬IsUnbrokenLog earlier)
    (first : β) (result : α) (later : List Event) :
    (Logged.mk result (earlier ++ later)).unwound =
      ⟨none, (Logged.mk first earlier).unwound.events⟩ := by
  induction earlier with
  | nil => exact absurd (List.forall_mem_nil _) breaks
  | cons event rest inductionHypothesis =>
      rw [List.cons_append]
      cases isBreak : event.isBreak with
      | true => rw [unwound_cons_of_isBreak isBreak, unwound_cons_of_isBreak isBreak]
      | false =>
          have later : ¬IsUnbrokenLog rest := fun unbroken =>
            breaks (List.forall_mem_cons.mpr ⟨isBreak, unbroken⟩)
          rw [unwound_cons isBreak, unwound_cons isBreak, inductionHypothesis later]

/-- What is made of a result is made of it unless the program breaks off. -/
theorem unwound_mk_map (map : α → β) (logged : Logged α) :
    (Logged.mk (map logged.result) logged.events).unwound =
      ⟨logged.unwound.result.map map, logged.unwound.events⟩ := by
  simp only [unwound]
  cases logged.events.any Event.isBreak <;> rfl

/-! ## Problems in a log -/

/-- Diagnostics of logs follow one another. -/
theorem diagnostics_append (first second : List Event) :
    (Logged.mk () (first ++ second)).diagnostics =
      (Logged.mk () first).diagnostics ++ (Logged.mk () second).diagnostics :=
  List.filterMap_append

/-- Diagnostics of steps follow one another. -/
theorem diagnostics_bind (first : Logged α) (next : α → Logged β) :
    (first >>= next).diagnostics = first.diagnostics ++ (next first.result).diagnostics :=
  List.filterMap_append

/-- Problems are logged as the diagnostics that they are. -/
theorem diagnostics_problems (problems : List Diagnostic) :
    (Logged.mk () (problems.map .problem)).diagnostics = problems := by
  rw [diagnostics, List.filterMap_map]
  exact List.filterMap_some

/-- Reading a text is no diagnostic. -/
theorem diagnostics_fragment (depth : Nat) (text : String) (events : List Event) :
    (Logged.mk () (.fragment depth text :: events)).diagnostics =
      (Logged.mk () events).diagnostics := rfl

/-- What is no problem leaves no diagnostic. -/
theorem diagnostics_record {event : Event} (notProblem : event.isProblem = false) :
    (record event).diagnostics = [] := by
  cases event with
  | problem diagnostic => cases notProblem
  | fragment depth text => rfl
  | called depth operator => rfl

/-- Diagnostics are the problems of the log. -/
theorem mem_diagnostics {logged : Logged α} {diagnostic : Diagnostic} :
    diagnostic ∈ logged.diagnostics ↔ .problem diagnostic ∈ logged.events := by
  simp only [diagnostics, List.mem_filterMap]
  constructor
  · rintro ⟨event, member, found⟩
    cases event with
    | problem other =>
        cases found
        exact member
    | fragment depth text => cases found
    | called depth operator => cases found
  · exact fun member => ⟨_, member, rfl⟩

end Logged

namespace Step

/-- A step that gives a value goes on with the next one. -/
theorem bind_of_ok {first : Step α} {value : α} (next : α → Step β)
    (result : first.run.result = .ok value) :
    first >>= next = ExceptT.mk
      ⟨(next value).run.result, first.run.events ++ (next value).run.events⟩ := by
  obtain ⟨_, events⟩ := first
  cases result
  rfl

/-- A step that gives a value logs its events and goes on with the next one. -/
theorem run_bind_of_ok {first : Step α} {value : α} (next : α → Step β)
    (result : first.run.result = .ok value) :
    (first >>= next).run =
      (⟨(), first.run.events⟩ : Logged Unit) >>= fun _ => (next value).run := by
  rw [bind_of_ok next result]
  rfl

/-- A step that refuses is the last one. -/
theorem bind_of_error {first : Step α} {refusal : Refusal} (next : α → Step β)
    (result : first.run.result = .error refusal) :
    first >>= next = ExceptT.mk ⟨.error refusal, first.run.events⟩ := by
  obtain ⟨_, events⟩ := first
  cases result
  exact Logged.ext rfl (List.append_nil _)

/-- Nothing follows a refusal. -/
theorem refuse_bind (refusal : Refusal) (next : α → Step β) :
    (refuse refusal : Step α) >>= next = refuse refusal := rfl

/-- A step that gives a value goes through steps that do. -/
theorem ok_of_bind {first : Step α} {next : α → Step β} {value : β}
    (result : (first >>= next).run.result = .ok value) :
    ∃ between, first.run.result = .ok between ∧ (next between).run.result = .ok value := by
  cases firstResult : first.run.result with
  | error refusal =>
      rw [bind_of_error next firstResult] at result
      cases result
  | ok between =>
      rw [bind_of_ok next firstResult] at result
      exact ⟨between, rfl, result⟩

/-- What is logged outside a step is logged by the step, which does not refuse. -/
theorem run_liftM (logged : Logged α) :
    (liftM logged : Step α).run = ⟨.ok logged.result, logged.events⟩ :=
  Logged.ext rfl (List.append_nil _)

/-- A loop that records an event for each item logs these events. -/
theorem forIn_record (items : List α) (event : α → Event) :
    (forIn items PUnit.unit fun item _ => do
      (liftM (Logged.record (event item)) : Step PUnit)
      pure (ForInStep.yield PUnit.unit)) = ExceptT.mk ⟨.ok PUnit.unit, items.map event⟩ := by
  induction items with
  | nil => rfl
  | cons item rest inductionHypothesis =>
      rw [List.forIn_cons, bind_assoc]
      refine (bind_of_ok _ rfl).trans ?_
      simp only [pure_bind, inductionHypothesis]
      rfl

end Step

end MessageTemplate

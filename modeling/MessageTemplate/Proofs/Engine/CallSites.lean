import MessageTemplate.Proofs.Operator.Logs
import MessageTemplate.Proofs.Text.Place

/-! # Call sites

A call site says where in a template an operator call is written and which stretch of the template
the call had expanded. A log is accounted for by a place when it holds, apart from problems, exactly
the events of call sites written there, each after those before it or inside what one of them had
expanded. Which operators make such logs is not settled here. -/

namespace MessageTemplate

open MessageTemplate.Text

/-- A call as it is written in a template, and what it had expanded. -/
structure CallSite where
  /-- How many expansions the call is nested in. -/
  depth : Nat
  call : OperatorCall
  /-- The position of the separator in front of the call. -/
  start : Nat
  expanded : Option Place
deriving DecidableEq, Repr

namespace CallSite

/-- The place of the call, its separator included. -/
def place (site : CallSite) : Place :=
  ⟨site.start, operatorSeparator :: site.call.write⟩

/-- The place of the argument, if the call has one. -/
def argumentPlace? (site : CallSite) : Option Place :=
  site.call.argument.map fun argument =>
    ⟨site.start + site.call.name.length + 2, argument.toList⟩

/-- The call, and the reading of what it had expanded. -/
def events (site : CallSite) : List Event :=
  .called site.depth site.call.name :: site.expanded.toList.map fun fragment =>
    .fragment (site.depth + 1) (String.ofList fragment.text)

/-- Whether a call is written in a text and has expanded no more than a stretch of its argument. -/
structure IsIn (site : CallSite) (whole : List Char) : Prop where
  place : site.place.IsIn whole
  expanded : ∀ fragment ∈ site.expanded, fragment.IsIn whole ∧
    ∃ argument ∈ site.argumentPlace?, fragment.Within argument

/-- Whether a call is written before another one, or has expanded what the other is written in. -/
def Precedes (earlier later : CallSite) : Prop :=
  earlier.place.Before later.place ∨ ∃ fragment ∈ earlier.expanded, later.place.Within fragment

variable {site earlier later : CallSite} {whole : List Char}

/-- An argument lies inside its call, behind the separator. -/
theorem argumentPlace?_within {argument : Place} (isArgument : argument ∈ site.argumentPlace?) :
    site.start < argument.start ∧ argument.Within site.place := by
  obtain ⟨text, hasArgument, rfl⟩ := Option.map_eq_some_iff.mp isArgument
  have written : site.call.write.length = site.call.name.length + text.length + 1 := by
    simp [OperatorCall.write, hasArgument, Nat.add_assoc, String.length_toList]
  have stop : site.place.stop = site.start + (site.call.write.length + 1) := rfl
  refine ⟨by dsimp only; omega, ?_, ?_⟩
  · simp only [place]
    omega
  · simp only [Place.stop, String.length_toList] at stop ⊢
    omega

/-- What a call has expanded lies inside the call, behind the separator. -/
theorem IsIn.expanded_within (isIn : site.IsIn whole) {fragment : Place}
    (isExpanded : fragment ∈ site.expanded) :
    site.start < fragment.start ∧ fragment.Within site.place := by
  obtain ⟨-, argument, isArgument, within⟩ := isIn.expanded fragment isExpanded
  obtain ⟨behind, inside⟩ := argumentPlace?_within isArgument
  exact ⟨Nat.lt_of_lt_of_le behind within.1, within.trans inside⟩

/-- Calls that precede others are written to the left of them. -/
theorem Precedes.start_lt (precedes : earlier.Precedes later) (isIn : earlier.IsIn whole) :
    earlier.start < later.start := by
  rcases precedes with before | ⟨fragment, isExpanded, inside⟩
  · exact Nat.lt_of_lt_of_le (Nat.lt_add_of_pos_right (Nat.succ_pos _)) before
  · exact Nat.lt_of_lt_of_le (isIn.expanded_within isExpanded).1 inside.1

/-- What two calls have expanded lies apart, or the later stretch lies inside the earlier one. -/
theorem Precedes.expanded_apart (precedes : earlier.Precedes later)
    (earlierIn : earlier.IsIn whole) (laterIn : later.IsIn whole) {outer inner : Place}
    (isOuter : outer ∈ earlier.expanded) (isInner : inner ∈ later.expanded) :
    outer.Before inner ∨ inner.Within outer := by
  have outerWithin := (earlierIn.expanded_within isOuter).2
  have innerWithin := (laterIn.expanded_within isInner).2
  rcases precedes with before | ⟨fragment, isExpanded, inside⟩
  · exact .inl (before.of_within outerWithin innerWithin)
  · cases Option.mem_unique isOuter isExpanded
    exact .inr (innerWithin.trans inside)

/-- Each call has at most one stretch expanded. -/
theorem countP_events_le (sites : List CallSite) :
    (sites.flatMap events).countP Event.isFragment ≤ sites.length := by
  induction sites with
  | nil => exact Nat.le_refl 0
  | cons site rest inductionHypothesis =>
      have once : site.events.countP Event.isFragment ≤ 1 := by
        cases expanded : site.expanded <;> simp [events, expanded]
      rw [List.flatMap_cons, List.countP_append, List.length_cons]
      omega

end CallSite

/-- Whether a log holds, apart from problems, the events of calls written at a place of a text, in
the order in which they precede each other. -/
def AccountedFor (whole : List Char) (place : Place) (events : List Event) : Prop :=
  ∃ sites : List CallSite,
    (∀ site ∈ sites, site.IsIn whole ∧ site.place.Within place) ∧
    sites.Pairwise CallSite.Precedes ∧
    events.filter (!·.isProblem) = sites.flatMap CallSite.events

namespace AccountedFor

variable {whole : List Char} {place inner outer left right : Place}
  {events firstEvents secondEvents : List Event} {problems : List Diagnostic} {site : CallSite}

/-- Problems are neither readings nor calls. -/
theorem filter_problems (problems : List Diagnostic) :
    (problems.map Event.problem).filter (!·.isProblem) = [] := by
  simp [List.filter_map, Function.comp_def]

/-- Problems need no call. -/
theorem of_problems (whole : List Char) (place : Place) (problems : List Diagnostic) :
    AccountedFor whole place (problems.map .problem) :=
  ⟨[], by simp, .nil, filter_problems problems⟩

/-- Problems logged in front take up no place of the text. -/
theorem problems_append (accounted : AccountedFor whole place events) :
    AccountedFor whole place (problems.map .problem ++ events) := by
  obtain ⟨sites, inPlace, ordered, same⟩ := accounted
  refine ⟨sites, inPlace, ordered, ?_⟩
  rw [List.filter_append, filter_problems, List.nil_append, same]

/-- Problems logged behind take up no place of the text. -/
theorem append_problems (accounted : AccountedFor whole place events) :
    AccountedFor whole place (events ++ problems.map .problem) := by
  obtain ⟨sites, inPlace, ordered, same⟩ := accounted
  refine ⟨sites, inPlace, ordered, ?_⟩
  rw [List.filter_append, filter_problems, List.append_nil, same]

/-- What a place accounts for, a larger place accounts for. -/
theorem widen (accounted : AccountedFor whole inner events) (within : inner.Within outer) :
    AccountedFor whole outer events := by
  obtain ⟨sites, inPlace, ordered, same⟩ := accounted
  refine ⟨sites, fun site member => ?_, ordered, same⟩
  obtain ⟨isIn, inside⟩ := inPlace site member
  exact ⟨isIn, inside.trans within⟩

/-- Two places apart account for a log after the other. -/
theorem append (first : AccountedFor whole left firstEvents)
    (second : AccountedFor whole right secondEvents) (apart : left.Before right)
    (leftWithin : left.Within place) (rightWithin : right.Within place) :
    AccountedFor whole place (firstEvents ++ secondEvents) := by
  obtain ⟨leftSites, leftIn, leftOrdered, leftSame⟩ := first
  obtain ⟨rightSites, rightIn, rightOrdered, rightSame⟩ := second
  refine ⟨leftSites ++ rightSites, ?_, ?_, ?_⟩
  · intro site member
    rcases List.mem_append.mp member with isLeft | isRight
    · exact ⟨(leftIn site isLeft).1, (leftIn site isLeft).2.trans leftWithin⟩
    · exact ⟨(rightIn site isRight).1, (rightIn site isRight).2.trans rightWithin⟩
  · refine List.pairwise_append.mpr ⟨leftOrdered, rightOrdered, ?_⟩
    intro earlier isLeft later isRight
    exact .inl (apart.of_within (leftIn earlier isLeft).2 (rightIn later isRight).2)
  · rw [List.filter_append, leftSame, rightSame, List.flatMap_append]

/-- A call that has nothing expanded accounts for itself and for problems. -/
theorem call {call : OperatorCall} {start : Nat} (depth : Nat) (problems : List Diagnostic)
    (isIn : Place.IsIn ⟨start, operatorSeparator :: call.write⟩ whole) :
    AccountedFor whole ⟨start, operatorSeparator :: call.write⟩
      (.called depth call.name :: problems.map .problem) := by
  let site : CallSite := ⟨depth, call, start, none⟩
  have siteIn : site.IsIn whole := ⟨isIn, by simp [site]⟩
  refine ⟨[site], ?_, List.pairwise_singleton _ _, ?_⟩
  · exact List.forall_mem_singleton.mpr ⟨siteIn, Place.Within.refl _⟩
  · simp [CallSite.events, site, filter_problems]

/-- A call that has a stretch expanded accounts for itself and for what happens in the stretch. -/
theorem expansion {fragment : Place} (isIn : site.IsIn whole)
    (isExpanded : site.expanded = some fragment) (accounted : AccountedFor whole fragment events) :
    AccountedFor whole site.place
      (.called site.depth site.call.name :: (problems.map .problem ++
        .fragment (site.depth + 1) (String.ofList fragment.text) :: events)) := by
  obtain ⟨sites, inPlace, ordered, same⟩ := accounted
  have fragmentWithin := (isIn.expanded_within isExpanded).2
  refine ⟨site :: sites, ?_, ?_, ?_⟩
  · refine List.forall_mem_cons.mpr ⟨⟨isIn, Place.Within.refl _⟩, fun other member => ?_⟩
    exact ⟨(inPlace other member).1, (inPlace other member).2.trans fragmentWithin⟩
  · refine List.pairwise_cons.mpr ⟨fun other member => ?_, ordered⟩
    exact .inr ⟨fragment, isExpanded, (inPlace other member).2⟩
  · simp [CallSite.events, isExpanded, List.filter_append, filter_problems, same]

/-- Template text that is read, apart from problems, is what a call has expanded. -/
theorem isInfix_of_fragment_mem (accounted : AccountedFor whole place events) {depth : Nat}
    {fragment : String} (member : .fragment depth fragment ∈ events) :
    fragment.toList <:+: whole := by
  obtain ⟨sites, inPlace, -, same⟩ := accounted
  have logged : .fragment depth fragment ∈ sites.flatMap CallSite.events := by
    rw [← same]
    exact List.mem_filter.mpr ⟨member, rfl⟩
  obtain ⟨site, siteMember, isEvent⟩ := List.mem_flatMap.mp logged
  obtain ⟨stretch, isExpanded, isRead⟩ : ∃ stretch ∈ site.expanded,
      Event.fragment (site.depth + 1) (String.ofList stretch.text) = .fragment depth fragment := by
    simpa [CallSite.events] using isEvent
  cases isRead
  rw [String.toList_ofList]
  exact ((inPlace site siteMember).1.expanded stretch isExpanded).1.isInfix

/-- A place accounts for no more readings than its text has operator separators. -/
theorem countP_isFragment_le (accounted : AccountedFor whole place events) :
    events.countP Event.isFragment ≤ whole.count operatorSeparator := by
  obtain ⟨sites, inPlace, ordered, same⟩ := accounted
  have kept : events.countP Event.isFragment =
      (events.filter (!·.isProblem)).countP Event.isFragment := by
    rw [List.countP_filter]
    refine List.countP_congr fun event _ => ?_
    cases event <;> simp
  have ascending : (sites.map CallSite.start).Pairwise (· < ·) :=
    List.pairwise_map.mpr (ordered.imp_of_mem fun isEarlier _ precedes =>
      precedes.start_lt (inPlace _ isEarlier).1)
  have marked : ∀ start ∈ sites.map CallSite.start, start ∈ whole.idxsOf operatorSeparator := by
    intro start member
    obtain ⟨site, siteMember, rfl⟩ := List.mem_map.mp member
    exact (inPlace site siteMember).1.place.start_mem_idxsOf
  calc events.countP Event.isFragment
      = (sites.flatMap CallSite.events).countP Event.isFragment := by rw [kept, same]
    _ ≤ (sites.map CallSite.start).length := by
        rw [List.length_map]
        exact CallSite.countP_events_le sites
    _ ≤ whole.count operatorSeparator := Place.length_le_count ascending marked

end AccountedFor

/-- What a log is like when all that is read after the first text is a stretch of that text. -/
structure ConfinedLog (text : String) (events : List Event) (sites : List CallSite) : Prop where
  /-- Apart from problems, the log holds the calls and the readings of what they had expanded. -/
  logged : events.filter (!·.isProblem) = sites.flatMap CallSite.events
  /-- Each call is written in the text, and had no more than a stretch of its argument expanded. -/
  written : ∀ site ∈ sites, site.IsIn text.toList
  /-- Later calls are written further right, and what two calls had expanded does not overlap
  unless the later stretch lies inside the earlier one. -/
  apart : sites.Pairwise fun earlier later => earlier.start < later.start ∧
    ∀ outer ∈ earlier.expanded, ∀ inner ∈ later.expanded,
      outer.Before inner ∨ inner.Within outer
  /-- All that is read is a contiguous part of the text. -/
  isInfix : ∀ depth fragment, .fragment depth fragment ∈ events → fragment.toList <:+: text.toList
  /-- There are no more readings than the text has operator separators. -/
  bounded : events.countP Event.isFragment ≤ text.toList.count operatorSeparator

/-- What a whole text accounts for is confined to the text. -/
theorem AccountedFor.confinedLog {text : String} {events : List Event} {place : Place}
    (accounted : AccountedFor text.toList place events) :
    ∃ sites, ConfinedLog text events sites := by
  obtain ⟨sites, inPlace, ordered, same⟩ := accounted
  have written : ∀ site ∈ sites, site.IsIn text.toList := fun site member => (inPlace site member).1
  refine ⟨sites, same, written, ordered.imp_of_mem fun isEarlier isLater precedes => ?_,
    fun depth fragment => isInfix_of_fragment_mem ⟨sites, inPlace, ordered, same⟩,
    countP_isFragment_le ⟨sites, inPlace, ordered, same⟩⟩
  refine ⟨precedes.start_lt (written _ isEarlier), fun outer isOuter inner isInner => ?_⟩
  exact precedes.expanded_apart (written _ isEarlier) (written _ isLater) isOuter isInner

end MessageTemplate

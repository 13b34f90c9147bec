import MessageTemplate.Proofs.Bindings.Resolution
import MessageTemplate.Proofs.Engine.Nesting

/-! # Which bindings matter

An expansion looks up what its template mentions and nothing else: `Engine.expand_of_sameMentioned`.
And it never notices that more is bound, unless it misses something: `Engine.expand_of_keptBy`.
Neither is promised where operators of a user read the bindings. -/

namespace MessageTemplate

/-- What is missing is a reference of the template or the key that a condition uses. -/
theorem Problem.IsMissing.kind_or_eq {problem : Problem} (isMissing : problem.IsMissing) :
    problem.kind = .unresolvedReference ∨
      ∃ key, problem = .refused (.unknownVariable "ifuse" key) := by
  cases problem with
  | unboundReference source => exact .inl rfl
  | refused refusal =>
      cases refusal with
      | unknownVariable operator key =>
          cases isMissing
          exact .inr ⟨key, rfl⟩
      | _ => cases isMissing
  | _ => cases isMissing

namespace Engine

section Comparison

variable {engine : Engine} (standardOnly : engine.registry.HoldsOnlyStandard)
  {relation : LogRelation} {left right : Bindings}

include standardOnly

/-- Nested texts are expanded in related ways with bindings that agree on what the texts mention. -/
theorem holds_expandWithin {levels : Nat} {fragment : String}
    (agrees : ∀ reference, Template.Mentions fragment reference →
      relation.Agrees left right reference) :
    relation.Holds (expandWithin engine left levels fragment).run
      (expandWithin engine right levels fragment).run := by
  induction levels generalizing fragment with
  | zero => exact relation.refl _
  | succ levels inductionHypothesis =>
      have compares : Site.ComparesOn relation
          (engine.siteAt left (engine.options.maxDepth - levels) levels)
          (engine.siteAt right (engine.options.maxDepth - levels) levels) fragment :=
        { locale := rfl
          records := fun _ _ => relation.refl _
          bindings := agrees
          expand := fun _ nests => inductionHypothesis fun reference mentions =>
            agrees reference (.nested nests mentions) }
      exact holds_expandWithin_succ (holds_renderAt standardOnly compares)

/-- Templates are expanded in related ways with bindings that agree on what they mention. -/
theorem holds_trace {text : String}
    (agrees : ∀ reference, Template.Mentions text reference →
      relation.Agrees left right reference) :
    relation.Holds (engine.trace (Template.read text) left)
      (engine.trace (Template.read text) right) := by
  have compares : Site.ComparesOn relation (engine.topSite left) (engine.topSite right) text :=
    { locale := rfl
      records := fun _ _ => relation.refl _
      bindings := agrees
      expand := fun _ nests => holds_expandWithin standardOnly fun reference mentions =>
        agrees reference (.nested nests mentions) }
  exact holds_renderAt standardOnly compares

end Comparison

/-- An expansion is known from its log. -/
theorem expand_of_trace {engine : Engine} {text : String} {left right : Bindings}
    (same : engine.trace (Template.read text) left = engine.trace (Template.read text) right) :
    engine.expand text left = engine.expand text right := by
  rw [expand, render, same]
  rfl

/-- Bindings that give the same for all that a template mentions make no difference to it. That is
so if they give the same for all keys that are written in the template, and if they have the same
entries for what is mentioned, whatever else is added, removed or moved. -/
theorem expand_of_sameMentioned (engine : Engine)
    (standardOnly : engine.registry.HoldsOnlyStandard) (text : String) (left right : Bindings) :
    ((∀ reference, Template.Mentions text reference →
        left.resolve? reference = right.resolve? reference) →
      engine.expand text left = engine.expand text right) ∧
    ((∀ key : String, key.toList <:+: text.toList → left.atKey? key = right.atKey? key) →
      engine.expand text left = engine.expand text right) ∧
    (left.ShareOn right (Template.Mentions text) →
      engine.expand text left = engine.expand text right) := by
  have sameMentioned (same : ∀ reference, Template.Mentions text reference →
      left.resolve? reference = right.resolve? reference) :
      engine.expand text left = engine.expand text right := by
    have traced : LogRelation.same.Holds (engine.trace (Template.read text) left)
        (engine.trace (Template.read text) right) :=
      holds_trace standardOnly fun reference mentions => .inl (same reference mentions)
    exact expand_of_trace traced
  refine ⟨sameMentioned, fun sameKeys => ?_, fun share => ?_⟩
  · refine sameMentioned fun reference mentions => ?_
    obtain ⟨key, isWritten, keyRead⟩ := mentions.exists_key
    have same := sameKeys key isWritten
    rwa [Bindings.atKey?, Bindings.atKey?, keyRead] at same
  · exact sameMentioned fun reference mentions => share.resolve?_eq mentions

/-- A template with a position, names and keys, where an entry that it does not mention is taken
away, another one is added, and the entries of its keys change places. -/
theorem expand_of_sameMentioned_ifuse :
    let text := "{0}: {ok|if:{ok|ifuse:a;b}}"
    let left := (((Bindings.empty.insert "ok" (.bool true)).insert "spare" .null).insert "a"
      (.string "x")).insert "b" (.string "y")
    let right := (((Bindings.empty.insert "ok" (.bool true)).insert "b" (.string "y")).insert "a"
      (.string "x")).insert "other" .null
    standard.registry.HoldsOnlyStandard ∧
      (∀ reference, Template.Mentions text reference →
        left.resolve? reference = right.resolve? reference) ∧
      (∀ key : String, key.toList <:+: text.toList → left.atKey? key = right.atKey? key) ∧
      left.ShareOn right (Template.Mentions text) ∧
      standard.expand text left = standard.expand text right ∧
      (standard.expand text right).text = "1: x" := by
  intro text left right
  have standardOnly : standard.registry.HoldsOnlyStandard := Registry.standard_holdsOnlyStandard
  have share : left.ShareOn right (· ∈ Template.writtenReferences text) :=
    { leftDistinct := by decide
      rightDistinct := by decide
      names := fun name isWritten value => by
        have notSpare : name ≠ "spare" := fun isSpare => absurd (isSpare ▸ isWritten) (by decide)
        have notOther : name ≠ "other" := fun isOther => absurd (isOther ▸ isWritten) (by decide)
        have leftEntries : left.entries = [⟨some "ok", .bool true⟩, ⟨some "spare", .null⟩,
          ⟨some "a", .string "x"⟩, ⟨some "b", .string "y"⟩] := rfl
        have rightEntries : right.entries = [⟨some "ok", .bool true⟩, ⟨some "b", .string "y"⟩,
          ⟨some "a", .string "x"⟩, ⟨some "other", .null⟩] := rfl
        simp [leftEntries, rightEntries, notSpare, notOther, or_comm]
      positions := fun position isWritten => by
        match position with
        | 0 | _ + 4 => rfl
        | 1 | 2 | 3 => exact absurd isWritten (by decide) }
  have shareMentioned : left.ShareOn right (Template.Mentions text) :=
    share.mono fun reference mentions => mentions.isWritten
  have sameMentioned (reference : Reference) (mentions : Template.Mentions text reference) :
      left.resolve? reference = right.resolve? reference := shareMentioned.resolve?_eq mentions
  have sameKeys (key : String) (isPart : key.toList <:+: text.toList) :
      left.atKey? key = right.atKey? key := by
    rw [Bindings.atKey?, Bindings.atKey?]
    cases keyRead : Reference.read? key.toList with
    | none => rfl
    | some reference =>
        exact share.resolve?_eq (Template.mem_writtenReferences.mpr ⟨key, isPart, keyRead⟩)
  obtain ⟨-, fromKeys, -⟩ := expand_of_sameMentioned standard standardOnly text left right
  exact ⟨standardOnly, sameMentioned, sameKeys, shareMentioned, fromKeys sameKeys, by decide⟩

/-- An expansion that misses no reference and no key of `ifuse` is the same with all bindings that
leave references their values. So it is, whatever is added to the bindings, if no bound name gets
another value. -/
theorem expand_of_keptBy (engine : Engine) (standardOnly : engine.registry.HoldsOnlyStandard)
    (text : String) (bindings : Bindings)
    (missesNothing : ∀ diagnostic ∈ (engine.expand text bindings).diagnostics,
      diagnostic.kind ≠ .unresolvedReference ∧
        ∀ key, diagnostic.problem ≠ .refused (.unknownVariable "ifuse" key)) :
    (∀ wider, bindings.KeptBy wider → engine.expand text wider = engine.expand text bindings) ∧
      ∀ additions : List Addition, (∀ addition ∈ additions, addition.Spares bindings) →
        engine.expand text (bindings.addAll additions) = engine.expand text bindings := by
  have unchanged (wider : Bindings) (kept : bindings.KeptBy wider) :
      engine.expand text wider = engine.expand text bindings := by
    have traced : LogRelation.sameIfFound.Holds (engine.trace (Template.read text) bindings)
        (engine.trace (Template.read text) wider) := by
      -- What is bound keeps its value, and what is not bound is reported where it is looked up.
      refine holds_trace standardOnly fun reference _ => ?_
      cases found : bindings.resolve? reference with
      | none => exact .inr ⟨found, LogRelation.sameIfFound_forgivesMissing⟩
      | some value => exact .inl (found.trans (kept reference value found).symm)
    refine (expand_of_trace (traced fun diagnostic member isMissing => ?_)).symm
    obtain ⟨isBound, isKnown⟩ := missesNothing diagnostic member
    rcases isMissing.kind_or_eq with unresolved | ⟨key, unknown⟩
    · exact isBound unresolved
    · exact isKnown key unknown
  exact ⟨unchanged, fun additions spare => unchanged _ (Bindings.keptBy_addAll spare)⟩

/-- Defaults below what is bound, with a reference that is only bound by them and is not reached. -/
theorem expand_of_keptBy_defaults :
    let text := "{n|if:{0};{later}} {n|nope}"
    let bindings := Bindings.empty.insert "n" (.string "2")
    let additions := [.insertNew "n" .null, .insert "later" (.bool true), .push (.string "x")]
    standard.registry.HoldsOnlyStandard ∧
      (∀ diagnostic ∈ (standard.expand text bindings).diagnostics,
        diagnostic.kind ≠ .unresolvedReference ∧
          ∀ key, diagnostic.problem ≠ .refused (.unknownVariable "ifuse" key)) ∧
      (∀ addition ∈ additions, Addition.Spares bindings addition) ∧
      standard.expand text (bindings.addAll additions) = standard.expand text bindings ∧
      standard.expand text bindings = ⟨"2 (null)", [⟨.noSuchOperator "nope", none⟩]⟩ := by
  intro text bindings additions
  have standardOnly : standard.registry.HoldsOnlyStandard := Registry.standard_holdsOnlyStandard
  have expanded : standard.expand text bindings =
      ⟨"2 (null)", [⟨.noSuchOperator "nope", none⟩]⟩ := by decide
  have missesNothing : ∀ diagnostic ∈ (standard.expand text bindings).diagnostics,
      diagnostic.kind ≠ .unresolvedReference ∧
        ∀ key, diagnostic.problem ≠ .refused (.unknownVariable "ifuse" key) := by
    rw [expanded]
    rintro diagnostic (_ | ⟨_, ⟨⟩⟩)
    exact ⟨by decide, nofun⟩
  have spare : ∀ addition ∈ additions, addition.Spares bindings := by
    simp only [additions, List.forall_mem_cons]
    exact ⟨trivial, rfl, trivial, nofun⟩
  obtain ⟨-, added⟩ := expand_of_keptBy standard standardOnly text bindings missesNothing
  exact ⟨standardOnly, missesNothing, spare, added additions spare, expanded⟩

end Engine

end MessageTemplate

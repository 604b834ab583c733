import MeshRouting.Proofs.Rule.Stages

/-!
The warnings on the way to a rule. They are about the action alone: an unusual status, or
the heavy ones among the targets that are looked at before a weight is found missing.
What the match is plays no role, and a priority that is taken is reported without any.
-/

namespace MeshRouting

namespace TargetReference

/-- One warning for each target whose weight is above 100, in order. -/
def heavyWarnings (rule : String) (targets : List TargetReference) : List Event :=
  (targets.filter fun reference => 100 < reference.group.weight).map fun reference =>
    .heavyTarget rule reference.target reference.group.weight

theorem heavy_warnings_cons (rule : String) (reference : TargetReference)
    (rest : List TargetReference) :
    heavyWarnings rule (reference :: rest) =
      heavyWarnings rule [reference] ++ heavyWarnings rule rest := by
  rw [heavyWarnings, ← List.singleton_append, List.filter_append, List.map_append]
  rfl

theorem resolve_weight_of_acceptable (rule : String) {several : Bool}
    {reference : TargetReference} (weighted : several = true → reference.weight ≠ none) :
    reference.resolveWeight rule several = .pure reference.group.weight := by
  unfold resolveWeight group
  cases weight : reference.weight with
  | some weight => rfl
  | none =>
      cases several with
      | false => rfl
      | true => exact absurd weight (weighted rfl)

theorem resolve_events_of_acceptable (rule : String) {several : Bool}
    {reference : TargetReference} (weighted : several = true → reference.weight ≠ none) :
    (reference.resolve rule several).events = heavyWarnings rule [reference] := by
  unfold resolve
  rw [resolve_weight_of_acceptable rule weighted, Traced.events_bind_of_ok rfl]
  unfold heavyWarnings
  by_cases heavy : 100 < reference.group.weight
  · have warned : greatestUsualWeight < reference.group.weight := heavy
    simp only [warned, if_true, heavy, decide_true, List.filter_cons_of_pos, List.filter_nil]
    rfl
  · have silent : ¬ greatestUsualWeight < reference.group.weight := heavy
    simp only [silent, if_false, heavy, decide_false, Bool.false_eq_true, not_false_eq_true,
      List.filter_cons_of_neg, List.filter_nil]
    rfl

theorem resolve_events_of_unweighted (rule : String) {reference : TargetReference}
    (unweighted : reference.weight = none) : (reference.resolve rule true).events = [] := by
  have failed : reference.resolveWeight rule true =
      .fail (.missingWeight rule reference.target) := by
    rw [resolveWeight, unweighted]
    rfl
  rw [resolve, failed, Traced.events_bind_of_error rfl]
  rfl

/-- Of several targets the first unweighted one ends the list, without a warning of its own. -/
theorem resolve_all_events (rule : String) (several : Bool) (targets : List TargetReference) :
    (resolveAll rule several targets).events =
      heavyWarnings rule (if several then targets.takeWhile (·.weight.isSome) else targets) := by
  induction targets with
  | nil => cases several <;> rfl
  | cons reference rest induction =>
      rw [resolveAll]
      by_cases lacking : several = true ∧ reference.weight = none
      · obtain ⟨rfl, unweighted⟩ := lacking
        rw [Traced.events_bind_of_error (resolve_unweighted rule unweighted),
          resolve_events_of_unweighted rule unweighted]
        simp [unweighted, heavyWarnings]
      · have weighted : several = true → reference.weight ≠ none :=
          fun many unweighted => lacking ⟨many, unweighted⟩
        have examined : (if several then (reference :: rest).takeWhile (·.weight.isSome)
            else reference :: rest) =
            reference :: if several then rest.takeWhile (·.weight.isSome) else rest := by
          cases several with
          | false => rfl
          | true => simp [Option.isSome_iff_ne_none.2 (weighted rfl)]
        rw [Traced.events_bind_of_ok (resolve_acceptable rule weighted),
          resolve_events_of_acceptable rule weighted, Traced.events_bind_return, induction,
          examined, ← heavy_warnings_cons]

end TargetReference

namespace ActionSpec

/-- The targets before the first one without a weight that it needs. A lone target needs
none, so it is always among them. -/
def examined (targets : List TargetReference) : List TargetReference :=
  if targets.length = 1 then targets else targets.takeWhile (·.weight.isSome)

/-- The warnings that an action deserves in the rule of this name. -/
def warnings (rule : String) : ActionSpec → List Event
  | .respond status =>
      if 100 ≤ status ∧ status ≤ 599 then [] else [.statusOutsideRange rule status]
  | .forward targets => TargetReference.heavyWarnings rule (examined targets)

theorem resolve_events (rule : String) (action : ActionSpec) :
    (action.resolve rule).events = action.warnings rule := by
  cases action with
  | respond status =>
      simp only [resolve, warnings]
      by_cases usual : 100 ≤ status ∧ status ≤ 599
      · have known : isUsualStatus status = true := by simpa [isUsualStatus] using usual
        simp only [known, Bool.not_true, Bool.false_eq_true, if_false, if_pos usual]
        rfl
      · have strange : isUsualStatus status = false := by
          simpa [isUsualStatus] using usual
        simp only [strange, Bool.not_false, if_true, if_neg usual]
        rfl
  | forward targets =>
      cases targets with
      | nil => rfl
      | cons first rest =>
          have looked : examined (first :: rest) =
              if decide (1 < (first :: rest).length) then
                (first :: rest).takeWhile (·.weight.isSome) else first :: rest := by
            cases rest <;> simp [examined]
          rw [warnings, looked, ← TargetReference.resolve_all_events, resolve]
          · exact Traced.events_bind_return _ _
          · simp

theorem warnings_level (rule : String) (action : ActionSpec) :
    ∀ event ∈ action.warnings rule, event.level = .warning := by
  intro event member
  cases action with
  | respond status =>
      rw [warnings] at member
      split_ifs at member with usual
      · cases member
      · rw [List.mem_singleton.1 member]
        rfl
  | forward targets =>
      obtain ⟨reference, _, rfl⟩ := List.mem_map.1 member
      rfl

end ActionSpec

namespace RuleSpec

/-- The warnings that a spec gives rise to: those of its action, if its priority is free. -/
def warnings (spec : RuleSpec) (set : RuleSet) : List Event :=
  if set.containsPriority spec.priority then [] else spec.action.warnings spec.name

theorem build_match_events (spec : RuleSpec) : spec.buildMatch.events = [] := by
  unfold buildMatch
  cases spec.matchSpec.build <;> rfl

theorem compile_events (spec : RuleSpec) (set : RuleSet) :
    (spec.compile set).events = spec.warnings set := by
  unfold compile warnings
  by_cases taken : set.containsPriority spec.priority = true
  · have failed : spec.checkPriority set =
        .fail (.duplicatePriority spec.name spec.priority) := if_pos taken
    rw [failed, Traced.events_bind_of_error rfl, if_pos taken]
    rfl
  · have passed : spec.checkPriority set = .pure () := if_neg taken
    rw [passed, Traced.events_bind_of_ok rfl, if_neg taken, ← ActionSpec.resolve_events]
    cases resolved : (spec.action.resolve spec.name).outcome with
    | error error =>
        rw [Traced.events_bind_of_error resolved]
        rfl
    | ok action =>
        rw [Traced.events_bind_of_ok resolved]
        -- The match comes last and adds nothing, whether it can be built or not.
        rw [Traced.events_bind_return, build_match_events]
        exact List.append_nil _

end RuleSpec

end MeshRouting

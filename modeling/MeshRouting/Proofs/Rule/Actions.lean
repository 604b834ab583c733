import MeshRouting.Action.Resolution
import Mathlib.Tactic.SplitIfs

/-!
What becomes of an action. Whether it resolves depends on the length of its target list
and on which targets have a weight, and on nothing else; the name of the rule only shows
in the error. When several targets need a weight, the first one without it is named.
-/

namespace MeshRouting

namespace TargetReference

/-- The target group that stands for an acceptable target. -/
def group (reference : TargetReference) : TargetGroup :=
  ⟨reference.target, reference.weight.getD defaultWeight⟩

/-- The warning about a heavy target comes between the two parts of this and changes
neither of them. -/
theorem resolve_outcome (rule : String) (several : Bool) (reference : TargetReference) :
    (reference.resolve rule several).outcome =
      (reference.resolveWeight rule several).outcome.map fun weight => ⟨reference.target, weight⟩ := by
  unfold resolve
  rw [Traced.outcome_bind]
  cases (reference.resolveWeight rule several).outcome with
  | error error => rfl
  | ok weight =>
      simp only [Except.bind, Except.map]
      split_ifs
      · simp only [Traced.outcome_bind, Traced.outcome_emit, Except.bind, Traced.outcome_return]
      · rfl

theorem resolve_acceptable (rule : String) {several : Bool} {reference : TargetReference}
    (weighted : several = true → reference.weight ≠ none) :
    (reference.resolve rule several).outcome = .ok reference.group := by
  rw [resolve_outcome, resolveWeight, group]
  cases weight : reference.weight with
  | some weight => rfl
  | none =>
      have alone : several = false := by
        cases several with
        | false => rfl
        | true => exact absurd weight (weighted rfl)
      subst alone
      rfl

theorem resolve_unweighted (rule : String) {reference : TargetReference}
    (unweighted : reference.weight = none) :
    (reference.resolve rule true).outcome = .error (.missingWeight rule reference.target) := by
  rw [resolve_outcome, resolveWeight, unweighted]
  rfl

theorem resolve_all_acceptable (rule : String) {several : Bool} {targets : List TargetReference}
    (weighted : several = true → ∀ reference ∈ targets, reference.weight ≠ none) :
    (resolveAll rule several targets).outcome = .ok (targets.map group) := by
  induction targets with
  | nil => rfl
  | cons reference rest induction =>
      have first := resolve_acceptable rule (fun many => weighted many reference (by simp))
      have others := induction fun many other member => weighted many other (by simp [member])
      simp only [resolveAll, Traced.outcome_bind, first, others, Except.bind, Traced.outcome_return,
        List.map_cons]

/-- The targets before the first unweighted one resolve, so the error is about that one. -/
theorem resolve_all_unweighted (rule : String) {targets : List TargetReference}
    (unweighted : ∃ reference ∈ targets, reference.weight = none) :
    ∃ before reference after, targets = before ++ reference :: after ∧
      (∀ earlier ∈ before, earlier.weight ≠ none) ∧ reference.weight = none ∧
      (resolveAll rule true targets).outcome = .error (.missingWeight rule reference.target) := by
  induction targets with
  | nil => simp at unweighted
  | cons reference rest induction =>
      by_cases lacking : reference.weight = none
      · have failed := resolve_unweighted rule lacking
        refine ⟨[], reference, rest, rfl, by simp, lacking, ?_⟩
        simp only [resolveAll, Traced.outcome_bind, failed, Except.bind]
      · have later : ∃ other ∈ rest, other.weight = none := by
          rcases unweighted with ⟨other, member, none⟩
          rcases List.mem_cons.1 member with rfl | member
          · exact absurd none lacking
          · exact ⟨other, member, none⟩
        rcases induction later with ⟨before, other, after, split, weighted, none, failed⟩
        have first := @resolve_acceptable rule true reference fun _ => lacking
        refine ⟨reference :: before, other, after, by rw [split]; rfl, ?_, none, ?_⟩
        · intro earlier member
          rcases List.mem_cons.1 member with rfl | member
          · exact lacking
          · exact weighted earlier member
        · simp only [resolveAll, Traced.outcome_bind, first, failed, Except.bind]

end TargetReference

namespace ActionSpec

/-- A fixed response, a lone target, or several targets that all have a weight. -/
def Resolvable : ActionSpec → Prop
  | .respond _ => True
  | .forward targets =>
      targets ≠ [] ∧ (targets.length = 1 ∨ ∀ reference ∈ targets, reference.weight ≠ none)

/-- Several targets, of which one has no weight. -/
def LacksWeight : ActionSpec → Prop
  | .respond _ => False
  | .forward targets => 1 < targets.length ∧ ∃ reference ∈ targets, reference.weight = none

/-- What a resolvable action resolves to. -/
def resolved : ActionSpec → Action
  | .respond status => .respond status
  | .forward targets => .forward (targets.map TargetReference.group)

theorem resolvable_or_faulty (action : ActionSpec) :
    action.Resolvable ∨ action = .forward [] ∨ action.LacksWeight := by
  cases action with
  | respond status => exact .inl trivial
  | forward targets =>
      by_cases lacking : ∃ reference ∈ targets, reference.weight = none
      · match targets, lacking with
        | [reference], _ => exact .inl ⟨by simp, .inl rfl⟩
        | first :: second :: rest, lacking => exact .inr (.inr ⟨by simp, lacking⟩)
      · cases targets with
        | nil => exact .inr (.inl rfl)
        | cons first rest =>
            refine .inl ⟨by simp, .inr fun reference member none => lacking ⟨reference, member, none⟩⟩

theorem not_resolvable_of_lacks_weight {action : ActionSpec} (lacking : action.LacksWeight) :
    ¬ action.Resolvable := by
  cases action with
  | respond status => exact lacking.elim
  | forward targets =>
      rcases lacking with ⟨many, reference, member, none⟩
      intro resolvable
      rcases resolvable with ⟨_, alone | weighted⟩
      · omega
      · exact weighted reference member none

theorem resolve_of_resolvable (rule : String) {action : ActionSpec}
    (resolvable : action.Resolvable) : (action.resolve rule).outcome = .ok action.resolved := by
  cases action with
  | respond status =>
      simp only [resolve, resolved]
      split_ifs <;> rfl
  | forward targets =>
      rcases resolvable with ⟨nonempty, enough⟩
      cases targets with
      | nil => exact absurd rfl nonempty
      | cons first rest =>
          have weighted : (decide (1 < (first :: rest).length)) = true →
              ∀ reference ∈ first :: rest, reference.weight ≠ none := by
            intro several
            rcases enough with alone | weighted
            · simp [alone] at several
            · exact weighted
          have groups := TargetReference.resolve_all_acceptable rule weighted
          simp only [resolve, Traced.outcome_bind, groups, Except.bind, Traced.outcome_return, resolved]

theorem resolve_of_empty (rule : String) :
    ((forward []).resolve rule).outcome = .error (.emptyAction rule) := rfl

/-- Of several targets the first one without a weight is the one that is named. -/
theorem resolve_names_first (rule : String) {targets : List TargetReference}
    (lacking : (forward targets).LacksWeight) :
    ∃ first, targets.find? (·.weight.isNone) = some first ∧
      ((forward targets).resolve rule).outcome = .error (.missingWeight rule first.target) := by
  obtain ⟨many, unweighted⟩ := lacking
  obtain ⟨before, first, after, split, weighted, lacks, failed⟩ :=
    TargetReference.resolve_all_unweighted rule unweighted
  refine ⟨first, ?_, ?_⟩
  · apply List.find?_eq_some_iff_append.2
    refine ⟨Option.isNone_iff_eq_none.2 lacks, before, after, split, ?_⟩
    intro earlier member
    simpa using Option.isSome_iff_ne_none.2 (weighted earlier member)
  · cases targets with
    | nil => simp at many
    | cons head rest =>
        simp only [resolve, Traced.outcome_bind, many, decide_true, failed, Except.bind]

theorem resolve_of_lacks_weight (rule : String) {action : ActionSpec}
    (lacking : action.LacksWeight) :
    ∃ target, (action.resolve rule).outcome = .error (.missingWeight rule target) := by
  cases action with
  | respond status => exact lacking.elim
  | forward targets =>
      obtain ⟨first, _, failed⟩ := resolve_names_first rule lacking
      exact ⟨first.target, failed⟩

theorem resolve_eq_ok_iff {rule : String} {action : ActionSpec} {result : Action} :
    (action.resolve rule).outcome = .ok result ↔ action.Resolvable ∧ result = action.resolved := by
  constructor
  · intro accepted
    rcases action.resolvable_or_faulty with resolvable | rfl | lacking
    · rw [resolve_of_resolvable rule resolvable] at accepted
      exact ⟨resolvable, (Except.ok.inj accepted).symm⟩
    · rw [resolve_of_empty] at accepted
      cases accepted
    · rcases resolve_of_lacks_weight rule lacking with ⟨target, failed⟩
      rw [failed] at accepted
      cases accepted
  · intro resolves
    rcases resolves with ⟨resolvable, rfl⟩
    exact resolve_of_resolvable rule resolvable

/-- A resolved forward action has a target group. -/
theorem resolved_groups_nonempty {action : ActionSpec} (resolvable : action.Resolvable)
    {groups : List TargetGroup} (forwards : action.resolved = .forward groups) : groups ≠ [] := by
  cases action with
  | respond status => cases forwards
  | forward targets =>
      cases forwards
      simpa using resolvable.1

end ActionSpec

end MeshRouting

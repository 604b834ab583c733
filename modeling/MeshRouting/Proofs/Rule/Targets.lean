import MeshRouting.Proofs.Rule.Actions
import Mathlib.Data.List.Forall2

/-!
What becomes of a list of targets. Whether a target needs a weight depends on how many
targets there are, and which one is blamed depends on their order; so the list is looked at
as a whole. Nothing is added to it, dropped from it or moved in it.
-/

namespace MeshRouting

/-- The group has the name of the target and the weight that was given with it. A target
without a weight is kept only if it is alone, and then its weight is 100. -/
structure TargetReference.KeptAs (alone : Prop) (reference : TargetReference)
    (group : TargetGroup) : Prop where
  identifier : group.identifier = reference.target
  given : ∀ weight, reference.weight = some weight → group.weight = weight
  assumed : reference.weight = none → alone ∧ group.weight = 100

namespace ActionSpec

theorem targets_kept {targets : List TargetReference} (resolvable : (forward targets).Resolvable) :
    List.Forall₂ (TargetReference.KeptAs (targets.length = 1)) targets
      (targets.map TargetReference.group) := by
  rw [List.forall₂_map_right_iff, List.forall₂_same]
  intro reference member
  refine ⟨rfl, ?_, ?_⟩
  · intro weight given
    rw [TargetReference.group, given]
    rfl
  · intro unweighted
    refine ⟨?_, by rw [TargetReference.group, unweighted]; rfl⟩
    rcases resolvable.2 with alone | weighted
    · exact alone
    · exact absurd unweighted (weighted reference member)

/-- Where a target is not alone, nothing but its own weight can have been kept. -/
theorem weights_given {alone : Prop} {targets : List TargetReference} {groups : List TargetGroup}
    (kept : List.Forall₂ (TargetReference.KeptAs alone) targets groups) (several : ¬ alone) :
    List.Forall₂ (fun reference group => reference.weight = some group.weight) targets groups := by
  apply kept.imp
  intro reference group same
  cases weight : reference.weight with
  | none => exact absurd (same.assumed weight).1 several
  | some given => rw [same.given given weight]

/-- All that can become of a list of targets, with the conditions under which it does. -/
inductive Forwarded (rule : String) (targets : List TargetReference) :
    Except RuleError Action → Prop
  | groups (resolvable : (forward targets).Resolvable) :
      Forwarded rule targets (.ok (.forward (targets.map TargetReference.group)))
  | noTargets (empty : targets = []) : Forwarded rule targets (.error (.emptyAction rule))
  | noWeight {first : TargetReference} (lacking : (forward targets).LacksWeight)
      (found : targets.find? (·.weight.isNone) = some first) :
      Forwarded rule targets (.error (.missingWeight rule first.target))

theorem forwarded_outcome (rule : String) (targets : List TargetReference) :
    Forwarded rule targets ((forward targets).resolve rule).outcome := by
  rcases (forward targets).resolvable_or_faulty with resolvable | empty | lacking
  · rw [resolve_of_resolvable rule resolvable]
    exact .groups resolvable
  · cases empty
    rw [resolve_of_empty]
    exact .noTargets rfl
  · obtain ⟨first, found, failed⟩ := resolve_names_first rule lacking
    rw [failed]
    exact .noWeight lacking found

theorem resolvable_iff {targets : List TargetReference} : (forward targets).Resolvable ↔
    targets ≠ [] ∧ ¬ (forward targets).LacksWeight := by
  constructor
  · intro resolvable
    exact ⟨resolvable.1, fun lacking => not_resolvable_of_lacks_weight lacking resolvable⟩
  · rintro ⟨nonempty, weighted⟩
    rcases (forward targets).resolvable_or_faulty with resolvable | empty | lacking
    · exact resolvable
    · exact absurd (ActionSpec.forward.inj empty) nonempty
    · exact absurd lacking weighted

/-- A list of targets is refused if it is empty, or if it has several targets and one of
them has no weight; then the first such target is named. Any other list resolves, target by
target and in order, so that of several groups each has the weight its target was given. -/
theorem targets_resolve_in_order (rule : String) (targets : List TargetReference) :
    (∀ blamed, ((forward targets).resolve rule).outcome = .error (.emptyAction blamed) ↔
      targets = [] ∧ blamed = rule) ∧
    (∀ blamed target, ((forward targets).resolve rule).outcome =
        .error (.missingWeight blamed target) ↔
      (2 ≤ targets.length ∧ ∃ reference ∈ targets, reference.weight = none) ∧ blamed = rule ∧
        (targets.find? (·.weight.isNone)).map (·.target) = some target) ∧
    ((∃ action, ((forward targets).resolve rule).outcome = .ok action) ↔
      targets ≠ [] ∧ ¬ (2 ≤ targets.length ∧ ∃ reference ∈ targets, reference.weight = none)) ∧
    ∀ action, ((forward targets).resolve rule).outcome = .ok action →
      ∃ groups, action = .forward groups ∧ groups.length = targets.length ∧
        List.Forall₂ (TargetReference.KeptAs (targets.length = 1)) targets groups ∧
        (2 ≤ groups.length → List.Forall₂
          (fun reference group => reference.weight = some group.weight) targets groups) := by
  have forwarded := forwarded_outcome rule targets
  refine ⟨?_, ?_, ?_, ?_⟩
  · intro blamed
    constructor
    · intro refused
      rw [refused] at forwarded
      cases forwarded with
      | noTargets empty => exact ⟨empty, rfl⟩
    · rintro ⟨rfl, rfl⟩
      exact resolve_of_empty blamed
  · intro blamed target
    constructor
    · intro refused
      rw [refused] at forwarded
      cases forwarded with
      | noWeight lacking found => exact ⟨lacking, rfl, by rw [found]; rfl⟩
    · rintro ⟨lacking, rfl, named⟩
      obtain ⟨first, found, failed⟩ := resolve_names_first blamed lacking
      rw [found] at named
      cases named
      exact failed
  · refine Iff.trans ?_ resolvable_iff
    constructor
    · rintro ⟨action, resolved⟩
      exact (resolve_eq_ok_iff.1 resolved).1
    · intro resolvable
      exact ⟨_, resolve_of_resolvable rule resolvable⟩
  · intro action resolved
    rw [resolved] at forwarded
    cases forwarded with
    | groups resolvable =>
        have kept := targets_kept resolvable
        have size : (targets.map TargetReference.group).length = targets.length := List.length_map _
        refine ⟨_, rfl, size, kept, ?_⟩
        intro several
        exact weights_given kept (by omega)

def skewedTargets : List TargetReference :=
  [⟨"blue", some 0⟩, ⟨"green", some 250⟩, ⟨"blue", some 7⟩]

/-- The weights are kept as they are, nought and beyond a hundred, and so is the repeated
target; without its weight the second target would be named. -/
theorem skewed_targets_resolve :
    (∃ groups, ((forward skewedTargets).resolve "canary").outcome = .ok (.forward groups) ∧
      groups.length = 3 ∧ List.Forall₂
        (fun reference group => reference.weight = some group.weight) skewedTargets groups) ∧
    ((forward [⟨"blue", some 0⟩, ⟨"green", none⟩, ⟨"blue", none⟩]).resolve "canary").outcome =
      .error (.missingWeight "canary" "green") := by
  obtain ⟨_, _, accepted, kept⟩ := targets_resolve_in_order "canary" skewedTargets
  obtain ⟨action, resolved⟩ := accepted.2 ⟨by decide, by simp [skewedTargets]⟩
  obtain ⟨groups, rfl, size, _, given⟩ := kept action resolved
  refine ⟨⟨groups, resolved, size, given ?_⟩, ?_⟩
  · rw [size]
    decide
  · apply ((targets_resolve_in_order _ _).2.1 _ _).2
    exact ⟨⟨by decide, ⟨"green", none⟩, by simp, rfl⟩, rfl, rfl⟩

end ActionSpec

end MeshRouting

import MeshRouting.Proofs.Listener.Answers
import MeshRouting.Proofs.Rule.EvaluationOrder
import Mathlib

/-!
Additions that compete for priorities. Of the specs that want a priority the first valid
one gets it, and an invalid spec never holds it; so in whichever order specs are offered,
the same priorities are in use at the end. Which rules hold them depends on the order only
where two valid specs want the same priority.
-/

namespace MeshRouting

namespace RuleSpec

/-- The action resolves and the match can be built: all that a rule needs besides a
priority that is free. -/
structure Valid (spec : RuleSpec) : Prop where
  action : spec.action.Resolvable
  criterion : spec.matchSpec.WellFormed

/-- Two specs of which only one can be accepted. -/
structure Competes (spec other : RuleSpec) : Prop where
  valid : spec.Valid
  otherValid : other.Valid
  priority : spec.priority = other.priority

theorem competes_symm {spec other : RuleSpec} (competes : spec.Competes other) :
    other.Competes spec :=
  ⟨competes.otherValid, competes.valid, competes.priority.symm⟩

end RuleSpec

namespace RoutingTable

variable {listener : Listener} {table : RoutingTable} {spec : RuleSpec}

/-- How many of the specs are rejected when they are offered in order. -/
def rejections (table : RoutingTable) (specs : List RuleSpec) : Nat :=
  (table.answers (specs.map .add)).countP fun answer => !answer.isOk

theorem to_option_eq_of_ok_iff {first second : Except RuleError Rule}
    (same : ∀ rule, first = .ok rule ↔ second = .ok rule) : first.toOption = second.toOption := by
  cases first with
  | ok rule => rw [(same rule).1 rfl]
  | error error =>
      cases second with
      | ok rule => exact absurd ((same rule).2 rfl) (by simp)
      | error other => rfl

theorem add_exists_iff (table : RoutingTable) (spec : RuleSpec) :
    (∃ rule, (table.add spec).outcome = .ok rule) ↔
      spec.priority ∉ table.rules.priorities ∧ spec.Valid := by
  rw [add_outcome, RuleSpec.compile_exists_iff, RuleSet.contains_priority_eq_false_iff]
  constructor
  · intro accepted
    obtain ⟨free, action, criterion⟩ := accepted
    exact ⟨free, action, criterion⟩
  · intro accepted
    obtain ⟨free, valid⟩ := accepted
    exact ⟨free, valid.action, valid.criterion⟩

/-- A spec that is rejected puts no priority in use that was not in use before, even if it
is valid: then its priority was taken. -/
theorem add_priorities (table : RoutingTable) (spec : RuleSpec) (priority : UInt32) :
    priority ∈ (table.add spec).table.rules.priorities ↔
      priority ∈ table.rules.priorities ∨ (spec.priority = priority ∧ spec.Valid) := by
  cases outcome : (table.add spec).outcome with
  | ok rule =>
      have valid := ((table.add_exists_iff spec).1 ⟨rule, outcome⟩).2
      have same : rule.priority = spec.priority := (realizes_of_add outcome).2.priority
      rw [add_table_of_ok outcome]
      change priority ∈ RuleSet.insertPriority rule.priority table.rules.priorities ↔ _
      rw [RuleSet.mem_insert_priority_iff, same, @eq_comm _ priority, or_comm]
      simp only [valid, and_true]
  | error error =>
      rw [add_table_of_error outcome]
      refine ⟨.inl, ?_⟩
      intro used
      obtain old | ⟨rfl, valid⟩ := used
      · exact old
      · by_contra free
        obtain ⟨rule, accepted⟩ := (table.add_exists_iff spec).2 ⟨free, valid⟩
        rw [outcome] at accepted
        cases accepted

theorem offer_all_in_use_iff (table : RoutingTable) (specs : List RuleSpec)
    (priority : UInt32) :
    priority ∈ (table.offerAll specs).rules.priorities ↔
      priority ∈ table.rules.priorities ∨
        ∃ spec ∈ specs, spec.priority = priority ∧ spec.Valid := by
  induction specs generalizing table with
  | nil => simp [offerAll]
  | cons spec rest induction =>
      rw [offer_all_cons, induction, add_priorities, or_assoc]
      simp only [List.mem_cons, or_and_right, exists_or, exists_eq_left]

theorem rejections_cons (table : RoutingTable) (spec : RuleSpec) (rest : List RuleSpec) :
    table.rejections (spec :: rest) = (table.add spec).table.rejections rest +
      if (table.add spec).outcome.isOk then 0 else 1 := by
  rw [rejections, List.map_cons, answers_cons, List.countP_cons]
  cases outcome : (table.add spec).outcome <;>
    simp [rejections, Call.offer, outcome, Except.toBool]

theorem size_commit (table : RoutingTable) (rule : Rule) :
    (table.commit rule).size = table.size + 1 := by
  simp [size, RuleSet.size, commit, RuleSet.commit]

/-- Every spec that is offered becomes a rule or counts as rejected. -/
theorem offer_all_size (table : RoutingTable) (specs : List RuleSpec) :
    (table.offerAll specs).size + table.rejections specs = table.size + specs.length := by
  induction specs generalizing table with
  | nil => rfl
  | cons spec rest induction =>
      have later := induction (table.add spec).table
      rw [offer_all_cons, rejections_cons, List.length_cons]
      cases outcome : (table.add spec).outcome with
      | ok rule =>
          rw [add_table_of_ok outcome] at later ⊢
          rw [size_commit] at later
          simp only [Except.isOk, Except.toBool, if_true]
          omega
      | error error =>
          rw [add_table_of_error outcome] at later ⊢
          simp only [Except.isOk, Except.toBool, Bool.false_eq_true, if_false]
          omega

/-- A spec that competes with none of those before it is accepted after them as if it came
alone, and gives the same rule. -/
theorem add_of_no_competitor (table : RoutingTable) {before : List RuleSpec} {spec : RuleSpec}
    (alone : ∀ earlier ∈ before, ¬ earlier.Competes spec) (rule : Rule) :
    ((table.offerAll before).add spec).outcome = .ok rule ↔
      (table.add spec).outcome = .ok rule := by
  rw [add_outcome, add_outcome, RuleSpec.compile_eq_ok_iff, RuleSpec.compile_eq_ok_iff,
    RuleSet.contains_priority_eq_false_iff, RuleSet.contains_priority_eq_false_iff,
    offer_all_in_use_iff, not_or]
  constructor
  · intro accepted
    obtain ⟨⟨free, _⟩, resolvable, realizes⟩ := accepted
    exact ⟨free, resolvable, realizes⟩
  · intro accepted
    obtain ⟨free, resolvable, realizes⟩ := accepted
    refine ⟨⟨free, ?_⟩, resolvable, realizes⟩
    intro taken
    obtain ⟨earlier, member, same, valid⟩ := taken
    have wellFormed := (MatchSpec.build_exists_iff _).1 ⟨rule.criterion, realizes.criterion⟩
    exact alone earlier member ⟨valid, ⟨resolvable, wellFormed⟩, same⟩

/-- No two of the specs want the same priority, invalid ones apart. -/
def Uncontested (specs : List RuleSpec) : Prop :=
  specs.Pairwise fun earlier later => ¬ earlier.Competes later

theorem uncontested_of_perm {specs others : List RuleSpec} (rearranged : specs.Perm others)
    (uncontested : Uncontested specs) : Uncontested others := by
  refine (rearranged.pairwise_iff ?_).1 uncontested
  intro first second apart competes
  exact apart (RuleSpec.competes_symm competes)

theorem earlier_apart {before after : List RuleSpec} {spec : RuleSpec}
    (uncontested : Uncontested (before ++ spec :: after)) :
    ∀ earlier ∈ before, ¬ earlier.Competes spec := by
  intro earlier member
  exact (List.pairwise_append.1 uncontested).2.2 earlier member spec List.mem_cons_self

/-- Without competition every spec is judged by the table at the start, and so the order
of the specs is only that of the rules. -/
theorem committed_of_uncontested {specs : List RuleSpec} (uncontested : Uncontested specs) :
    (table.commits specs).map (·.2) =
      specs.filterMap fun spec => (table.add spec).outcome.toOption := by
  induction specs generalizing table with
  | nil => rfl
  | cons spec rest induction =>
      obtain ⟨apart, others⟩ := List.pairwise_cons.1 uncontested
      have later := @induction (table.add spec).table others
      have judged : (rest.filterMap fun next => ((table.add spec).table.add next).outcome.toOption) =
          rest.filterMap fun next => (table.add next).outcome.toOption := by
        apply List.filterMap_congr
        intro next member
        apply to_option_eq_of_ok_iff
        refine @add_of_no_competitor table [spec] next ?_
        simpa using apart next member
      rw [judged] at later
      rw [List.filterMap_cons]
      cases outcome : (table.add spec).outcome with
      | ok rule =>
          rw [add_table_of_ok outcome] at later
          rw [commits_of_ok outcome, List.map_cons, later]
          rfl
      | error error =>
          rw [add_table_of_error outcome] at later
          rw [commits_of_error outcome, later]
          rfl

/-- Specs offered in two orders. The same priorities are in use at the end, by as many
rules, and as many specs are rejected; without competition it is the same specs that are
accepted, with the same rules in the same order of evaluation. One order may be any
interleaving of the lists of several callers and the other one those lists in turn. -/
theorem competition_settles_alike (listener : Listener) (table : RoutingTable)
    (reached : Reachable listener table) (specs others : List RuleSpec)
    (rearranged : specs.Perm others) :
    (∀ priority, (table.offerAll specs).rules.containsPriority priority = true ↔
      table.rules.containsPriority priority = true ∨
        ∃ spec ∈ specs, spec.priority = priority ∧ spec.Valid) ∧
    (table.offerAll others).rules.priorities = (table.offerAll specs).rules.priorities ∧
    (table.offerAll others).size = (table.offerAll specs).size ∧
    table.rejections others = table.rejections specs ∧
    (Uncontested specs →
      (∀ spec before after before' after', specs = before ++ spec :: after →
        others = before' ++ spec :: after' → ∀ rule,
          ((table.offerAll before).add spec).outcome = .ok rule ↔
            ((table.offerAll before').add spec).outcome = .ok rule) ∧
      (table.offerAll others).rules.evaluationOrder =
        (table.offerAll specs).rules.evaluationOrder) := by
  have index := (sound_of_reachable (reachable_offer_all specs reached)).index
  have otherIndex := (sound_of_reachable (reachable_offer_all others reached)).index
  have priorities : (table.offerAll others).rules.priorities =
      (table.offerAll specs).rules.priorities := by
    apply RuleSet.priorities_eq_of_mem_iff otherIndex index
    intro priority
    rw [offer_all_in_use_iff, offer_all_in_use_iff]
    simp only [rearranged.mem_iff]
  have size : (table.offerAll others).size = (table.offerAll specs).size := by
    have counted := otherIndex.length_eq
    rw [priorities, index.length_eq] at counted
    exact counted.symm
  refine ⟨?_, priorities, size, ?_, ?_⟩
  · intro priority
    rw [RuleSet.contains_priority_iff, RuleSet.contains_priority_iff, offer_all_in_use_iff]
  · have total := table.offer_all_size specs
    have otherTotal := table.offer_all_size others
    have length := rearranged.length_eq
    omega
  · intro uncontested
    have otherUncontested := uncontested_of_perm rearranged uncontested
    constructor
    · rintro spec before after before' after' rfl rfl rule
      rw [add_of_no_competitor table (earlier_apart uncontested),
        add_of_no_competitor table (earlier_apart otherUncontested)]
    · refine (RuleSet.evaluation_order_eq_of_perm index ?_).symm
      rw [offer_all_rules, offer_all_rules, committed_of_uncontested uncontested,
        committed_of_uncontested otherUncontested]
      exact (rearranged.filterMap _).append_left _

/-- The first of these specs wants the priority of the second one, but is not valid. -/
def rivals : List RuleSpec := [clashSpec, readsSpec, pageSpec]

theorem rivals_settle_alike :
    Reachable plainListener plainTable ∧ Uncontested rivals ∧
    (plainTable.offerAll rivals.reverse).rules.priorities = [3, 7] ∧
    plainTable.rejections rivals.reverse = 1 ∧
    (plainTable.offerAll rivals.reverse).rules.evaluationOrder.map (·.name) =
      ["page", "reads"] := by
  have reached : Reachable plainListener plainTable := .created rfl
  have uncontested : Uncontested rivals := by
    have invalid (other : RuleSpec) : ¬ clashSpec.Competes other :=
      fun competes => competes.valid.action.1 rfl
    refine .cons (fun other _ => invalid other) (.cons ?_ (List.pairwise_singleton _ _))
    intro other member competes
    rw [List.mem_singleton.1 member] at competes
    exact absurd competes.priority (by decide)
  obtain ⟨_, priorities, _, rejections, settled⟩ := competition_settles_alike plainListener
    plainTable reached rivals rivals.reverse (List.reverse_perm rivals).symm
  refine ⟨reached, uncontested, priorities.trans rfl, rejections.trans rfl, ?_⟩
  rw [(settled uncontested).2]
  cbv

end RoutingTable

end MeshRouting

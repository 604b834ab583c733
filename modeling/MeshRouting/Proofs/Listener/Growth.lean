import MeshRouting.Proofs.Json.Access
import MeshRouting.Proofs.Listener.Erasure
import MeshRouting.Proofs.Rule.EvaluationOrder
import Mathlib

/-!
Tables only grow. What a table has it keeps, at the place where it is in every view of it;
and its decisions stand. A spec that is rejected is never accepted later, and whether its
error changes depends on nothing but whether its priority has been taken since.
-/

namespace MeshRouting

namespace RuleSet

/-- A rule that is found by its name is found before all rules that come after it. -/
theorem get_of_prefix {set later : RuleSet} (grown : set.rules <+: later.rules) {name : String}
    {rule : Rule} (found : set.get? name = some rule) : later.get? name = some rule := by
  obtain ⟨others, same⟩ := grown
  rw [get?] at found ⊢
  rw [← same, List.find?_append, found, Option.some_or]

end RuleSet

namespace RoutingTable

variable {listener : Listener} {table later last : RoutingTable} {spec : RuleSpec}
  {rule : Rule} {error : RuleError}

/-- The later table is the same one with more rules at the end. -/
structure Extends (table later : RoutingTable) : Prop where
  listener : later.listener = table.listener
  rules : table.rules.rules <+: later.rules.rules
  priorities : table.rules.priorities ⊆ later.rules.priorities
  order : table.rules.evaluationOrder.Sublist later.rules.evaluationOrder

theorem extends_refl (table : RoutingTable) : table.Extends table :=
  ⟨rfl, List.prefix_refl _, List.Subset.refl _, List.Sublist.refl _⟩

theorem extends_trans (first : table.Extends later) (second : later.Extends last) :
    table.Extends last :=
  ⟨second.listener.trans first.listener, first.rules.trans second.rules,
    List.Subset.trans first.priorities second.priorities, first.order.trans second.order⟩

theorem extends_commit (indexed : table.rules.Indexed)
    (free : rule.priority ∉ table.rules.priorities) : table.Extends (table.commit rule) := by
  refine ⟨rfl, List.prefix_append _ _, ?_, RuleSet.evaluation_order_sublist_commit indexed free⟩
  intro priority used
  exact RuleSet.mem_insert_priority_iff.2 (.inr used)

theorem extends_call (reached : Reachable listener table) (call : Call) :
    table.Extends (call.offer table).table := by
  rw [Call.offer_eq_add]
  cases outcome : (table.add call.spec).outcome with
  | error error =>
      rw [add_table_of_error outcome]
      exact table.extends_refl
  | ok rule =>
      rw [add_table_of_ok outcome]
      exact extends_commit (sound_of_reachable reached).index (free_of_add outcome)

theorem extends_call_all (reached : Reachable listener table) (calls : List Call) :
    table.Extends (table.callAll calls) := by
  induction calls generalizing table with
  | nil => exact table.extends_refl
  | cons call rest induction =>
      exact extends_trans (extends_call reached call) (induction (.called call reached))

/-- The rules of a definition stand in the order of the table. -/
theorem definition_rules (table : RoutingTable) :
    table.definition.items? "rules" =
      some (table.rules.rules.map (·.definition table.identifier)) := rfl

theorem definition_rules_prefix (grown : table.Extends later) :
    ∃ items laterItems, table.definition.items? "rules" = some items ∧
      later.definition.items? "rules" = some laterItems ∧ items <+: laterItems := by
  have identifier : later.identifier = table.identifier := congrArg Listener.identifier grown.listener
  refine ⟨_, _, table.definition_rules, later.definition_rules, ?_⟩
  rw [identifier]
  exact grown.rules.map _

/-- The one thing that a decision takes from the table is whether the priority is in use. -/
theorem add_outcome_congr
    (same : spec.priority ∈ table.rules.priorities ↔ spec.priority ∈ later.rules.priorities) :
    (later.add spec).outcome = (table.add spec).outcome := by
  rw [add_outcome, add_outcome]
  by_cases used : spec.priority ∈ table.rules.priorities
  · rw [RuleSpec.compile_of_taken ((RuleSet.contains_priority_iff _ _).2 used),
      RuleSpec.compile_of_taken ((RuleSet.contains_priority_iff _ _).2 (same.1 used))]
  · have unused := fun taken => used (same.2 taken)
    rw [RuleSpec.compile_of_free ((RuleSet.contains_priority_eq_false_iff _ _).2 used),
      RuleSpec.compile_of_free ((RuleSet.contains_priority_eq_false_iff _ _).2 unused)]

theorem add_of_used (used : spec.priority ∈ table.rules.priorities) :
    (table.add spec).outcome = .error (.duplicatePriority spec.name spec.priority) := by
  rw [add_outcome, RuleSpec.compile_of_taken ((RuleSet.contains_priority_iff _ _).2 used)]

/-- The error of a priority that is in use arises from nothing else. -/
theorem used_of_duplicate {name : String} {priority : UInt32}
    (rejected : (table.add spec).outcome = .error (.duplicatePriority name priority)) :
    spec.priority ∈ table.rules.priorities := by
  have compiled := spec.compiled_outcome table.rules
  rw [← add_outcome, rejected] at compiled
  cases compiled with
  | taken taken => exact (RuleSet.contains_priority_iff _ _).1 taken

/-- A rejection stands, with its error, as long as the priority is not taken in between. -/
theorem rejection_stands (grown : table.Extends later)
    (rejected : (table.add spec).outcome = .error error) :
    (later.add spec).outcome = .error
      (if spec.priority ∉ table.rules.priorities ∧ spec.priority ∈ later.rules.priorities then
        .duplicatePriority spec.name spec.priority
      else error) := by
  split_ifs with taken
  · exact add_of_used taken.2
  · rw [← rejected]
    apply add_outcome_congr
    constructor
    · intro used
      exact grown.priorities used
    · intro used
      by_contra free
      exact taken ⟨free, used⟩

theorem duplicate_stands (grown : table.Extends later) {name : String} {priority : UInt32}
    (rejected : (table.add spec).outcome = .error (.duplicatePriority name priority)) :
    (later.add spec).outcome = .error (.duplicatePriority name priority) := by
  have used := used_of_duplicate rejected
  rw [← rejected]
  exact add_outcome_congr ⟨fun _ => grown.priorities used, fun _ => used⟩

theorem used_of_accepted {call : Call} (accepted : (call.offer table).outcome = .ok rule) :
    call.spec.priority ∈ (call.offer table).table.rules.priorities := by
  rw [Call.offer_eq_add] at accepted ⊢
  rw [add_table_of_ok accepted]
  exact RuleSet.mem_insert_priority_iff.2 (.inl (realizes_of_add accepted).2.priority.symm)

/-- Of two tables of one run the later one has all that the earlier one has: the same rules
in front, the same priorities, the same rule under a name, the same definitions in front
and the same order of evaluation. A rejected spec stays rejected, and only for its priority
with another error; an accepted one is not accepted again. -/
theorem decisions_stand (listener : Listener) (table : RoutingTable)
    (reached : Reachable listener table) (calls : List Call) :
    table.Extends (table.callAll calls) ∧
    (∀ name rule, table.rules.get? name = some rule →
      (table.callAll calls).rules.get? name = some rule) ∧
    (∃ items laterItems, table.definition.items? "rules" = some items ∧
      (table.callAll calls).definition.items? "rules" = some laterItems ∧ items <+: laterItems) ∧
    (∀ spec error, (table.add spec).outcome = .error error →
      ((table.callAll calls).add spec).outcome = .error
        (if spec.priority ∉ table.rules.priorities ∧
            spec.priority ∈ (table.callAll calls).rules.priorities then
          .duplicatePriority spec.name spec.priority
        else error)) ∧
    (∀ spec name priority, (table.add spec).outcome = .error (.duplicatePriority name priority) →
      ((table.callAll calls).add spec).outcome = .error (.duplicatePriority name priority)) ∧
    ∀ (call : Call) (rule : Rule), (call.offer table).outcome = .ok rule →
      (((call.offer table).table.callAll calls).add call.spec).outcome =
        .error (.duplicatePriority call.spec.name call.spec.priority) := by
  have grown := extends_call_all reached calls
  refine ⟨grown, ?_, definition_rules_prefix grown, ?_, ?_, ?_⟩
  · intro name rule found
    exact RuleSet.get_of_prefix grown.rules found
  · intro spec error rejected
    exact rejection_stands grown rejected
  · intro spec name priority rejected
    exact duplicate_stands grown rejected
  · intro call rule accepted
    have after := extends_call_all (.called call reached) calls
    exact add_of_used (after.priorities (used_of_accepted accepted))

/-- The spec has no target, and its priority is taken by the second of the calls. -/
def targetlessSpec : RuleSpec := .ofCalls "none" 3 [.method "get"]

theorem targetless_spec_stays_rejected :
    Reachable plainListener (plainTable.callAll [.add readsSpec]) ∧
    ((plainTable.callAll [.add readsSpec]).add targetlessSpec).outcome =
      .error (.emptyAction "none") ∧
    ((plainTable.callAll mixedCalls).add targetlessSpec).outcome =
      .error (.duplicatePriority "none" 3) ∧
    (plainTable.callAll mixedCalls).rules.get? "reads" =
      (plainTable.callAll [.add readsSpec]).rules.get? "reads" ∧
    ((plainTable.callAll mixedCalls).add readsSpec).outcome =
      .error (.duplicatePriority "reads" 7) := by
  have reached : Reachable plainListener (plainTable.callAll [.add readsSpec]) :=
    reachable_call_all _ (.created rfl)
  have rejected : ((plainTable.callAll [.add readsSpec]).add targetlessSpec).outcome =
      .error (.emptyAction "none") := rfl
  obtain ⟨_, names, _, rejections, _, _⟩ :=
    decisions_stand plainListener _ reached mixedCalls.tail
  obtain ⟨_, _, _, _, _, accepted⟩ :=
    decisions_stand plainListener plainTable (.created rfl) mixedCalls.tail
  refine ⟨reached, rejected, rejections targetlessSpec _ rejected, ?_, ?_⟩
  · exact names "reads" _ rfl
  · exact accepted (.add readsSpec) _ rfl

end RoutingTable

end MeshRouting

import MeshRouting.Proofs.Listener.Reachable
import MeshRouting.Proofs.Rule.EvaluationOrder

/-!
The order in which the rules of a table are tried. In any table that calls lead to there is
one strictly ascending arrangement of the rules, and the index lists its priorities. A rule
that is accepted goes to the end of the rules and, among those that are tried, to the place
that the index gives it.
-/

namespace MeshRouting.RoutingTable

variable {listener : Listener} {table : RoutingTable} {rule : Rule}

/-- How many of the priorities in use are below this one. -/
def rank (table : RoutingTable) (priority : UInt32) : Nat :=
  table.rules.priorities.countP (· < priority)

theorem rank_le_size (indexed : table.rules.Indexed) (priority : UInt32) :
    table.rank priority ≤ table.size := by
  rw [size, ← indexed.length_eq]
  exact List.countP_le_length

/-- What becomes of the two lists of rules when one is committed under a free priority. The
rank is an index of the order or its end, so nothing is inserted out of range. -/
structure Inserted (table later : RoutingTable) (rule : Rule) : Prop where
  rules : later.rules.rules = table.rules.rules ++ [rule]
  inRange : table.rank rule.priority ≤ table.rules.evaluationOrder.length
  order : later.rules.evaluationOrder =
    table.rules.evaluationOrder.insertIdx (table.rank rule.priority) rule

theorem inserted_commit (indexed : table.rules.Indexed)
    (free : rule.priority ∉ table.rules.priorities) : table.Inserted (table.commit rule) rule := by
  have counted : table.rules.evaluationOrder.length = table.size :=
    table.rules.evaluation_order_perm.length_eq
  refine ⟨rfl, ?_, RuleSet.evaluation_order_commit_insert_idx indexed free⟩
  rw [counted]
  exact rank_le_size indexed rule.priority

theorem inserted_of_accepted (reached : Reachable listener table) {call : Call}
    (accepted : (call.offer table).outcome = .ok rule) :
    rule.Realizes call.spec ∧ table.Inserted (call.offer table).table rule := by
  rw [Call.offer_eq_add] at accepted ⊢
  rw [add_table_of_ok accepted]
  exact ⟨(realizes_of_add accepted).2,
    inserted_commit (sound_of_reachable reached).index (free_of_add accepted)⟩

/-- The rules of a table that calls lead to, in the order in which they are tried: the one
strictly ascending arrangement of them, with the priorities of the index one by one. A call
that is accepted puts its rule at the end of the rules, and in this order behind as many
others as have a lower priority, with those before and behind it as they were. -/
theorem rules_tried_in_order (listener : Listener) (table : RoutingTable)
    (reached : Reachable listener table) :
    (∀ order : List Rule, order = table.rules.evaluationOrder ↔
      order.Perm table.rules.rules ∧ order.Pairwise fun a b => a.priority < b.priority) ∧
    table.rules.evaluationOrder.map (·.priority) = table.rules.priorities ∧
    ∀ (call : Call) (rule : Rule), (call.offer table).outcome = .ok rule →
      rule.Realizes call.spec ∧ table.Inserted (call.offer table).table rule := by
  have index := (sound_of_reachable reached).index
  refine ⟨?_, RuleSet.evaluation_order_priorities index, ?_⟩
  · intro order
    exact RuleSet.eq_evaluation_order_iff index
  · intro call rule accepted
    exact inserted_of_accepted reached accepted

/-- A rule between the two of the mixed table, which stand there in the other order. -/
def middleSpec : RuleSpec := ⟨"middle", 5, .respond 204, ⟨some "PUT", none, none, .empty⟩⟩

theorem middle_rule_steps_between :
    Reachable plainListener mixedTable ∧
    (∃ rule, ((Call.add middleSpec).offer mixedTable).outcome = .ok rule ∧
      mixedTable.rank rule.priority = 1) ∧
    ((Call.add middleSpec).offer mixedTable).table.rules.rules.map (·.name) =
      ["reads", "page", "middle"] ∧
    ((Call.add middleSpec).offer mixedTable).table.rules.evaluationOrder.map (·.name) =
      ["page", "middle", "reads"] := by
  have reached : Reachable plainListener mixedTable :=
    .called _ (.called _ (.called _ (.created rfl)))
  obtain ⟨arranged, _, insertion⟩ := rules_tried_in_order plainListener mixedTable reached
  have order : mixedTable.rules.rules.reverse = mixedTable.rules.evaluationOrder :=
    (arranged _).2 ⟨List.reverse_perm _, by decide⟩
  have accepted : ((Call.add middleSpec).offer mixedTable).outcome =
      .ok ⟨"middle", 5, .respond 204, .method .put⟩ := rfl
  obtain ⟨_, inserted⟩ := insertion (.add middleSpec) _ accepted
  refine ⟨reached, ⟨_, accepted, rfl⟩, ?_, ?_⟩
  · rw [inserted.rules]
    rfl
  · rw [inserted.order, ← order]
    rfl

end MeshRouting.RoutingTable

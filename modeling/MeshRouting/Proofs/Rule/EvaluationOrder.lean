import MeshRouting.Proofs.Rule.Index
import Mathlib.Data.List.Sort

/-!
The order in which rules are tried. As long as no two rules have the same priority, the
order depends on which rules there are, and not on when they were committed; and a rule
that is committed later only steps between the others.
-/

namespace MeshRouting.RuleSet

variable {set other : RuleSet} {rule : Rule}

theorem evaluation_order_perm (set : RuleSet) : set.evaluationOrder.Perm set.rules :=
  List.mergeSort_perm set.rules _

theorem evaluation_order_ascending (set : RuleSet) :
    set.evaluationOrder.Pairwise fun a b => a.priority ≤ b.priority := by
  have transitive (a b c : Rule) (first : decide (a.priority ≤ b.priority) = true)
      (second : decide (b.priority ≤ c.priority) = true) :
      decide (a.priority ≤ c.priority) = true := by
    rw [decide_eq_true_eq] at first second ⊢
    exact UInt32.le_trans first second
  have total (a b : Rule) :
      (decide (a.priority ≤ b.priority) || decide (b.priority ≤ a.priority)) = true := by
    rw [Bool.or_eq_true, decide_eq_true_eq, decide_eq_true_eq]
    exact UInt32.le_total a.priority b.priority
  have ascending := List.pairwise_mergeSort transitive total set.rules
  exact ascending.imp fun below => of_decide_eq_true below

/-- Two rules with the same priority are one rule, so there is only one ascending order. -/
theorem eq_evaluation_order (indexed : set.Indexed) {order : List Rule}
    (perm : order.Perm set.rules) (ascending : order.Pairwise fun a b => a.priority ≤ b.priority) :
    order = set.evaluationOrder := by
  have same : order.Perm set.evaluationOrder := perm.trans set.evaluation_order_perm.symm
  refine List.Perm.eq_of_pairwise ?_ ascending set.evaluation_order_ascending same
  intro first second member another below above
  have inFirst := perm.mem_iff.1 member
  have inSecond := set.evaluation_order_perm.mem_iff.1 another
  exact rule_eq_of_priority_eq indexed inFirst inSecond (UInt32.le_antisymm below above)

/-- No two rules have the same priority, so none stands beside one of its own. -/
theorem evaluation_order_strict (indexed : set.Indexed) :
    set.evaluationOrder.Pairwise fun a b => a.priority < b.priority := by
  have distinct : (set.evaluationOrder.map (·.priority)).Nodup :=
    (set.evaluation_order_perm.map _).nodup_iff.2 indexed.distinct
  have apart := List.pairwise_map.1 distinct
  exact set.evaluation_order_ascending.imp₂ (fun _ _ => UInt32.lt_of_le_of_ne) apart

theorem eq_evaluation_order_iff (indexed : set.Indexed) {order : List Rule} :
    order = set.evaluationOrder ↔
      order.Perm set.rules ∧ order.Pairwise fun a b => a.priority < b.priority := by
  constructor
  · rintro rfl
    exact ⟨set.evaluation_order_perm, evaluation_order_strict indexed⟩
  · intro arranged
    obtain ⟨perm, strict⟩ := arranged
    exact eq_evaluation_order indexed perm (strict.imp UInt32.le_of_lt)

/-- The index lists the priorities in the order in which their rules are tried. -/
theorem evaluation_order_priorities (indexed : set.Indexed) :
    set.evaluationOrder.map (·.priority) = set.priorities := by
  have strict : (set.evaluationOrder.map (·.priority)).Pairwise (· < ·) :=
    List.pairwise_map.2 (evaluation_order_strict indexed)
  have perm := (set.evaluation_order_perm.map (·.priority)).trans indexed.priorities_perm.symm
  exact ascending_eq_of_perm strict indexed.ascending perm

theorem evaluation_order_eq_of_perm (indexed : set.Indexed) (same : set.rules.Perm other.rules) :
    set.evaluationOrder = other.evaluationOrder :=
  (eq_evaluation_order indexed (other.evaluation_order_perm.trans same.symm)
    other.evaluation_order_ascending).symm

/-- The rules that are tried before those of this priority, and the rules tried after them. -/
def before (set : RuleSet) (priority : UInt32) : List Rule :=
  set.evaluationOrder.filter (·.priority < priority)

def after (set : RuleSet) (priority : UInt32) : List Rule :=
  set.evaluationOrder.filter fun rule => !decide (rule.priority < priority)

theorem before_append_after_perm (set : RuleSet) (priority : UInt32) :
    (set.before priority ++ set.after priority).Perm set.rules :=
  (List.filter_append_perm _ _).trans set.evaluation_order_perm

/-- Only rules that are tried later come after a rule of this priority. -/
theorem before_cons_after_ascending (set : RuleSet) (rule : Rule) :
    (set.before rule.priority ++ rule :: set.after rule.priority).Pairwise
      fun a b => a.priority ≤ b.priority := by
  have sorted := set.evaluation_order_ascending
  have earlier : ∀ other ∈ set.before rule.priority, other.priority < rule.priority := by
    intro other member
    exact of_decide_eq_true (List.mem_filter.1 member).2
  have later : ∀ other ∈ set.after rule.priority, rule.priority ≤ other.priority := by
    intro other member
    have notBelow := (List.mem_filter.1 member).2
    rw [Bool.not_eq_true', decide_eq_false_iff_not, UInt32.not_lt] at notBelow
    exact notBelow
  refine List.pairwise_append.2 ⟨sorted.filter _, List.pairwise_cons.2 ⟨later, sorted.filter _⟩, ?_⟩
  intro first member second another
  have below := UInt32.le_of_lt (earlier first member)
  rcases List.mem_cons.1 another with rfl | another
  · exact below
  · exact UInt32.le_trans below (later second another)

theorem evaluation_order_split (indexed : set.Indexed) (rule : Rule) :
    set.evaluationOrder = set.before rule.priority ++ set.after rule.priority := by
  have ascending := (set.before_cons_after_ascending rule).sublist
    (List.Sublist.append_left (List.sublist_cons_self rule _) _)
  exact (eq_evaluation_order indexed (set.before_append_after_perm rule.priority) ascending).symm

/-- A rule that is committed takes its place among the others and moves none of them. -/
theorem evaluation_order_commit (indexed : set.Indexed) (free : rule.priority ∉ set.priorities) :
    (set.commit rule).evaluationOrder =
      set.before rule.priority ++ rule :: set.after rule.priority := by
  have perm : (set.before rule.priority ++ rule :: set.after rule.priority).Perm
      (set.commit rule).rules := by
    have moved := (set.before_append_after_perm rule.priority).cons rule
    exact List.perm_middle.trans (moved.trans (List.perm_append_singleton rule set.rules).symm)
  exact (eq_evaluation_order (indexed_commit indexed free) perm
    (set.before_cons_after_ascending rule)).symm

/-- As many rules are tried before a priority as there are lower priorities in use. -/
theorem length_before (indexed : set.Indexed) (priority : UInt32) :
    (set.before priority).length = set.priorities.countP (· < priority) := by
  rw [← evaluation_order_priorities indexed, List.countP_map, before,
    List.countP_eq_length_filter]
  rfl

theorem insert_idx_between (before after : List Rule) (rule : Rule) :
    (before ++ after).insertIdx before.length rule = before ++ rule :: after := by
  induction before with
  | nil => rfl
  | cons first rest induction =>
      rw [List.cons_append, List.length_cons, List.insertIdx_succ_cons, induction, List.cons_append]

theorem evaluation_order_commit_insert_idx (indexed : set.Indexed)
    (free : rule.priority ∉ set.priorities) :
    (set.commit rule).evaluationOrder =
      set.evaluationOrder.insertIdx (set.priorities.countP (· < rule.priority)) rule := by
  rw [evaluation_order_commit indexed free, evaluation_order_split indexed rule,
    ← length_before indexed, insert_idx_between]

theorem evaluation_order_sublist_commit (indexed : set.Indexed)
    (free : rule.priority ∉ set.priorities) :
    set.evaluationOrder.Sublist (set.commit rule).evaluationOrder := by
  rw [evaluation_order_commit indexed free, evaluation_order_split indexed rule]
  exact List.Sublist.append_left (List.sublist_cons_self rule _) _

end MeshRouting.RuleSet

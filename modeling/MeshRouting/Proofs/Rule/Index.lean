import MeshRouting.Rule.RuleSet
import Mathlib.Data.List.Nodup
import Mathlib.Data.List.Perm.Basic

/-!
The index of priorities beside the rules. The two are updated separately, and agree as
long as nothing is committed under a priority that is in use.
-/

namespace MeshRouting.RuleSet

variable {set : RuleSet} {rule : Rule}

theorem contains_priority_iff (set : RuleSet) (priority : UInt32) :
    set.containsPriority priority = true ↔ priority ∈ set.priorities := by
  simp [containsPriority]

theorem contains_priority_eq_false_iff (set : RuleSet) (priority : UInt32) :
    set.containsPriority priority = false ↔ priority ∉ set.priorities := by
  simp [containsPriority]

theorem mem_insert_priority_iff {priority other : UInt32} {index : List UInt32} :
    other ∈ insertPriority priority index ↔ other = priority ∨ other ∈ index := by
  induction index with
  | nil => simp [insertPriority]
  | cons first rest induction =>
      rw [insertPriority]
      split_ifs with below equal
      · simp
      · simp [equal]
      · rw [List.mem_cons, induction, List.mem_cons]
        tauto

theorem insert_priority_ascending {priority : UInt32} {index : List UInt32}
    (ascending : index.Pairwise (· < ·)) : (insertPriority priority index).Pairwise (· < ·) := by
  induction index with
  | nil => simp [insertPriority]
  | cons first rest induction =>
      rcases List.pairwise_cons.1 ascending with ⟨above, others⟩
      rw [insertPriority]
      split_ifs with below equal
      · refine List.pairwise_cons.2 ⟨?_, ascending⟩
        intro other member
        rcases List.mem_cons.1 member with rfl | member
        · exact below
        · exact UInt32.lt_trans below (above other member)
      · exact ascending
      · refine List.pairwise_cons.2 ⟨?_, induction others⟩
        intro other member
        rcases mem_insert_priority_iff.1 member with rfl | member
        · exact UInt32.lt_of_le_of_ne (UInt32.not_lt.1 below) (Ne.symm equal)
        · exact above other member

/-- The index is that of the rules: ascending, and each priority stands for one rule. -/
structure Indexed (set : RuleSet) : Prop where
  exact : ∀ priority, priority ∈ set.priorities ↔ ∃ rule ∈ set.rules, rule.priority = priority
  ascending : set.priorities.Pairwise (· < ·)
  distinct : (set.rules.map (·.priority)).Nodup

theorem indexed_empty : empty.Indexed := by
  refine ⟨?_, List.Pairwise.nil, List.nodup_nil⟩
  simp [empty]

theorem indexed_commit (indexed : set.Indexed) (free : rule.priority ∉ set.priorities) :
    (set.commit rule).Indexed := by
  refine ⟨?_, insert_priority_ascending indexed.ascending, ?_⟩
  · intro priority
    change priority ∈ insertPriority rule.priority set.priorities ↔
      ∃ other ∈ set.rules ++ [rule], other.priority = priority
    rw [mem_insert_priority_iff, indexed.exact]
    simp only [List.mem_append, List.mem_singleton, or_and_right, exists_or, exists_eq_left]
    rw [or_comm, @eq_comm _ priority]
  · change ((set.rules ++ [rule]).map (·.priority)).Nodup
    rw [List.map_append, List.nodup_append]
    refine ⟨indexed.distinct, List.nodup_singleton _, ?_⟩
    intro priority member other last same
    simp only [List.map_cons, List.map_nil, List.mem_singleton] at last
    apply free
    rw [indexed.exact, ← last, ← same]
    simpa using member

theorem Indexed.nodup (indexed : set.Indexed) : set.priorities.Nodup :=
  indexed.ascending.imp fun below => UInt32.ne_of_lt below

theorem Indexed.priorities_perm (indexed : set.Indexed) :
    set.priorities.Perm (set.rules.map (·.priority)) := by
  rw [List.perm_ext_iff_of_nodup indexed.nodup indexed.distinct]
  intro priority
  rw [indexed.exact, List.mem_map]

theorem Indexed.length_eq (indexed : set.Indexed) : set.priorities.length = set.size := by
  rw [indexed.priorities_perm.length_eq, List.length_map, size]

/-- An ascending list of priorities is known from its elements. -/
theorem ascending_eq_of_perm {first second : List UInt32} (ascending : first.Pairwise (· < ·))
    (otherAscending : second.Pairwise (· < ·)) (perm : first.Perm second) : first = second := by
  refine List.Perm.eq_of_pairwise ?_ ascending otherAscending perm
  intro one other _ _ below above
  exact absurd (UInt32.lt_trans below above) (UInt32.lt_irrefl one)

theorem priorities_eq_of_mem_iff {other : RuleSet} (indexed : set.Indexed)
    (otherIndexed : other.Indexed)
    (same : ∀ priority, priority ∈ set.priorities ↔ priority ∈ other.priorities) :
    set.priorities = other.priorities :=
  ascending_eq_of_perm indexed.ascending otherIndexed.ascending
    ((List.perm_ext_iff_of_nodup indexed.nodup otherIndexed.nodup).2 same)

theorem rule_eq_of_priority_eq {first second : Rule} (indexed : set.Indexed)
    (member : first ∈ set.rules) (another : second ∈ set.rules)
    (same : first.priority = second.priority) : first = second :=
  List.inj_on_of_nodup_map indexed.distinct member another same

end MeshRouting.RuleSet

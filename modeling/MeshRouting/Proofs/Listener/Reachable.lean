import MeshRouting.Proofs.Listener.Runs

/-!
What holds of a table at any time. A table is only ever reached by calls that offer it a
rule, so a property of new tables that every accepted call keeps is a property of all
tables; a rejected call gives the table back.
-/

namespace MeshRouting

/-- A call that offers a rule: as a spec, or put together by builder calls. -/
inductive Call
  | add (spec : RuleSpec)
  | rule (name : String) (priority : UInt32) (calls : List BuilderCall)

namespace Call

def offer (table : RoutingTable) : Call → RoutingTable.Addition
  | .add spec => table.add spec
  | .rule name priority calls => table.addRule name priority calls

/-- The spec that a call offers. -/
def spec : Call → RuleSpec
  | .add spec => spec
  | .rule name priority calls => .ofCalls name priority calls

theorem offer_eq_add (table : RoutingTable) (call : Call) : call.offer table = table.add call.spec := by
  cases call <;> rfl

end Call

namespace RoutingTable

/-- The tables that calls lead to from a new table of the listener. -/
inductive Reachable (listener : Listener) : RoutingTable → Prop
  | created {table : RoutingTable} (new : (create listener).outcome = .ok table) :
      Reachable listener table
  | called {table : RoutingTable} (call : Call) (before : Reachable listener table) :
      Reachable listener (call.offer table).table

/-- An action that forwards has a target group, and a criterion on headers has a header. -/
structure Shaped (rule : Rule) : Prop where
  groups : ∀ groups, rule.action = .forward groups → groups ≠ []
  headers : ∀ headers, rule.criterion = .headers headers → headers ≠ []

/-- What is fixed when a table is created. -/
structure Fixed (listener : Listener) (table : RoutingTable) : Prop where
  owner : table.listener = listener
  identifier : table.identifier = listener.serviceIdentifier ++ "/" ++ listener.name
  created : (create listener).outcome = .ok { table with rules := .empty }
  groups : ∀ groups, table.defaultAction = .forward groups → groups ≠ []

/-- The index is that of the rules, all rules are well shaped, and the rest is as created. -/
structure Sound (listener : Listener) (table : RoutingTable) : Prop where
  index : table.rules.Indexed
  shape : ∀ rule ∈ table.rules.rules, Shaped rule
  fixed : Fixed listener table

theorem shaped_of_add {table : RoutingTable} {spec : RuleSpec} {rule : Rule}
    (accepted : (table.add spec).outcome = .ok rule) : Shaped rule := by
  have realizes := (realizes_of_add accepted).2
  rw [add_outcome, RuleSpec.compile_eq_ok_iff] at accepted
  obtain ⟨_, resolvable, _⟩ := accepted
  constructor
  · intro groups forwards
    rw [realizes.action] at forwards
    exact ActionSpec.resolved_groups_nonempty resolvable forwards
  · intro headers selects
    have built := realizes.criterion
    rw [selects] at built
    exact MatchSpec.built_headers_nonempty built

theorem sound_of_created {listener : Listener} {table : RoutingTable}
    (new : (create listener).outcome = .ok table) : Sound listener table := by
  obtain ⟨resolvable, rfl⟩ := create_eq_ok_iff.1 new
  refine ⟨RuleSet.indexed_empty, by simp [RuleSet.empty], rfl, rfl, new, ?_⟩
  intro groups forwards
  exact ActionSpec.resolved_groups_nonempty resolvable forwards

theorem sound_of_commit {listener : Listener} {table : RoutingTable} {spec : RuleSpec} {rule : Rule}
    (sound : Sound listener table) (accepted : (table.add spec).outcome = .ok rule) :
    Sound listener (table.commit rule) := by
  refine ⟨RuleSet.indexed_commit sound.index (free_of_add accepted), ?_, ?_⟩
  · intro other member
    rcases List.mem_append.1 member with old | new
    · exact sound.shape other old
    · rw [List.mem_singleton.1 new]
      exact shaped_of_add accepted
  · exact ⟨sound.fixed.owner, sound.fixed.identifier, sound.fixed.created, sound.fixed.groups⟩

theorem sound_of_call {listener : Listener} {table : RoutingTable} (call : Call)
    (sound : Sound listener table) : Sound listener (call.offer table).table := by
  rw [Call.offer_eq_add]
  cases outcome : (table.add call.spec).outcome with
  | error error =>
      rw [add_table_of_error outcome]
      exact sound
  | ok rule =>
      rw [add_table_of_ok outcome]
      exact sound_of_commit sound outcome

theorem sound_of_reachable {listener : Listener} {table : RoutingTable}
    (reached : Reachable listener table) : Sound listener table := by
  induction reached with
  | created new => exact sound_of_created new
  | called call before sound => exact sound_of_call call sound

/-- The invariant of a table and what it says about the answers of the rule set. The last
part is the condition under which a rule may be committed: its priority is not in use. -/
theorem reachable_table_sound (listener : Listener) (table : RoutingTable)
    (reached : Reachable listener table) :
    Sound listener table ∧
    table.rules.priorities.length = table.size ∧
    (∀ priority, table.rules.containsPriority priority = true ↔
      ∃ rule ∈ table.rules.rules, rule.priority = priority) ∧
    ∀ (call : Call) (rule : Rule), (call.offer table).outcome = .ok rule →
      (call.offer table).table = table.commit rule ∧
        table.rules.containsPriority rule.priority = false := by
  have sound := sound_of_reachable reached
  refine ⟨sound, sound.index.length_eq, ?_, ?_⟩
  · intro priority
    rw [RuleSet.contains_priority_iff, sound.index.exact]
  · intro call rule accepted
    rw [Call.offer_eq_add] at accepted ⊢
    obtain ⟨free, realizes⟩ := realizes_of_add accepted
    rw [realizes.priority]
    exact ⟨add_table_of_ok accepted, free⟩

/-- A table that three calls lead to, of which the second one is rejected. -/
def mixedTable : RoutingTable :=
  ((Call.rule "page" 3 [.path (.exact "/a"), .forward "tg"]).offer
    ((Call.add clashSpec).offer ((Call.add readsSpec).offer plainTable).table).table).table

theorem mixed_table_sound :
    Reachable plainListener mixedTable ∧ Sound plainListener mixedTable ∧
      mixedTable.rules.priorities = [3, 7] ∧ mixedTable.size = 2 ∧
      mixedTable.rules.containsPriority 5 = false := by
  have new : (create plainListener).outcome = .ok plainTable := rfl
  have reached : Reachable plainListener mixedTable := .called _ (.called _ (.called _ (.created new)))
  obtain ⟨sound, counted, _, _⟩ := reachable_table_sound plainListener mixedTable reached
  have index : mixedTable.rules.priorities = [3, 7] := rfl
  exact ⟨reached, sound, index, by rw [← counted, index]; rfl, rfl⟩

end RoutingTable

end MeshRouting

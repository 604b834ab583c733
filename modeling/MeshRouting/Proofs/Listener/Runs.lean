import MeshRouting.Listener.RoutingTable
import MeshRouting.Proofs.Rule.Index
import MeshRouting.Proofs.Rule.Stages

/-!
Runs of a table. Rules are offered one after another, and each is accepted or rejected by
what was accepted before it. The index of priorities is the only thing a later rule sees of
the earlier ones; so the outcome of every call is known from the spec itself and from the
priorities of the accepted specs.
-/

namespace MeshRouting

namespace RoutingTable

variable {table : RoutingTable} {spec : RuleSpec} {rule : Rule} {error : RuleError}

/-- The table after rules were offered in order. A rejected one leaves it as it was. -/
def offerAll (table : RoutingTable) (specs : List RuleSpec) : RoutingTable :=
  specs.foldl (fun table spec => (table.add spec).table) table

/-- The accepted ones of the specs offered in order, each with the rule it gave. -/
def commits (table : RoutingTable) : List RuleSpec → List (RuleSpec × Rule)
  | [] => []
  | spec :: rest =>
      match (table.add spec).outcome with
      | .ok rule => (spec, rule) :: (table.add spec).table.commits rest
      | .error _ => (table.add spec).table.commits rest

/-- The specs that are accepted when they are offered in order. -/
def accepted (table : RoutingTable) (specs : List RuleSpec) : List RuleSpec :=
  (table.commits specs).map (·.1)

theorem create_eq_ok_iff {listener : Listener} :
    (create listener).outcome = .ok table ↔
      listener.defaultAction.Resolvable ∧
        table = ⟨listener, listener.defaultAction.resolved, .empty⟩ := by
  simp only [create, Traced.outcome_bind, Traced.outcome_return]
  constructor
  · intro created
    cases action : (listener.defaultAction.resolve s!"{listener.name} default action").outcome with
    | error error => simp [action, Except.bind] at created
    | ok result =>
        obtain ⟨resolvable, rfl⟩ := ActionSpec.resolve_eq_ok_iff.1 action
        simp only [action, Except.bind, Except.ok.injEq] at created
        exact ⟨resolvable, created.symm⟩
  · intro resolves
    rcases resolves with ⟨resolvable, rfl⟩
    rw [ActionSpec.resolve_of_resolvable _ resolvable]
    rfl

theorem add_outcome (table : RoutingTable) (spec : RuleSpec) :
    (table.add spec).outcome = (spec.compile table.rules).outcome := by
  unfold add
  cases compiled : (spec.compile table.rules).outcome <;> simp only [compiled]

theorem add_table_of_ok (accepted : (table.add spec).outcome = .ok rule) :
    (table.add spec).table = table.commit rule := by
  rw [add_outcome] at accepted
  simp only [add, accepted]

theorem add_table_of_error (rejected : (table.add spec).outcome = .error error) :
    (table.add spec).table = table := by
  rw [add_outcome] at rejected
  simp only [add, rejected]

theorem realizes_of_add (accepted : (table.add spec).outcome = .ok rule) :
    table.rules.containsPriority spec.priority = false ∧ rule.Realizes spec := by
  rw [add_outcome, RuleSpec.compile_eq_ok_iff] at accepted
  exact ⟨accepted.1, accepted.2.2⟩

/-- A rule is accepted only under a priority that is not in use. -/
theorem free_of_add (accepted : (table.add spec).outcome = .ok rule) :
    rule.priority ∉ table.rules.priorities := by
  obtain ⟨free, realizes⟩ := realizes_of_add accepted
  rw [realizes.priority, ← RuleSet.contains_priority_eq_false_iff]
  exact free

theorem commits_of_ok {rest : List RuleSpec} (accepted : (table.add spec).outcome = .ok rule) :
    table.commits (spec :: rest) = (spec, rule) :: (table.commit rule).commits rest := by
  rw [commits, add_table_of_ok accepted]
  simp only [accepted]

theorem commits_of_error {rest : List RuleSpec}
    (rejected : (table.add spec).outcome = .error error) :
    table.commits (spec :: rest) = table.commits rest := by
  rw [commits, add_table_of_error rejected]
  simp only [rejected]

theorem offer_all_cons (table : RoutingTable) (spec : RuleSpec) (rest : List RuleSpec) :
    table.offerAll (spec :: rest) = (table.add spec).table.offerAll rest := rfl

/-- A rule is stored for every spec that is accepted, at the end, and for no other. -/
theorem offer_all_rules (table : RoutingTable) (specs : List RuleSpec) :
    (table.offerAll specs).rules.rules = table.rules.rules ++ (table.commits specs).map (·.2) := by
  induction specs generalizing table with
  | nil => simp [offerAll, commits]
  | cons spec rest induction =>
      rw [offer_all_cons]
      cases outcome : (table.add spec).outcome with
      | error error =>
          rw [add_table_of_error outcome, commits_of_error outcome]
          exact induction table
      | ok rule =>
          rw [add_table_of_ok outcome, commits_of_ok outcome, induction]
          simp [commit, RuleSet.commit]

theorem commits_realize (table : RoutingTable) (specs : List RuleSpec) :
    ∀ entry ∈ table.commits specs, entry.2.Realizes entry.1 := by
  induction specs generalizing table with
  | nil => simp [commits]
  | cons spec rest induction =>
      cases outcome : (table.add spec).outcome with
      | error error =>
          rw [commits_of_error outcome]
          exact induction table
      | ok rule =>
          rw [commits_of_ok outcome, List.forall_mem_cons]
          exact ⟨(realizes_of_add outcome).2, induction _⟩

/-- The priorities in use after a run are those in use before it and the accepted ones. -/
theorem offer_all_priorities (table : RoutingTable) (specs : List RuleSpec) (priority : UInt32) :
    priority ∈ (table.offerAll specs).rules.priorities ↔
      priority ∈ table.rules.priorities ∨
        ∃ earlier ∈ table.accepted specs, earlier.priority = priority := by
  induction specs generalizing table with
  | nil => simp [offerAll, accepted, commits]
  | cons spec rest induction =>
      rw [offer_all_cons, accepted]
      cases outcome : (table.add spec).outcome with
      | error error =>
          rw [add_table_of_error outcome, commits_of_error outcome]
          exact induction table
      | ok rule =>
          have same : rule.priority = spec.priority := (realizes_of_add outcome).2.priority
          rw [add_table_of_ok outcome, commits_of_ok outcome, induction]
          change priority ∈ RuleSet.insertPriority rule.priority table.rules.priorities ∨ _ ↔ _
          rw [RuleSet.mem_insert_priority_iff, same, List.map_cons]
          simp only [List.mem_cons, or_and_right, exists_or, exists_eq_left, accepted]
          rw [@eq_comm _ priority, or_comm (b := priority ∈ table.rules.priorities), or_assoc]

/-- A run of a new table. The outcome of a call is given by three conditions on its spec,
of which only the first one looks at the calls before it. -/
theorem run_outcomes_follow_specs (listener : Listener) (table : RoutingTable)
    (created : (create listener).outcome = .ok table) (specs : List RuleSpec) :
    (∀ before spec after, specs = before ++ spec :: after →
      ((∃ rule, ((table.offerAll before).add spec).outcome = .ok rule) ↔
        (∀ earlier ∈ table.accepted before, earlier.priority ≠ spec.priority) ∧
          spec.action.Resolvable ∧ spec.matchSpec.WellFormed) ∧
      ∀ error, ((table.offerAll before).add spec).outcome = .error error →
        spec.Blames (∀ earlier ∈ table.accepted before, earlier.priority ≠ spec.priority) error) ∧
    (table.offerAll specs).rules.rules = (table.commits specs).map (·.2) ∧
    ∀ entry ∈ table.commits specs, entry.2.Realizes entry.1 := by
  obtain ⟨_, rfl⟩ := create_eq_ok_iff.1 created
  refine ⟨?_, offer_all_rules _ specs, commits_realize _ specs⟩
  intro before spec after _
  have free := offer_all_priorities ⟨listener, listener.defaultAction.resolved, .empty⟩ before
    spec.priority
  have unused : ((offerAll ⟨listener, listener.defaultAction.resolved, .empty⟩
      before).rules.containsPriority spec.priority = false) =
      ∀ earlier ∈ accepted ⟨listener, listener.defaultAction.resolved, .empty⟩ before,
        earlier.priority ≠ spec.priority := by
    rw [RuleSet.contains_priority_eq_false_iff, free]
    simp [RuleSet.empty]
  rw [add_outcome, ← unused]
  exact ⟨RuleSpec.compile_exists_iff _ _, fun error => RuleSpec.compile_blames⟩

def plainListener : Listener := ⟨"api", .http, none, "svc", .respond 404⟩

def plainTable : RoutingTable := ⟨plainListener, .respond 404, .empty⟩

def readsSpec : RuleSpec := ⟨"reads", 7, .respond 200, ⟨some "get", none, none, .empty⟩⟩

def pageSpec : RuleSpec := .ofCalls "page" 3 [.path (.exact "/a"), .forward "tg"]

/-- Everything about this spec is wrong once the priority is taken. -/
def clashSpec : RuleSpec :=
  ⟨"clash", 7, .forward [], ⟨some "get", none, none, .ofList [("pathMach", .null)]⟩⟩

/-- The second rule of a run fails for its priority, although it has no target either. -/
theorem clashing_run_outcome :
    (create plainListener).outcome = .ok plainTable ∧
    (∃ error, ((plainTable.offerAll [readsSpec]).add clashSpec).outcome = .error error ∧
      error.rule = "clash" ∧ error.kind = .duplicatePriority) ∧
    (plainTable.offerAll [readsSpec, clashSpec]).rules.rules.map (·.name) = ["reads"] := by
  have created : (create plainListener).outcome = .ok plainTable := rfl
  obtain ⟨calls, rules, _⟩ :=
    run_outcomes_follow_specs plainListener plainTable created [readsSpec, clashSpec]
  have rejected : ((plainTable.offerAll [readsSpec]).add clashSpec).outcome =
      .error (.duplicatePriority "clash" 7) := rfl
  have blamed := (calls [readsSpec] clashSpec [] rfl).2 _ rejected
  have taken : ¬ ∀ earlier ∈ plainTable.accepted [readsSpec], earlier.priority ≠ clashSpec.priority :=
    fun free => free readsSpec (List.mem_singleton.2 rfl) rfl
  refine ⟨created, ⟨_, rejected, blamed.rule, blamed.priority taken⟩, ?_⟩
  rw [rules]
  rfl

end RoutingTable

end MeshRouting

import MeshRouting.Proofs.Listener.Growth
import MeshRouting.Proofs.Listener.Loading
import MeshRouting.Proofs.Rule.Warnings

/-!
The log. Each spec that is offered leaves its warnings and then one event that tells what
became of it; loading leaves the warnings of the default action, the log of the rules up
to the first rejection, and, if there was none, a last event for the listener.
-/

namespace MeshRouting

namespace RoutingTable

variable {table : RoutingTable} {spec : RuleSpec} {rule : Rule} {error : RuleError}

/-- The event that tells what became of a spec. -/
structure Verdict (table : RoutingTable) (spec : RuleSpec) (event : Event) : Prop where
  level : event.level = .debug
  message : event.message = match (table.add spec).outcome with
    | .ok _ => "rule committed"
    | .error _ => "rule rejected"
  fields : event.fields =
    [("listener", .text table.identifier), ("rule", .text spec.name),
      ("priority", .number spec.priority.toNat)] ++
    match (table.add spec).outcome with
    | .ok _ => []
    | .error error => [("error", .text error.message)]

/-- The log of specs that are offered in order. -/
def log (table : RoutingTable) : List RuleSpec → List Event
  | [] => []
  | spec :: rest => (table.add spec).events ++ (table.add spec).table.log rest

theorem add_events_of_ok (accepted : (table.add spec).outcome = .ok rule) :
    (table.add spec).events = spec.warnings table.rules ++
      [.committed table.identifier rule.name rule.priority] := by
  rw [add_outcome] at accepted
  simp only [add, accepted, RuleSpec.compile_events]

theorem add_events_of_error (rejected : (table.add spec).outcome = .error error) :
    (table.add spec).events = spec.warnings table.rules ++
      [.rejected table.identifier spec.name spec.priority error] := by
  rw [add_outcome] at rejected
  simp only [add, rejected, RuleSpec.compile_events]

theorem add_events (table : RoutingTable) (spec : RuleSpec) :
    ∃ verdict, (table.add spec).events = spec.warnings table.rules ++ [verdict] ∧
      table.Verdict spec verdict := by
  cases outcome : (table.add spec).outcome with
  | ok rule =>
      have realizes := (realizes_of_add outcome).2
      refine ⟨_, add_events_of_ok outcome, rfl, ?_, ?_⟩
      · rw [outcome]
        rfl
      · rw [outcome, realizes.name, realizes.priority]
        rfl
  | error error =>
      refine ⟨_, add_events_of_error outcome, rfl, ?_, ?_⟩
      · rw [outcome]
        rfl
      · rw [outcome]
        rfl

theorem create_events (listener : Listener) :
    (create listener).events =
      listener.defaultAction.warnings (listener.name ++ " default action") := by
  rw [create, Traced.events_bind_return, ActionSpec.resolve_events]
  rfl

theorem log_append (table : RoutingTable) (first second : List RuleSpec) :
    table.log (first ++ second) = table.log first ++ (table.offerAll first).log second := by
  induction first generalizing table with
  | nil => rfl
  | cons spec rest induction =>
      rw [List.cons_append, log, log, induction, List.append_assoc, offer_all_cons]

/-- Up to the first rejection the rules are logged as if all of them were offered. -/
theorem add_all_events_of_ok {rest : List RuleSpec}
    (accepted : (table.add spec).outcome = .ok rule) :
    (table.addAll (spec :: rest)).events =
      (table.add spec).events ++ ((table.add spec).table.addAll rest).events := by
  rw [addAll]
  simp only [Traced.bind, accepted]

theorem add_all_events_of_error {rest : List RuleSpec}
    (rejected : (table.add spec).outcome = .error error) :
    (table.addAll (spec :: rest)).events = (table.add spec).events := by
  rw [addAll]
  simp only [Traced.bind, rejected]

theorem add_all_events_append {before : List RuleSpec} (after : List RuleSpec)
    (clean : table.firstError before = none) :
    (table.addAll (before ++ after)).events =
      table.log before ++ ((table.offerAll before).addAll after).events := by
  induction before generalizing table with
  | nil => rfl
  | cons spec rest induction =>
      rw [List.cons_append]
      cases outcome : (table.add spec).outcome with
      | error error =>
          rw [first_error_of_error outcome] at clean
          cases clean
      | ok rule =>
          rw [first_error_of_ok outcome, ← add_table_of_ok outcome] at clean
          rw [add_all_events_of_ok outcome, induction clean, log, offer_all_cons,
            List.append_assoc]

end RoutingTable

namespace ListenerConfig

open RoutingTable (create)

/-- The warnings of the default action, under the name that it has as a rule. -/
def defaultWarnings (config : ListenerConfig) : List Event :=
  config.listener.defaultAction.warnings (config.listener.name ++ " default action")

/-- The event that tells that all rules of a listener were committed. -/
structure Summary (config : ListenerConfig) (event : Event) : Prop where
  level : event.level = .debug
  message : event.message = "listener configuration compiled"
  fields : event.fields = [("listener", .text config.listener.identifier),
    ("rules", .number config.rules.length)]

/-- The log of loading a configuration. -/
structure LoadingLog (config : ListenerConfig) (events : List Event) : Prop where
  refused : ∀ error, (create config.listener).outcome = .error error →
    events = config.defaultWarnings
  rejected : ∀ table before spec after error, (create config.listener).outcome = .ok table →
    config.rules = before ++ spec :: after → table.firstError before = none →
    ((table.offerAll before).add spec).outcome = .error error →
    events = config.defaultWarnings ++ table.log (before ++ [spec])
  complete : ∀ table, (create config.listener).outcome = .ok table →
    table.firstError config.rules = none →
    ∃ last, events = config.defaultWarnings ++ table.log config.rules ++ [last] ∧
      config.Summary last

theorem compile_events_of_refused {config : ListenerConfig} {error : RuleError}
    (refused : (create config.listener).outcome = .error error) :
    config.compile.events = config.defaultWarnings := by
  rw [compile, Traced.events_bind_of_error refused]
  exact RoutingTable.create_events config.listener

theorem compile_events_of_created {config : ListenerConfig} {table : RoutingTable}
    (created : (create config.listener).outcome = .ok table) :
    config.compile.events = config.defaultWarnings ++ (table.addAll config.rules).events ++
      match (table.addAll config.rules).outcome with
      | .ok full => [.compiled full.identifier full.size]
      | .error _ => [] := by
  rw [compile, Traced.events_bind_of_ok created, RoutingTable.create_events, List.append_assoc]
  cases outcome : (table.addAll config.rules).outcome with
  | error error =>
      rw [Traced.events_bind_of_error outcome, List.append_nil]
      rfl
  | ok full =>
      rw [Traced.events_bind_of_ok outcome]
      rfl

theorem compile_events_of_rejected {config : ListenerConfig} {table : RoutingTable}
    {before after : List RuleSpec} {spec : RuleSpec} {error : RuleError}
    (created : (create config.listener).outcome = .ok table)
    (split : config.rules = before ++ spec :: after) (clean : table.firstError before = none)
    (rejected : ((table.offerAll before).add spec).outcome = .error error) :
    config.compile.events = config.defaultWarnings ++ table.log (before ++ [spec]) := by
  have failed : table.firstError config.rules = some error := by
    rw [split, RoutingTable.first_error_append, clean,
      RoutingTable.first_error_of_error rejected, Option.none_or]
  rw [compile_events_of_created created, RoutingTable.add_all_outcome, failed, split,
    RoutingTable.add_all_events_append _ clean, RoutingTable.add_all_events_of_error rejected,
    RoutingTable.log_append, List.append_nil, RoutingTable.log, RoutingTable.log, List.append_nil]

theorem compile_events_of_complete {config : ListenerConfig} {table : RoutingTable}
    (created : (create config.listener).outcome = .ok table)
    (clean : table.firstError config.rules = none) :
    config.compile.events = config.defaultWarnings ++ table.log config.rules ++
      [.compiled config.listener.identifier config.rules.length] := by
  obtain ⟨_, new⟩ := RoutingTable.create_eq_ok_iff.1 created
  have logged : (table.addAll config.rules).events = table.log config.rules := by
    have all := RoutingTable.add_all_events_append [] clean
    rw [List.append_nil] at all
    exact all.trans (List.append_nil _)
  have owner : (table.offerAll config.rules).listener = config.listener := by
    rw [← RoutingTable.call_all_add,
      (RoutingTable.extends_call_all (.created created) (config.rules.map .add)).listener, new]
  have identifier : (table.offerAll config.rules).identifier = config.listener.identifier :=
    congrArg Listener.identifier owner
  have counted : (table.offerAll config.rules).size = config.rules.length := by
    have empty : table.rules.rules = [] := by rw [new, RuleSet.empty]
    exact (RoutingTable.rules_of_no_error empty clean).length_eq
  rw [compile_events_of_created created, logged, RoutingTable.add_all_outcome, clean]
  simp only [identifier, counted]

/-- The log tells all decisions. An offered spec leaves the warnings of its action, if its
priority is free, and then one event for what became of it; its match has no part in the
warnings. A configuration leaves the warnings of its default action, the log of its rules
up to the first one that is rejected, or of all of them and then a last event if there is
none. -/
theorem log_tells_decisions :
    (∀ (table : RoutingTable) (spec : RuleSpec),
      (∃ verdict, (table.add spec).events = spec.warnings table.rules ++ [verdict] ∧
        table.Verdict spec verdict) ∧
      (∀ event ∈ spec.warnings table.rules, event.level = .warning) ∧
      ∀ matchSpec, (table.add { spec with matchSpec }).events.dropLast =
        (table.add spec).events.dropLast) ∧
    ∀ config : ListenerConfig, config.LoadingLog config.compile.events ∧
      ∀ table error, (create config.listener).outcome = .ok table →
        table.firstError config.rules = some error →
          ∃ before spec after, config.rules = before ++ spec :: after ∧
            table.firstError before = none ∧
            ((table.offerAll before).add spec).outcome = .error error := by
  constructor
  · intro table spec
    obtain ⟨verdict, events, told⟩ := table.add_events spec
    refine ⟨⟨verdict, events, told⟩, ?_, ?_⟩
    · intro event member
      rw [RuleSpec.warnings] at member
      split_ifs at member with taken
      · cases member
      · exact spec.action.warnings_level spec.name event member
    · intro matchSpec
      obtain ⟨other, otherEvents, _⟩ := table.add_events { spec with matchSpec }
      rw [events, otherEvents, List.dropLast_concat, List.dropLast_concat]
      rfl
  · intro config
    refine ⟨⟨?_, ?_, ?_⟩, fun table error _ failed => RoutingTable.split_of_first_error failed⟩
    · intro error refused
      exact compile_events_of_refused refused
    · intro table before spec after error created split clean rejected
      exact compile_events_of_rejected created split clean rejected
    · intro table created clean
      exact ⟨_, compile_events_of_complete created clean, rfl, rfl, rfl⟩

/-- Of its heavy targets only the first one comes before the one that has no weight. -/
def splitSpec : RuleSpec :=
  ⟨"split", 5, .forward [⟨"a", some 150⟩, ⟨"b", some 20⟩, ⟨"c", none⟩, ⟨"d", some 300⟩],
    ⟨some "get", none, none, .empty⟩⟩

def splitConfig : ListenerConfig :=
  ⟨⟨"api", .http, none, "svc", .respond 700⟩, [RoutingTable.readsSpec, splitSpec,
    RoutingTable.pageSpec]⟩

theorem split_config_logged :
    splitConfig.compile.events =
      [.statusOutsideRange "api default action" 700, .committed "svc/api" "reads" 7,
        .heavyTarget "split" "a" 150,
        .rejected "svc/api" "split" 5 (.missingWeight "split" "c")] ∧
    ∀ event ∈ splitSpec.warnings .empty, event.level = .warning := by
  obtain ⟨offers, loads⟩ := log_tells_decisions
  have created : (create splitConfig.listener).outcome =
      .ok ⟨splitConfig.listener, .respond 700, .empty⟩ := rfl
  have logged := (loads splitConfig).1.rejected _ [RoutingTable.readsSpec] splitSpec
    [RoutingTable.pageSpec] (.missingWeight "split" "c") created rfl rfl rfl
  exact ⟨logged, (offers RoutingTable.plainTable splitSpec).2.1⟩

end ListenerConfig

end MeshRouting

import MeshRouting.Listener.Config
import MeshRouting.Proofs.Listener.Answers
import Mathlib

/-!
Loading a configuration. The text is decoded as a whole before any rule is looked at; then
the table is created and the rules are added in the order of the text, up to the first one
that is rejected. So a configuration that fails cannot be mended by more rules at its end.
-/

namespace MeshRouting

namespace RoutingTable

variable {table : RoutingTable} {spec : RuleSpec} {rule : Rule} {error : RuleError}

/-- The error of the first spec that is rejected when they are offered in order. -/
def firstError (table : RoutingTable) (specs : List RuleSpec) : Option RuleError :=
  (table.answers (specs.map .add)).findSome? fun
    | .ok _ => none
    | .error error => some error

theorem first_error_of_ok {rest : List RuleSpec} (accepted : (table.add spec).outcome = .ok rule) :
    table.firstError (spec :: rest) = (table.commit rule).firstError rest := by
  have answered : ((Call.add spec).offer table).outcome = .ok rule := accepted
  have changed : ((Call.add spec).offer table).table = table.commit rule := add_table_of_ok accepted
  rw [firstError, List.map_cons, answers_cons, answered, changed]
  rfl

theorem first_error_of_error {rest : List RuleSpec}
    (rejected : (table.add spec).outcome = .error error) :
    table.firstError (spec :: rest) = some error := by
  have answered : ((Call.add spec).offer table).outcome = .error error := rejected
  rw [firstError, List.map_cons, answers_cons, answered]
  rfl

theorem first_error_append (table : RoutingTable) (first second : List RuleSpec) :
    table.firstError (first ++ second) =
      (table.firstError first).or ((table.offerAll first).firstError second) := by
  rw [firstError, List.map_append, answers_append, List.findSome?_append, call_all_add]
  rfl

/-- The first error is that of one of the specs, after others that are all accepted. -/
theorem split_of_first_error {specs : List RuleSpec} (failed : table.firstError specs = some error) :
    ∃ before spec after, specs = before ++ spec :: after ∧ table.firstError before = none ∧
      ((table.offerAll before).add spec).outcome = .error error := by
  induction specs generalizing table with
  | nil => cases failed
  | cons spec rest induction =>
      cases outcome : (table.add spec).outcome with
      | error other =>
          rw [first_error_of_error outcome] at failed
          cases failed
          exact ⟨[], spec, rest, rfl, rfl, outcome⟩
      | ok rule =>
          rw [first_error_of_ok outcome] at failed
          obtain ⟨before, blamed, after, rfl, clean, rejected⟩ := induction failed
          refine ⟨spec :: before, blamed, after, rfl, ?_, ?_⟩
          · rw [first_error_of_ok outcome, clean]
          · rw [offer_all_cons, add_table_of_ok outcome, rejected]

/-- Adding rules up to the first rejection, and offering all of them, differ only in what
comes after that rejection. -/
theorem add_all_outcome (table : RoutingTable) (specs : List RuleSpec) :
    (table.addAll specs).outcome = match table.firstError specs with
      | some error => .error error
      | none => .ok (table.offerAll specs) := by
  induction specs generalizing table with
  | nil => rfl
  | cons spec rest induction =>
      cases outcome : (table.add spec).outcome with
      | error error =>
          rw [first_error_of_error outcome]
          simp only [addAll, Traced.bind, outcome]
      | ok rule =>
          rw [first_error_of_ok outcome, offer_all_cons, add_table_of_ok outcome, ← induction]
          simp only [addAll, Traced.bind, outcome, add_table_of_ok outcome]

theorem commits_of_no_error {specs : List RuleSpec} (clean : table.firstError specs = none) :
    (table.commits specs).map (·.1) = specs := by
  induction specs generalizing table with
  | nil => rfl
  | cons spec rest induction =>
      cases outcome : (table.add spec).outcome with
      | error error =>
          rw [first_error_of_error outcome] at clean
          cases clean
      | ok rule =>
          rw [first_error_of_ok outcome] at clean
          rw [commits_of_ok outcome, List.map_cons, induction clean]

/-- If no spec is rejected there is one rule for each, in order. -/
theorem rules_of_no_error {specs : List RuleSpec} (empty : table.rules.rules = [])
    (clean : table.firstError specs = none) :
    List.Forall₂ Rule.Realizes (table.offerAll specs).rules.rules specs := by
  have realized := table.commits_realize specs
  rw [offer_all_rules, empty, List.nil_append]
  nth_rewrite 2 [← commits_of_no_error clean]
  rw [List.forall₂_map_left_iff, List.forall₂_map_right_iff, List.forall₂_same]
  exact realized

theorem offer_all_append (table : RoutingTable) (first second : List RuleSpec) :
    table.offerAll (first ++ second) = (table.offerAll first).offerAll second :=
  List.foldl_append

end RoutingTable

namespace ListenerConfig

open RoutingTable (create)

/-- The outcome is that of creating the table and then adding the rules one by one. -/
structure FollowsRun (config : ListenerConfig) (outcome : Except LoadError RoutingTable) :
    Prop where
  refused : ∀ error, (create config.listener).outcome = .error error →
    outcome = .error (.rule error)
  rejected : ∀ table error, (create config.listener).outcome = .ok table →
    table.firstError config.rules = some error → outcome = .error (.rule error)
  complete : ∀ table, (create config.listener).outcome = .ok table →
    table.firstError config.rules = none → outcome = .ok (table.offerAll config.rules) ∧
      List.Forall₂ Rule.Realizes (table.offerAll config.rules).rules.rules config.rules

variable {config : ListenerConfig} {table : RoutingTable} {error : RuleError}

/-- The event at the end plays no part in the outcome. -/
theorem compile_outcome (config : ListenerConfig) :
    config.compile.outcome = (create config.listener).outcome.bind fun table =>
      (table.addAll config.rules).outcome := by
  simp only [compile, Traced.outcome_bind, Traced.outcome_emit, Traced.outcome_return, Except.bind]
  cases (create config.listener).outcome with
  | error error => rfl
  | ok table =>
      simp only
      cases (table.addAll config.rules).outcome <;> rfl

theorem compile_of_refused (refused : (create config.listener).outcome = .error error) :
    config.compile.outcome = .error error := by
  rw [compile_outcome, refused]
  rfl

theorem compile_of_created (created : (create config.listener).outcome = .ok table) :
    config.compile.outcome = match table.firstError config.rules with
      | some error => .error error
      | none => .ok (table.offerAll config.rules) := by
  rw [compile_outcome, created, ← RoutingTable.add_all_outcome]
  rfl

theorem compile_follows_run (config : ListenerConfig) :
    config.FollowsRun (config.compile.outcome.mapError .rule) := by
  refine ⟨?_, ?_, ?_⟩
  · intro error refused
    rw [compile_of_refused refused]
    rfl
  · intro table error created rejected
    rw [compile_of_created created, rejected]
    rfl
  · intro table created clean
    have empty : table.rules.rules = [] := by
      obtain ⟨_, rfl⟩ := RoutingTable.create_eq_ok_iff.1 created
      rfl
    rw [compile_of_created created, clean]
    exact ⟨rfl, RoutingTable.rules_of_no_error empty clean⟩

theorem compile_eq_error_iff : config.compile.outcome = .error error ↔
    (create config.listener).outcome = .error error ∨
      ∃ table, (create config.listener).outcome = .ok table ∧
        table.firstError config.rules = some error := by
  cases created : (create config.listener).outcome with
  | error refusal => simp [compile_of_refused created]
  | ok table =>
      cases clean : table.firstError config.rules <;> simp [compile_of_created created, clean]

theorem compile_eq_ok_iff : config.compile.outcome = .ok table ↔
    ∃ new, (create config.listener).outcome = .ok new ∧ new.firstError config.rules = none ∧
      new.offerAll config.rules = table := by
  cases created : (create config.listener).outcome with
  | error refusal => simp [compile_of_refused created]
  | ok new =>
      cases clean : new.firstError config.rules <;> simp [compile_of_created created, clean]

variable {listener : Listener} {first second : List RuleSpec}

/-- The first rejection is not touched by rules that come after it. -/
theorem compile_append_of_error (failed : (compile ⟨listener, first⟩).outcome = .error error) :
    (compile ⟨listener, first ++ second⟩).outcome = .error error := by
  obtain refused | ⟨table, created, rejected⟩ := compile_eq_error_iff.1 failed
  · exact compile_eq_error_iff.2 (.inl refused)
  · refine compile_eq_error_iff.2 (.inr ⟨table, created, ?_⟩)
    rw [RoutingTable.first_error_append, rejected, Option.some_or]

theorem compile_of_append (loaded : (compile ⟨listener, first ++ second⟩).outcome = .ok table) :
    ∃ shorter, (compile ⟨listener, first⟩).outcome = .ok shorter ∧
      shorter.rules.rules <+: table.rules.rules := by
  obtain ⟨new, created, clean, rfl⟩ := compile_eq_ok_iff.1 loaded
  rw [RoutingTable.first_error_append, Option.or_eq_none_iff] at clean
  refine ⟨new.offerAll first, compile_eq_ok_iff.2 ⟨new, created, clean.1, rfl⟩, ?_⟩
  rw [RoutingTable.offer_all_append, RoutingTable.offer_all_rules (new.offerAll first)]
  exact List.prefix_append _ _

end ListenerConfig

namespace RoutingTable

theorem of_text_of_decoded {text : String} {config : ListenerConfig}
    (decoded : ListenerConfig.decoder.run text = .ok config) :
    (ofText text).outcome = config.compile.outcome.mapError .rule := by
  rw [ofText, decoded]
  rfl

/-- The rules of a text that is decoded may be wrong, but never as a decoding error. -/
theorem of_text_decoding_iff {text : String} :
    (∃ problem, (ofText text).outcome = .error (.decoding problem)) ↔
      ∀ config, ListenerConfig.decoder.run text ≠ .ok config := by
  cases read : ListenerConfig.decoder.run text with
  | error problem =>
      rw [ofText, read]
      simp
  | ok config =>
      rw [of_text_of_decoded read]
      cases config.compile.outcome <;> simp [Except.mapError]

/-- Loading is adding the rules one by one. A text fails to decode or is loaded like the
run of its rules, which ends at the first rejection; and rules at the end of a list change
nothing about an error before them, nor about the rules before them. -/
theorem loading_adds_rules_in_order :
    (∀ text,
      ((∃ problem, (ofText text).outcome = .error (.decoding problem)) ↔
        ∀ config, ListenerConfig.decoder.run text ≠ .ok config) ∧
      ∀ config, ListenerConfig.decoder.run text = .ok config →
        config.FollowsRun (ofText text).outcome) ∧
    ∀ listener first second,
      (∀ error, (ListenerConfig.compile ⟨listener, first⟩).outcome = .error error →
        (ListenerConfig.compile ⟨listener, first ++ second⟩).outcome = .error error) ∧
      ∀ longer, (ListenerConfig.compile ⟨listener, first ++ second⟩).outcome = .ok longer →
        ∃ shorter, (ListenerConfig.compile ⟨listener, first⟩).outcome = .ok shorter ∧
          shorter.rules.rules <+: longer.rules.rules := by
  constructor
  · intro text
    refine ⟨of_text_decoding_iff, ?_⟩
    intro config decoded
    rw [of_text_of_decoded decoded]
    exact config.compile_follows_run
  · intro listener first second
    constructor
    · intro error failed
      exact ListenerConfig.compile_append_of_error failed
    · intro longer loaded
      exact ListenerConfig.compile_of_append loaded

/-- The last two of these rules are rejected when they are added in order. -/
def clashText : String :=
  "\x7b\"listener\":[\"api\",\"HTTP\",null,\"svc\",404],\"rules\":[" ++
  "\x7b\"name\":\"reads\",\"priority\":7,\"action\":200,\"methodMatch\":\"get\"\x7d," ++
  "\x7b\"name\":\"clash\",\"priority\":7,\"action\":[],\"methodMatch\":\"get\"," ++
  "\"pathMach\":null\x7d," ++
  "\x7b\"name\":\"none\",\"priority\":8,\"action\":[],\"methodMatch\":\"get\"\x7d]\x7d"

def clashConfig : ListenerConfig :=
  ⟨plainListener, [readsSpec, clashSpec, .ofCalls "none" 8 [.method "get"]]⟩

theorem clash_text_rejected :
    ListenerConfig.decoder.run clashText = .ok clashConfig ∧
    (ofText clashText).outcome = .error (.rule (.duplicatePriority "clash" 7)) ∧
    (ListenerConfig.compile ⟨plainListener, [readsSpec, clashSpec] ++ [readsSpec]⟩).outcome =
      .error (.duplicatePriority "clash" 7) ∧
    ∃ shorter, (ListenerConfig.compile ⟨plainListener, [readsSpec]⟩).outcome = .ok shorter ∧
      shorter.rules.rules <+: (plainTable.offerAll [readsSpec, pageSpec]).rules.rules := by
  have decoded : ListenerConfig.decoder.run clashText = .ok clashConfig := by cbv
  have created : (create plainListener).outcome = .ok plainTable := rfl
  have rejected : plainTable.firstError clashConfig.rules =
      some (.duplicatePriority "clash" 7) := rfl
  obtain ⟨texts, lists⟩ := loading_adds_rules_in_order
  have follows := (texts clashText).2 clashConfig decoded
  exact ⟨decoded, follows.rejected plainTable _ created rejected,
    (lists plainListener [readsSpec, clashSpec] [readsSpec]).1 _ rfl,
    (lists plainListener [readsSpec] [pageSpec]).2 _ rfl⟩

end RoutingTable

end MeshRouting

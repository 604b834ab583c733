import MeshRouting.Proofs.Rule.Actions
import MeshRouting.Proofs.Rule.Matches
import MeshRouting.Rule.Compilation

/-!
The three stages of a rule and their order. A spec becomes a rule exactly if its priority
is free, its action resolves and its match is well formed. Otherwise the first stage that
fails decides the kind of the error, whatever the later stages would say.
-/

namespace MeshRouting

namespace RuleError

/-- What an error is about, without its details. -/
inductive Kind
  | invalidMatch
  | missingWeight
  | emptyAction
  | duplicatePriority
  deriving DecidableEq

def kind : RuleError → Kind
  | .invalidMatch .. => .invalidMatch
  | .missingWeight .. => .missingWeight
  | .emptyAction .. => .emptyAction
  | .duplicatePriority .. => .duplicatePriority

end RuleError

/-- The rule says what the spec says, with its action resolved and its match built. -/
structure Rule.Realizes (rule : Rule) (spec : RuleSpec) : Prop where
  name : rule.name = spec.name
  priority : rule.priority = spec.priority
  action : rule.action = spec.action.resolved
  criterion : spec.matchSpec.build = .ok rule.criterion

namespace RuleSpec

/-- The error names the rejected spec, and its kind is that of the first fault: a priority
that is not free, then an action that does not resolve, then the match. -/
structure Blames (spec : RuleSpec) (free : Prop) (error : RuleError) : Prop where
  rule : error.rule = spec.name
  priority : ¬ free → error.kind = .duplicatePriority
  noTargets : free → spec.action = .forward [] → error.kind = .emptyAction
  noWeight : free → spec.action.LacksWeight → error.kind = .missingWeight
  criterion : free → spec.action.Resolvable → error.kind = .invalidMatch

theorem build_match_outcome (spec : RuleSpec) :
    spec.buildMatch.outcome = spec.matchSpec.build.mapError (.invalidMatch spec.name) := by
  unfold buildMatch
  cases spec.matchSpec.build <;> rfl

theorem compile_of_taken {spec : RuleSpec} {set : RuleSet}
    (taken : set.containsPriority spec.priority = true) :
    (spec.compile set).outcome = .error (.duplicatePriority spec.name spec.priority) := by
  simp only [compile, Traced.outcome_bind, checkPriority, taken, if_true, Traced.outcome_fail,
    Except.bind]

theorem compile_of_free {spec : RuleSpec} {set : RuleSet}
    (free : set.containsPriority spec.priority = false) :
    (spec.compile set).outcome = (spec.action.resolve spec.name).outcome.bind fun action =>
      (spec.matchSpec.build.mapError (.invalidMatch spec.name)).map fun criterion =>
        ⟨spec.name, spec.priority, action, criterion⟩ := by
  simp only [compile, Traced.outcome_bind, checkPriority, free, Bool.false_eq_true, if_false,
    Traced.outcome_pure, Except.bind, build_match_outcome]
  cases (spec.action.resolve spec.name).outcome with
  | error error => rfl
  | ok action => cases spec.matchSpec.build <;> rfl

/-- All that can become of a spec, with the conditions under which it does. -/
inductive Compiled (spec : RuleSpec) (set : RuleSet) : Except RuleError Rule → Prop
  | taken (taken : set.containsPriority spec.priority = true) :
      Compiled spec set (.error (.duplicatePriority spec.name spec.priority))
  | noTargets (free : set.containsPriority spec.priority = false)
      (empty : spec.action = .forward []) : Compiled spec set (.error (.emptyAction spec.name))
  | noWeight (free : set.containsPriority spec.priority = false)
      (lacking : spec.action.LacksWeight) (target : String) :
      Compiled spec set (.error (.missingWeight spec.name target))
  | noCriterion (free : set.containsPriority spec.priority = false)
      (resolvable : spec.action.Resolvable) {problem : MatchProblem}
      (failed : spec.matchSpec.build = .error problem) :
      Compiled spec set (.error (.invalidMatch spec.name problem))
  | rule (free : set.containsPriority spec.priority = false)
      (resolvable : spec.action.Resolvable) {rule : Rule} (realizes : rule.Realizes spec) :
      Compiled spec set (.ok rule)

theorem compiled_outcome (spec : RuleSpec) (set : RuleSet) :
    spec.Compiled set (spec.compile set).outcome := by
  cases taken : set.containsPriority spec.priority with
  | true =>
      rw [compile_of_taken taken]
      exact .taken taken
  | false =>
      rw [compile_of_free taken]
      rcases spec.action.resolvable_or_faulty with resolvable | empty | lacking
      · rw [ActionSpec.resolve_of_resolvable spec.name resolvable]
        cases built : spec.matchSpec.build with
        | error problem => exact .noCriterion taken resolvable built
        | ok criterion => exact .rule taken resolvable ⟨rfl, rfl, rfl, built⟩
      · rw [empty, ActionSpec.resolve_of_empty]
        exact .noTargets taken empty
      · obtain ⟨target, failed⟩ := ActionSpec.resolve_of_lacks_weight spec.name lacking
        rw [failed]
        exact .noWeight taken lacking target

theorem compile_eq_ok_iff {spec : RuleSpec} {set : RuleSet} {rule : Rule} :
    (spec.compile set).outcome = .ok rule ↔
      set.containsPriority spec.priority = false ∧ spec.action.Resolvable ∧ rule.Realizes spec := by
  constructor
  · intro accepted
    have compiled := spec.compiled_outcome set
    rw [accepted] at compiled
    cases compiled with
    | rule free resolvable realizes => exact ⟨free, resolvable, realizes⟩
  · intro accepted
    rcases accepted with ⟨free, resolvable, realizes⟩
    rw [compile_of_free free, ActionSpec.resolve_of_resolvable spec.name resolvable,
      realizes.criterion]
    obtain ⟨name, priority, action, criterion⟩ := rule
    obtain ⟨rfl, rfl, rfl, _⟩ := realizes
    rfl

theorem compile_exists_iff (spec : RuleSpec) (set : RuleSet) :
    (∃ rule, (spec.compile set).outcome = .ok rule) ↔
      set.containsPriority spec.priority = false ∧ spec.action.Resolvable ∧
        spec.matchSpec.WellFormed := by
  simp only [compile_eq_ok_iff, ← MatchSpec.build_exists_iff]
  constructor
  · intro accepted
    rcases accepted with ⟨rule, free, resolvable, realizes⟩
    exact ⟨free, resolvable, rule.criterion, realizes.criterion⟩
  · intro accepted
    rcases accepted with ⟨free, resolvable, criterion, built⟩
    exact ⟨⟨spec.name, spec.priority, spec.action.resolved, criterion⟩, free, resolvable,
      rfl, rfl, rfl, built⟩

theorem compile_of_bad_match {spec : RuleSpec} {set : RuleSet} {problem : MatchProblem}
    (free : set.containsPriority spec.priority = false) (resolvable : spec.action.Resolvable)
    (failed : spec.matchSpec.build = .error problem) :
    (spec.compile set).outcome = .error (.invalidMatch spec.name problem) := by
  rw [compile_of_free free, ActionSpec.resolve_of_resolvable spec.name resolvable, failed]
  rfl

/-- The kinds of fault exclude each other, so the kind of the error tells which it was. -/
theorem compile_blames {spec : RuleSpec} {set : RuleSet} {error : RuleError}
    (rejected : (spec.compile set).outcome = .error error) :
    spec.Blames (set.containsPriority spec.priority = false) error := by
  have compiled := spec.compiled_outcome set
  rw [rejected] at compiled
  have notEmpty (resolvable : spec.action.Resolvable) : spec.action ≠ .forward [] := by
    intro empty
    rw [empty] at resolvable
    exact resolvable.1 rfl
  have notLight (empty : spec.action = .forward []) : ¬ spec.action.LacksWeight := by
    rw [empty]
    exact fun lacking => absurd lacking.1 (by simp)
  cases compiled with
  | taken taken =>
      rw [taken]
      exact ⟨rfl, fun _ => rfl, nofun, nofun, nofun⟩
  | noTargets free empty =>
      exact ⟨rfl, fun taken => absurd free taken, fun _ _ => rfl,
        fun _ lacking => absurd lacking (notLight empty),
        fun _ resolvable => absurd empty (notEmpty resolvable)⟩
  | noWeight free lacking target =>
      exact ⟨rfl, fun taken => absurd free taken, fun _ empty => absurd lacking (notLight empty),
        fun _ _ => rfl,
        fun _ resolvable => absurd resolvable (ActionSpec.not_resolvable_of_lacks_weight lacking)⟩
  | noCriterion free resolvable failed =>
      exact ⟨rfl, fun taken => absurd free taken, fun _ empty => absurd empty (notEmpty resolvable),
        fun _ lacking => absurd resolvable (ActionSpec.not_resolvable_of_lacks_weight lacking),
        fun _ _ => rfl⟩

end RuleSpec

end MeshRouting

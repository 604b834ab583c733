import MeshRouting.Proofs.Rule.Stages

/-!
What a rule keeps of its spec. Two specs give the same rule exactly if they mean the same:
keywords are compared up to ASCII case, what is left out counts as its default, and all else
is compared as it stands. So every rule can be said again by a spec that leaves nothing out,
and that spec gives the same rule.
-/

namespace MeshRouting

open Text (Alike found_keyword_eq_iff)

namespace TargetReference

/-- The targets of a list and the weights they have in it. A lone target without a weight
has the weight 100. -/
def shares : List TargetReference → List (String × Option UInt32)
  | [reference] => [(reference.target, some (reference.weight.getD 100))]
  | targets => targets.map fun reference => (reference.target, reference.weight)

end TargetReference

/-- The same status, or the same targets with the same weights in the same order. -/
def ActionSpec.Agrees : ActionSpec → ActionSpec → Prop
  | .respond status, .respond other => status = other
  | .forward targets, .forward others =>
      TargetReference.shares targets = TargetReference.shares others
  | _, _ => False

/-- A path that is compared without regard to case may say so or leave it out. -/
structure PathMatchSpec.Agrees (first second : PathMatchSpec) : Prop where
  matchType : Alike first.matchType second.matchType
  value : first.value = second.value
  caseSensitive : first.caseSensitive.getD false = second.caseSensitive.getD false

structure HeaderMatchSpec.Agrees (first second : HeaderMatchSpec) : Prop where
  headerName : first.headerName = second.headerName
  operator : Alike first.operator second.operator
  value : first.value = second.value
  caseSensitive : first.caseSensitive.getD false = second.caseSensitive.getD false

/-- The same kinds of match are there, and those that are there agree. -/
structure MatchSpec.Agrees (first second : MatchSpec) : Prop where
  method : Option.Rel Alike first.methodMatch second.methodMatch
  path : Option.Rel PathMatchSpec.Agrees first.pathMatch second.pathMatch
  headers : Option.Rel (List.Forall₂ HeaderMatchSpec.Agrees) first.headerMatches
    second.headerMatches

structure RuleSpec.Agrees (first second : RuleSpec) : Prop where
  name : first.name = second.name
  priority : first.priority = second.priority
  action : first.action.Agrees second.action
  criterion : first.matchSpec.Agrees second.matchSpec

namespace TargetGroup

/-- The target with its weight in so many words. -/
def toReference (group : TargetGroup) : TargetReference := ⟨group.identifier, some group.weight⟩

end TargetGroup

namespace TargetReference

/-- Where every target has the weight it needs, the weights are those of the target groups. -/
theorem shares_of_resolvable {targets : List TargetReference}
    (resolvable : (ActionSpec.forward targets).Resolvable) :
    shares targets =
      (targets.map group).map fun group => (group.identifier, some group.weight) := by
  obtain ⟨nonempty, enough⟩ := resolvable
  match targets, enough with
  | [], _ => exact absurd rfl nonempty
  | [reference], _ => rfl
  | first :: second :: rest, .inl alone => simp at alone
  | first :: second :: rest, .inr weighted =>
      rw [shares, List.map_map]
      · apply List.map_congr_left
        intro reference member
        obtain ⟨weight, some⟩ := Option.ne_none_iff_exists'.1 (weighted reference member)
        simp only [Function.comp, group, some, Option.getD_some]
      · simp

end TargetReference

namespace ActionSpec

theorem resolved_eq_iff {first second : ActionSpec} (resolvable : first.Resolvable)
    (another : second.Resolvable) : first.resolved = second.resolved ↔ first.Agrees second := by
  cases first <;> cases second
  case respond.respond status other =>
    rw [resolved, resolved, Action.respond.injEq]
    exact Iff.rfl
  case forward.forward targets others =>
    have injective : Function.Injective fun group : TargetGroup =>
        (group.identifier, some group.weight) := by
      rintro ⟨identifier, weight⟩ ⟨other, share⟩ same
      simpa using same
    rw [resolved, resolved, Action.forward.injEq, Agrees,
      TargetReference.shares_of_resolvable resolvable, TargetReference.shares_of_resolvable another]
    exact (List.map_injective_iff.2 injective).eq_iff.symm
  all_goals simp [resolved, Agrees]

end ActionSpec

namespace HttpMethod

theorem of_name_name (method : HttpMethod) : ofName? method.name = some method := by
  cases method <;> rfl

end HttpMethod

namespace PathComparison

def capitals : PathComparison → String
  | .exact => "EXACT"
  | .startsWith => "PREFIX"

theorem of_name_capitals (comparison : PathComparison) :
    ofName? comparison.capitals = some comparison := by
  cases comparison <;> rfl

end PathComparison

namespace HeaderComparison

def capitals : HeaderComparison → String
  | .exact => "EXACT"
  | .contains => "CONTAINS"
  | .startsWith => "PREFIX"

theorem of_name_capitals (comparison : HeaderComparison) :
    ofName? comparison.capitals = some comparison := by
  cases comparison <;> rfl

end HeaderComparison

namespace PathMatchSpec

theorem build_eq_ok_iff {spec : PathMatchSpec} {path : PathMatch} :
    spec.build = .ok path ↔ PathComparison.ofName? spec.matchType = some path.comparison ∧
      path.value = spec.value ∧ path.caseSensitive = spec.caseSensitive.getD false := by
  obtain ⟨comparison, value, caseSensitive⟩ := path
  unfold build
  cases PathComparison.ofName? spec.matchType with
  | none => simp
  | some known => simp [defaultCaseSensitive, eq_comm]

theorem built_eq_iff {first second : PathMatchSpec} {path other : PathMatch}
    (built : first.build = .ok path) (another : second.build = .ok other) :
    path = other ↔ first.Agrees second := by
  obtain ⟨found, value, case⟩ := build_eq_ok_iff.1 built
  obtain ⟨foundOther, otherValue, otherCase⟩ := build_eq_ok_iff.1 another
  have word := found_keyword_eq_iff found foundOther
  rw [PathMatch.mk.injEq, word, value, otherValue, case, otherCase]
  exact ⟨fun same => ⟨same.1, same.2.1, same.2.2⟩, fun same => ⟨same.1, same.2, same.3⟩⟩

end PathMatchSpec

namespace PathMatch

def toSpec (path : PathMatch) : PathMatchSpec :=
  ⟨path.comparison.capitals, path.value, some path.caseSensitive⟩

theorem build_to_spec (path : PathMatch) : path.toSpec.build = .ok path :=
  PathMatchSpec.build_eq_ok_iff.2 ⟨path.comparison.of_name_capitals, rfl, rfl⟩

end PathMatch

namespace HeaderMatchSpec

theorem build_eq_ok_iff {spec : HeaderMatchSpec} {header : HeaderMatch} :
    spec.build = .ok header ↔ header.name = spec.headerName ∧
      HeaderComparison.ofName? spec.operator = some header.comparison ∧
      header.value = spec.value ∧ header.caseSensitive = spec.caseSensitive.getD false := by
  obtain ⟨name, comparison, value, caseSensitive⟩ := header
  unfold build
  cases HeaderComparison.ofName? spec.operator with
  | none => simp
  | some known => simp [defaultCaseSensitive, eq_comm]

theorem built_eq_iff {first second : HeaderMatchSpec} {header other : HeaderMatch}
    (built : first.build = .ok header) (another : second.build = .ok other) :
    header = other ↔ first.Agrees second := by
  obtain ⟨name, found, value, case⟩ := build_eq_ok_iff.1 built
  obtain ⟨otherName, foundOther, otherValue, otherCase⟩ := build_eq_ok_iff.1 another
  have word := found_keyword_eq_iff found foundOther
  rw [HeaderMatch.mk.injEq, word, name, otherName, value, otherValue, case, otherCase]
  exact ⟨fun same => ⟨same.1, same.2.1, same.2.2.1, same.2.2.2⟩,
    fun same => ⟨same.1, same.2, same.3, same.4⟩⟩

/-- The headers are built one by one, in order. -/
theorem build_all_eq_ok_iff {specs : List HeaderMatchSpec} {headers : List HeaderMatch} :
    buildAll specs = .ok headers ↔
      List.Forall₂ (fun spec header => spec.build = .ok header) specs headers := by
  induction specs generalizing headers with
  | nil =>
      rw [List.forall₂_nil_left_iff, buildAll, Except.ok.injEq]
      exact eq_comm
  | cons spec rest induction =>
      rw [List.forall₂_cons_left_iff, buildAll, Problem.bind_eq_ok_iff]
      simp only [Problem.bind_eq_ok_iff, induction, Except.ok.injEq]
      constructor
      · rintro ⟨header, first, others, later, rfl⟩
        exact ⟨header, others, first, later, rfl⟩
      · rintro ⟨header, others, first, later, rfl⟩
        exact ⟨header, first, others, later, rfl⟩

theorem built_all_eq_iff {first second : List HeaderMatchSpec} {headers others : List HeaderMatch}
    (built : List.Forall₂ (fun spec header => spec.build = .ok header) first headers)
    (another : List.Forall₂ (fun spec header => spec.build = .ok header) second others) :
    headers = others ↔ List.Forall₂ Agrees first second := by
  induction built generalizing second others with
  | nil => cases another <;> simp
  | cons head _ induction =>
      cases another with
      | nil => simp
      | cons otherHead rest =>
          rw [List.cons.injEq, List.forall₂_cons, built_eq_iff head otherHead, induction rest]

end HeaderMatchSpec

namespace HeaderMatch

def toSpec (header : HeaderMatch) : HeaderMatchSpec :=
  ⟨header.name, header.comparison.capitals, header.value, some header.caseSensitive⟩

theorem build_to_spec (header : HeaderMatch) : header.toSpec.build = .ok header :=
  HeaderMatchSpec.build_eq_ok_iff.2 ⟨rfl, header.comparison.of_name_capitals, rfl, rfl⟩

theorem build_all_to_spec (headers : List HeaderMatch) :
    HeaderMatchSpec.buildAll (headers.map toSpec) = .ok headers := by
  rw [HeaderMatchSpec.build_all_eq_ok_iff, List.forall₂_map_left_iff, List.forall₂_same]
  intro header _
  exact header.build_to_spec

end HeaderMatch

namespace MatchSpec

theorem built_eq_iff {first second : MatchSpec} {criterion other : Criterion}
    (built : BuiltFrom first criterion) (another : BuiltFrom second other) :
    criterion = other ↔ first.Agrees second := by
  constructor
  · rintro rfl
    cases built with
    | method known =>
        cases another with
        | method otherKnown =>
            exact ⟨.some ((found_keyword_eq_iff known otherKnown).1 rfl), .none, .none⟩
    | path built =>
        cases another with
        | path otherBuilt =>
            exact ⟨.none, .some ((PathMatchSpec.built_eq_iff built otherBuilt).1 rfl), .none⟩
    | headers _ built =>
        cases another with
        | headers _ otherBuilt =>
            rw [HeaderMatchSpec.build_all_eq_ok_iff] at built otherBuilt
            exact ⟨.none, .none, .some ((HeaderMatchSpec.built_all_eq_iff built otherBuilt).1 rfl)⟩
  · rintro ⟨method, path, headers⟩
    -- Criteria of two kinds would need a kind that only one of the specs has.
    cases built <;> cases another <;> cases method <;> cases path <;> cases headers
    case method.method.some.none.none known _ _ otherKnown alike =>
      rw [(found_keyword_eq_iff known otherKnown).2 alike]
    case path.path.none.some.none built _ _ otherBuilt agree =>
      rw [(PathMatchSpec.built_eq_iff built otherBuilt).2 agree]
    case headers.headers.none.none.some built _ _ _ otherBuilt agree =>
      rw [HeaderMatchSpec.build_all_eq_ok_iff] at built otherBuilt
      rw [(HeaderMatchSpec.built_all_eq_iff built otherBuilt).2 agree]

end MatchSpec

namespace Criterion

def toSpec : Criterion → MatchSpec
  | .method selected => ⟨some selected.name, none, none, .empty⟩
  | .path matched => ⟨none, some matched.toSpec, none, .empty⟩
  | .headers all => ⟨none, none, some (all.map HeaderMatch.toSpec), .empty⟩

theorem build_to_spec {criterion : Criterion}
    (nonempty : ∀ headers, criterion = .headers headers → headers ≠ []) :
    criterion.toSpec.build = .ok criterion := by
  apply MatchSpec.build_eq_ok_iff.2
  cases criterion with
  | method selected => exact .method selected.of_name_name
  | path matched => exact .path matched.build_to_spec
  | headers all =>
      refine .headers ?_ (HeaderMatch.build_all_to_spec all)
      simpa using nonempty all rfl

end Criterion

namespace Action

def toSpec : Action → ActionSpec
  | .respond status => .respond status
  | .forward groups => .forward (groups.map TargetGroup.toReference)

theorem resolvable_to_spec {action : Action}
    (nonempty : ∀ groups, action = .forward groups → groups ≠ []) : action.toSpec.Resolvable := by
  cases action with
  | respond status => trivial
  | forward groups =>
      refine ⟨by simpa using nonempty groups rfl, .inr ?_⟩
      rw [List.forall_mem_map]
      intro group _
      exact Option.some_ne_none group.weight

theorem resolved_to_spec (action : Action) : action.toSpec.resolved = action := by
  cases action with
  | respond status => rfl
  | forward groups =>
      rw [toSpec, ActionSpec.resolved, List.map_map]
      exact congrArg Action.forward (List.map_id groups)

end Action

/-- The rule as a spec that leaves nothing out: every target has its weight, every keyword is
in capitals, and every comparison says whether case matters. -/
def Rule.toSpec (rule : Rule) : RuleSpec :=
  ⟨rule.name, rule.priority, rule.action.toSpec, rule.criterion.toSpec⟩

namespace RuleSpec

variable {set other : RuleSet} {rule another : Rule}

theorem compiled_eq_iff {first second : RuleSpec}
    (accepted : (first.compile set).outcome = .ok rule)
    (acceptedToo : (second.compile other).outcome = .ok another) :
    rule = another ↔ first.Agrees second := by
  obtain ⟨_, resolvable, realizes⟩ := compile_eq_ok_iff.1 accepted
  obtain ⟨_, resolvableToo, realizesToo⟩ := compile_eq_ok_iff.1 acceptedToo
  have action := ActionSpec.resolved_eq_iff resolvable resolvableToo
  have criterion := MatchSpec.built_eq_iff (MatchSpec.build_eq_ok_iff.1 realizes.criterion)
    (MatchSpec.build_eq_ok_iff.1 realizesToo.criterion)
  rw [← realizes.action, ← realizesToo.action] at action
  constructor
  · rintro rfl
    exact ⟨realizes.name.symm.trans realizesToo.name,
      realizes.priority.symm.trans realizesToo.priority, action.1 rfl, criterion.1 rfl⟩
  · intro agree
    have name := realizes.name.trans (agree.name.trans realizesToo.name.symm)
    have priority := realizes.priority.trans (agree.priority.trans realizesToo.priority.symm)
    cases rule
    cases another
    rw [Rule.mk.injEq]
    exact ⟨name, priority, action.2 agree.action, criterion.2 agree.criterion⟩

theorem compile_to_spec {spec : RuleSpec} (accepted : (spec.compile set).outcome = .ok rule)
    (free : other.containsPriority rule.priority = false) :
    (rule.toSpec.compile other).outcome = .ok rule := by
  obtain ⟨_, resolvable, realizes⟩ := compile_eq_ok_iff.1 accepted
  apply compile_eq_ok_iff.2
  refine ⟨free, Action.resolvable_to_spec ?_, rfl, rfl, rule.action.resolved_to_spec.symm,
    Criterion.build_to_spec ?_⟩
  · intro groups forwards
    exact ActionSpec.resolved_groups_nonempty resolvable (realizes.action.symm.trans forwards)
  · intro headers selects
    exact MatchSpec.built_headers_nonempty (selects ▸ realizes.criterion)

/-- Of the specs that are accepted, those and only those that mean the same give the same
rule; and the rule, said again as a spec, gives itself wherever its priority is free. -/
theorem rules_tell_meanings (spec : RuleSpec) (set : RuleSet) (rule : Rule)
    (accepted : (spec.compile set).outcome = .ok rule) :
    (∀ (second : RuleSpec) (other : RuleSet) (another : Rule),
      (second.compile other).outcome = .ok another → (rule = another ↔ spec.Agrees second)) ∧
    ∀ later : RuleSet, later.containsPriority rule.priority = false →
      (rule.toSpec.compile later).outcome = .ok rule := by
  constructor
  · intro second other another acceptedToo
    exact compiled_eq_iff accepted acceptedToo
  · intro later free
    exact compile_to_spec accepted free

def terseSpec : RuleSpec :=
  ⟨"beta", 9, .forward [⟨"tg", none⟩], ⟨none, none, some [⟨"X-Beta", "Prefix", "v", none⟩], .empty⟩⟩

def wordySpec : RuleSpec :=
  ⟨"beta", 9, .forward [⟨"tg", some 100⟩],
    ⟨none, none, some [⟨"X-Beta", "pREFIX", "v", some false⟩], .empty⟩⟩

def betaRule : Rule :=
  ⟨"beta", 9, .forward [⟨"tg", 100⟩], .headers [⟨"X-Beta", .startsWith, "v", false⟩]⟩

theorem terse_and_wordy_mean_the_same :
    (terseSpec.compile .empty).outcome = .ok betaRule ∧
    (wordySpec.compile .empty).outcome = .ok betaRule ∧ terseSpec.Agrees wordySpec ∧
    betaRule.toSpec.action = .forward [⟨"tg", some 100⟩] ∧
    (betaRule.toSpec.compile .empty).outcome = .ok betaRule := by
  have terse : (terseSpec.compile .empty).outcome = .ok betaRule := rfl
  have wordy : (wordySpec.compile .empty).outcome = .ok betaRule := rfl
  obtain ⟨same, again⟩ := rules_tell_meanings terseSpec .empty betaRule terse
  exact ⟨terse, wordy, (same wordySpec .empty betaRule wordy).1 rfl, rfl, again .empty rfl⟩

end RuleSpec

end MeshRouting

import MeshRouting.Proofs.Listener.Runs
import Mathlib.Data.List.Basic

/-!
What a sequence of builder calls asks for, said without the builder. Of the calls about the
action the last response counts, and the targets after it if there are any; of a method and
of a path the last one, in whichever way the path is given; and of headers all. A spec can
be asked for by calls exactly if it has no unrecognized member and no empty list of headers.
-/

namespace MeshRouting

namespace BuilderCall

def status? : BuilderCall → Option UInt32
  | .respond status => some status
  | _ => none

def target? : BuilderCall → Option TargetReference
  | .forward target => some ⟨target, none⟩
  | .forwardWeighted target weight => some ⟨target, some weight⟩
  | _ => none

def method? : BuilderCall → Option String
  | .method name => some name
  | _ => none

/-- Two calls name the type of the path themselves, and say nothing of the case of letters. -/
def path? : BuilderCall → Option PathMatchSpec
  | .path spec => some spec
  | .pathExact value => some ⟨"EXACT", value, none⟩
  | .pathStartsWith value => some ⟨"PREFIX", value, none⟩
  | _ => none

def header? : BuilderCall → Option HeaderMatchSpec
  | .header spec => some spec
  | _ => none

/-- Calls about the action of the rule; all others are about its match. -/
def isAction (call : BuilderCall) : Bool := call.status?.isSome || call.target?.isSome

end BuilderCall

/-- The action that calls ask for. Only the calls after the last response matter, and the
response itself only if no target is among them. -/
inductive ActionSpec.AskedBy : List BuilderCall → ActionSpec → Prop
  | respond {before after : List BuilderCall} {status : UInt32}
      (last : after.filterMap (·.status?) = []) (alone : after.filterMap (·.target?) = []) :
      AskedBy (before ++ .respond status :: after) (.respond status)
  | forwardInstead {before after : List BuilderCall} {status : UInt32}
      (last : after.filterMap (·.status?) = []) (replaced : after.filterMap (·.target?) ≠ []) :
      AskedBy (before ++ .respond status :: after) (.forward (after.filterMap (·.target?)))
  | forward {calls : List BuilderCall} (never : calls.filterMap (·.status?) = []) :
      AskedBy calls (.forward (calls.filterMap (·.target?)))

/-- The spec that calls ask for under a name and a priority. -/
structure RuleSpec.AskedBy (spec : RuleSpec) (name : String) (priority : UInt32)
    (calls : List BuilderCall) : Prop where
  name : spec.name = name
  priority : spec.priority = priority
  action : ActionSpec.AskedBy calls spec.action
  methodMatch : spec.matchSpec.methodMatch = (calls.filterMap (·.method?)).getLast?
  pathMatch : spec.matchSpec.pathMatch = (calls.filterMap (·.path?)).getLast?
  headerMatches : spec.matchSpec.headerMatches =
    if (calls.filterMap (·.header?)).isEmpty then none else some (calls.filterMap (·.header?))
  unrecognized : spec.matchSpec.unrecognized = .empty

namespace RuleBuilder

variable {call other : BuilderCall} {calls : List BuilderCall}

/-- The targets that one more target is added to. -/
def forwarded : Option ActionSpec → List TargetReference
  | some (.forward targets) => targets
  | _ => []

theorem add_target_eq (builder : RuleBuilder) (reference : TargetReference) :
    builder.addTarget reference =
      { builder with action := some (.forward (forwarded builder.action ++ [reference])) } := by
  obtain ⟨action, matchSpec⟩ := builder
  obtain _ | status | targets := action <;> rfl

theorem apply_of_target {reference : TargetReference} (told : call.target? = some reference)
    (builder : RuleBuilder) : builder.apply call =
      { builder with action := some (.forward (forwarded builder.action ++ [reference])) } := by
  cases call with
  | forward target =>
      cases told
      exact add_target_eq builder _
  | forwardWeighted target weight =>
      cases told
      exact add_target_eq builder _
  | method | path | pathExact | pathStartsWith | header | respond => cases told

theorem apply_action_of_match (about : call.isAction = false) (builder : RuleBuilder) :
    (builder.apply call).action = builder.action := by
  cases call with
  | method | path | pathExact | pathStartsWith | header => rfl
  | respond | forward | forwardWeighted => cases about

/-- Calls without a response extend the targets there are, or replace a response. -/
theorem action_of_no_response (never : calls.filterMap (·.status?) = [])
    (builder : RuleBuilder) :
    (calls.foldl apply builder).action =
      if (calls.filterMap (·.target?)).isEmpty then builder.action
      else some (.forward (forwarded builder.action ++ calls.filterMap (·.target?))) := by
  induction calls generalizing builder with
  | nil => rfl
  | cons call rest induction =>
      rw [List.filterMap_eq_nil_iff, List.forall_mem_cons] at never
      rcases never with ⟨noStatus, never⟩
      -- The builder is any one: after a first target the others are added to it.
      have later := induction (List.filterMap_eq_nil_iff.2 never) (builder.apply call)
      rw [List.foldl_cons, later]
      cases told : call.target? with
      | none =>
          have about : call.isAction = false := by simp [BuilderCall.isAction, noStatus, told]
          rw [apply_action_of_match about, List.filterMap_cons_none told]
      | some reference =>
          rw [apply_of_target told, List.filterMap_cons_some told]
          cases rest.filterMap (·.target?) <;> simp [forwarded]

theorem action_of_asked {action : ActionSpec} (asked : ActionSpec.AskedBy calls action) :
    (calls.foldl apply start).action.getD (.forward []) = action := by
  cases asked with
  | respond last alone =>
      rw [List.foldl_append, List.foldl_cons, action_of_no_response last, alone]
      rfl
  | forwardInstead last replaced =>
      rw [List.foldl_append, List.foldl_cons, action_of_no_response last,
        if_neg (by simpa using replaced)]
      rfl
  | forward never =>
      rw [action_of_no_response never]
      cases calls.filterMap (·.target?) <;> rfl

theorem never_or_last_response (calls : List BuilderCall) :
    calls.filterMap (·.status?) = [] ∨ ∃ before status after,
      calls = before ++ .respond status :: after ∧ after.filterMap (·.status?) = [] := by
  induction calls with
  | nil => exact .inl rfl
  | cons call rest induction =>
      obtain never | ⟨before, status, after, rfl, last⟩ := induction
      · cases call with
        | respond status => exact .inr ⟨[], status, rest, rfl, never⟩
        | method | path | pathExact | pathStartsWith | header | forward | forwardWeighted =>
            exact .inl never
      · exact .inr ⟨call :: before, status, after, rfl, last⟩

theorem exists_action_asked (calls : List BuilderCall) :
    ∃ action, ActionSpec.AskedBy calls action := by
  obtain never | ⟨before, status, after, rfl, last⟩ := never_or_last_response calls
  · exact ⟨_, .forward never⟩
  · by_cases alone : after.filterMap (·.target?) = []
    · exact ⟨_, .respond last alone⟩
    · exact ⟨_, .forwardInstead last alone⟩

/-- A field that is changed by one kind of call only is made from what those calls say. -/
theorem field_of_calls {σ α : Type} (field : RuleBuilder → σ) (part? : BuilderCall → Option α)
    (change : σ → α → σ)
    (changed : ∀ (builder : RuleBuilder) (call : BuilderCall), field (builder.apply call) =
      (part? call).elim (field builder) (change (field builder)))
    (builder : RuleBuilder) (calls : List BuilderCall) :
    field (calls.foldl apply builder) = (calls.filterMap part?).foldl change (field builder) := by
  induction calls generalizing builder with
  | nil => rfl
  | cons call rest induction =>
      rw [List.foldl_cons, induction, changed]
      cases told : part? call with
      | none => rw [List.filterMap_cons_none told, Option.elim_none]
      | some value => rw [List.filterMap_cons_some told, Option.elim_some, List.foldl_cons]

@[simp] theorem add_target_match_spec (builder : RuleBuilder) (reference : TargetReference) :
    (builder.addTarget reference).matchSpec = builder.matchSpec := by
  rw [add_target_eq]

theorem last_counts {α : Type} (values : List α) (first : Option α) :
    values.foldl (fun _ value => some value) first = values.getLast?.or first := by
  induction values generalizing first with
  | nil => rfl
  | cons value rest induction =>
      rw [List.foldl_cons, induction, List.getLast?_cons]
      cases rest.getLast? <;> rfl

theorem all_count {α : Type} (values given : List α) :
    values.foldl (fun headers value => some (headers.getD [] ++ [value])) (some given) =
      some (given ++ values) := by
  induction values generalizing given with
  | nil => rw [List.append_nil, List.foldl_nil]
  | cons value rest induction =>
      rw [List.foldl_cons, Option.getD_some, induction, List.append_assoc, List.singleton_append]

theorem method_match_of_calls (calls : List BuilderCall) :
    (calls.foldl apply start).matchSpec.methodMatch = (calls.filterMap (·.method?)).getLast? := by
  rw [field_of_calls (·.matchSpec.methodMatch) (·.method?) fun _ name => some name]
  · rw [last_counts]
    exact Option.or_none
  · intro builder call
    cases call <;> simp [apply, setPath, addHeader, BuilderCall.method?]

theorem path_match_of_calls (calls : List BuilderCall) :
    (calls.foldl apply start).matchSpec.pathMatch = (calls.filterMap (·.path?)).getLast? := by
  rw [field_of_calls (·.matchSpec.pathMatch) (·.path?) fun _ path => some path]
  · rw [last_counts]
    exact Option.or_none
  · intro builder call
    cases call <;>
      simp [apply, setPath, addHeader, BuilderCall.path?, PathMatchSpec.exact, PathMatchSpec.startsWith]

theorem header_matches_of_calls (calls : List BuilderCall) :
    (calls.foldl apply start).matchSpec.headerMatches =
      if (calls.filterMap (·.header?)).isEmpty then none
      else some (calls.filterMap (·.header?)) := by
  rw [field_of_calls (·.matchSpec.headerMatches) (·.header?)
    fun headers header => some (headers.getD [] ++ [header])]
  · cases calls.filterMap (·.header?) with
    | nil => rfl
    | cons header rest => exact all_count rest [header]
  · intro builder call
    cases call <;> simp [apply, setPath, addHeader, BuilderCall.header?]

theorem unrecognized_of_calls (calls : List BuilderCall) (builder : RuleBuilder) :
    (calls.foldl apply builder).matchSpec.unrecognized = builder.matchSpec.unrecognized := by
  induction calls generalizing builder with
  | nil => rfl
  | cons call rest induction =>
      rw [List.foldl_cons, induction]
      cases call <;> simp [apply, setPath, addHeader]

/-- A call about the action and one about the match change different fields. -/
theorem apply_comm (asks : call.isAction = true) (about : other.isAction = false)
    (builder : RuleBuilder) : (builder.apply call).apply other = (builder.apply other).apply call := by
  cases other with
  | respond | forward | forwardWeighted => cases about
  | method | path | pathExact | pathStartsWith | header =>
      cases call with
      | method | path | pathExact | pathStartsWith | header => cases asks
      | respond => rfl
      | forward | forwardWeighted => simp only [apply, setPath, addHeader, add_target_eq]

theorem foldl_apply_comm (asks : ∀ call ∈ calls, call.isAction = true)
    (about : other.isAction = false) (builder : RuleBuilder) :
    calls.foldl apply (builder.apply other) = (calls.foldl apply builder).apply other := by
  induction calls generalizing builder with
  | nil => rfl
  | cons call rest induction =>
      obtain ⟨first, others⟩ := List.forall_mem_cons.1 asks
      rw [List.foldl_cons, List.foldl_cons, ← apply_comm first about, induction others]

/-- All calls about the action may be made before all calls about the match. -/
theorem foldl_apply_sorted (calls : List BuilderCall) (builder : RuleBuilder) :
    calls.foldl apply builder =
      (calls.filter fun call => !call.isAction).foldl apply
        ((calls.filter (·.isAction)).foldl apply builder) := by
  induction calls generalizing builder with
  | nil => rfl
  | cons call rest induction =>
      rw [List.foldl_cons, induction]
      cases kind : call.isAction with
      | true => simp [kind]
      | false =>
          -- The call is made after all later ones about the action, which do not mind it.
          rw [foldl_apply_comm (fun _ member => (List.mem_filter.1 member).2) kind]
          simp [kind]

end RuleBuilder

namespace RuleSpec

variable {name : String} {priority : UInt32} {calls others : List BuilderCall}

theorem asked_of_calls (name : String) (priority : UInt32) (calls : List BuilderCall) :
    (ofCalls name priority calls).AskedBy name priority calls := by
  obtain ⟨action, asked⟩ := RuleBuilder.exists_action_asked calls
  have same : (ofCalls name priority calls).action = action := RuleBuilder.action_of_asked asked
  exact ⟨rfl, rfl, same ▸ asked, RuleBuilder.method_match_of_calls calls,
    RuleBuilder.path_match_of_calls calls, RuleBuilder.header_matches_of_calls calls,
    RuleBuilder.unrecognized_of_calls calls .start⟩

/-- Calls ask for one spec only, the one that they put together. -/
theorem eq_of_calls_iff (spec : RuleSpec) :
    spec = ofCalls name priority calls ↔ spec.AskedBy name priority calls := by
  constructor
  · intro same
    subst same
    exact asked_of_calls name priority calls
  · intro asked
    have given := asked_of_calls name priority calls
    have action : (ofCalls name priority calls).action = spec.action :=
      RuleBuilder.action_of_asked asked.action
    obtain ⟨_, _, _, ⟨_, _, _, _⟩⟩ := spec
    rw [RuleSpec.mk.injEq, MatchSpec.mk.injEq]
    exact ⟨asked.name, asked.priority, action.symm, asked.methodMatch.trans given.methodMatch.symm,
      asked.pathMatch.trans given.pathMatch.symm, asked.headerMatches.trans given.headerMatches.symm,
      asked.unrecognized.trans given.unrecognized.symm⟩

/-- How calls about the action and calls about the match are woven makes no difference. -/
theorem of_calls_congr
    (actions : others.filter (·.isAction) = calls.filter (·.isAction))
    (rest : (others.filter fun call => !call.isAction) = calls.filter fun call => !call.isAction) :
    ofCalls name priority others = ofCalls name priority calls := by
  rw [ofCalls, ofCalls, RuleBuilder.foldl_apply_sorted, actions, rest,
    ← RuleBuilder.foldl_apply_sorted]

end RuleSpec

namespace BuilderCall

def ofReference (reference : TargetReference) : BuilderCall :=
  match reference.weight with
  | none => .forward reference.target
  | some weight => .forwardWeighted reference.target weight

theorem target_of_reference (reference : TargetReference) :
    (ofReference reference).target? = some reference := by
  obtain ⟨target, _ | weight⟩ := reference <;> rfl

end BuilderCall

namespace ActionSpec

/-- Calls that ask for the action. No targets need no call. -/
def calls : ActionSpec → List BuilderCall
  | .respond status => [.respond status]
  | .forward targets => targets.map .ofReference

theorem parts_of_targets {α : Type} {part? : BuilderCall → Option α}
    (plain : ∀ target, part? (.forward target) = none)
    (weighted : ∀ target weight, part? (.forwardWeighted target weight) = none)
    (targets : List TargetReference) : (targets.map BuilderCall.ofReference).filterMap part? = [] := by
  rw [List.filterMap_eq_nil_iff, List.forall_mem_map]
  intro reference _
  obtain ⟨target, _ | weight⟩ := reference
  · exact plain target
  · exact weighted target weight

theorem parts_of_calls {α : Type} {part? : BuilderCall → Option α}
    (response : ∀ status, part? (.respond status) = none)
    (plain : ∀ target, part? (.forward target) = none)
    (weighted : ∀ target weight, part? (.forwardWeighted target weight) = none)
    (action : ActionSpec) : action.calls.filterMap part? = [] := by
  cases action with
  | respond status => exact List.filterMap_cons_none (response status)
  | forward targets => exact parts_of_targets plain weighted targets

end ActionSpec

namespace MatchSpec

/-- Calls that ask for the kinds of match that are there. An empty list of headers has none. -/
def calls (spec : MatchSpec) : List BuilderCall :=
  spec.methodMatch.toList.map .method ++
    (spec.pathMatch.toList.map .path ++ (spec.headerMatches.getD []).map .header)

/-- What calls say of a match, one kind after another. -/
theorem parts_of_calls {α : Type} (part? : BuilderCall → Option α) (spec : MatchSpec) :
    spec.calls.filterMap part? =
      spec.methodMatch.toList.filterMap (part? <| .method ·) ++
        (spec.pathMatch.toList.filterMap (part? <| .path ·) ++
          (spec.headerMatches.getD []).filterMap (part? <| .header ·)) := by
  simp only [calls, List.filterMap_append, List.filterMap_map, Function.comp_def]

end MatchSpec

namespace RuleSpec

/-- Calls that ask for the spec, if any do. -/
def calls (spec : RuleSpec) : List BuilderCall := spec.action.calls ++ spec.matchSpec.calls

theorem action_asked_by_calls (spec : RuleSpec) : ActionSpec.AskedBy spec.calls spec.action := by
  have statuses : spec.matchSpec.calls.filterMap (·.status?) = [] := by
    simp [MatchSpec.parts_of_calls, BuilderCall.status?]
  have targets : spec.matchSpec.calls.filterMap (·.target?) = [] := by
    simp [MatchSpec.parts_of_calls, BuilderCall.target?]
  obtain ⟨name, priority, action, matchSpec⟩ := spec
  cases action with
  | respond status => exact @ActionSpec.AskedBy.respond [] _ status statuses targets
  | forward references =>
      have never : (references.map BuilderCall.ofReference ++ matchSpec.calls).filterMap
          (·.status?) = [] := by
        rw [List.filterMap_append, statuses,
          ActionSpec.parts_of_targets (fun _ => rfl) fun _ _ => rfl, List.append_nil]
      have given : (references.map BuilderCall.ofReference ++ matchSpec.calls).filterMap
          (·.target?) = references := by
        rw [List.filterMap_append, targets, List.append_nil, List.filterMap_map]
        simp [BuilderCall.target_of_reference]
      have asked := ActionSpec.AskedBy.forward never
      rw [given] at asked
      exact asked

/-- What is not said of the action is said of the match. -/
theorem parts_of_calls {α : Type} {part? : BuilderCall → Option α}
    (response : ∀ status, part? (.respond status) = none)
    (plain : ∀ target, part? (.forward target) = none)
    (weighted : ∀ target weight, part? (.forwardWeighted target weight) = none)
    (spec : RuleSpec) : spec.calls.filterMap part? = spec.matchSpec.calls.filterMap part? := by
  rw [calls, List.filterMap_append, ActionSpec.parts_of_calls response plain weighted,
    List.nil_append]

theorem asked_by_calls {spec : RuleSpec} (known : spec.matchSpec.unrecognized = .empty)
    (listed : spec.matchSpec.headerMatches ≠ some []) :
    spec.AskedBy spec.name spec.priority spec.calls := by
  refine ⟨rfl, rfl, spec.action_asked_by_calls, ?_, ?_, ?_, known⟩
  · rw [parts_of_calls (fun _ => rfl) (fun _ => rfl) fun _ _ => rfl, MatchSpec.parts_of_calls]
    cases spec.matchSpec.methodMatch <;> simp [BuilderCall.method?]
  · rw [parts_of_calls (fun _ => rfl) (fun _ => rfl) fun _ _ => rfl, MatchSpec.parts_of_calls]
    cases spec.matchSpec.pathMatch <;> simp [BuilderCall.path?]
  · rw [parts_of_calls (fun _ => rfl) (fun _ => rfl) fun _ _ => rfl, MatchSpec.parts_of_calls]
    cases given : spec.matchSpec.headerMatches with
    | none => simp [BuilderCall.header?]
    | some headers =>
        cases headers with
        | nil => exact absurd given listed
        | cons header rest => simp [BuilderCall.header?]

theorem exists_calls_iff (spec : RuleSpec) :
    (∃ name priority calls, spec = ofCalls name priority calls) ↔
      spec.matchSpec.unrecognized = .empty ∧ spec.matchSpec.headerMatches ≠ some [] := by
  constructor
  · intro made
    rcases made with ⟨name, priority, calls, rfl⟩
    have asked := asked_of_calls name priority calls
    refine ⟨asked.unrecognized, ?_⟩
    rw [asked.headerMatches]
    cases calls.filterMap (·.header?) <;> simp
  · intro allowed
    rcases allowed with ⟨known, listed⟩
    exact ⟨_, _, _, (eq_of_calls_iff spec).2 (asked_by_calls known listed)⟩

/-- The meaning of a sequence of builder calls. It asks for one spec, which is the one that
is offered to a table. Calls about the action commute with calls about the match, so all
sequences that have the same calls of each sort, in the same order, ask for the same spec;
and the specs that can be asked for have no unrecognized member and no empty list of headers. -/
theorem calls_ask_for_spec (name : String) (priority : UInt32) (calls : List BuilderCall) :
    (∀ spec : RuleSpec, spec = ofCalls name priority calls ↔ spec.AskedBy name priority calls) ∧
    (∀ (table : RoutingTable) (spec : RuleSpec), spec.AskedBy name priority calls →
      table.addRule name priority calls = table.add spec) ∧
    (∀ (builder : RuleBuilder) (call other : BuilderCall), call.isAction = true →
      other.isAction = false →
      (builder.apply call).apply other = (builder.apply other).apply call) ∧
    (∀ others : List BuilderCall, others.filter (·.isAction) = calls.filter (·.isAction) →
      (others.filter fun call => !call.isAction) = (calls.filter fun call => !call.isAction) →
      ofCalls name priority others = ofCalls name priority calls) ∧
    ∀ spec : RuleSpec, (∃ name priority calls, spec = ofCalls name priority calls) ↔
      spec.matchSpec.unrecognized = .empty ∧ spec.matchSpec.headerMatches ≠ some [] := by
  refine ⟨eq_of_calls_iff, ?_, ?_, ?_, exists_calls_iff⟩
  · intro table spec asked
    rw [(eq_of_calls_iff spec).2 asked]
    rfl
  · intro builder call other asks about
    exact RuleBuilder.apply_comm asks about builder
  · intro others actions rest
    exact of_calls_congr actions rest

/-- The first target after the response replaces it, and the exact path the one before it. -/
def wovenCalls : List BuilderCall :=
  [.method "GET", .forward "old", .pathStartsWith "/x", .respond 404,
    .header ⟨"X-A", "EXACT", "1", none⟩, .forward "a", .method "put", .forwardWeighted "b" 20,
    .header ⟨"X-B", "PREFIX", "2", some true⟩, .pathExact "/y"]

def sortedCalls : List BuilderCall :=
  [.forward "old", .respond 404, .forward "a", .forwardWeighted "b" 20, .method "GET",
    .pathStartsWith "/x", .header ⟨"X-A", "EXACT", "1", none⟩, .method "put",
    .header ⟨"X-B", "PREFIX", "2", some true⟩, .pathExact "/y"]

def wovenSpec : RuleSpec :=
  ⟨"woven", 9, .forward [⟨"a", none⟩, ⟨"b", some 20⟩],
    ⟨some "put", some ⟨"EXACT", "/y", none⟩,
      some [⟨"X-A", "EXACT", "1", none⟩, ⟨"X-B", "PREFIX", "2", some true⟩], .empty⟩⟩

/-- The spec after one more call, for a path that starts with something. -/
def widenedSpec : RuleSpec :=
  { wovenSpec with
    matchSpec := { wovenSpec.matchSpec with pathMatch := some ⟨"PREFIX", "/z", none⟩ } }

theorem woven_calls_ask_for_spec :
    wovenSpec.AskedBy "woven" 9 wovenCalls ∧
    widenedSpec.AskedBy "woven" 9 (wovenCalls ++ [.pathStartsWith "/z"]) ∧
    RoutingTable.plainTable.addRule "woven" 9 wovenCalls = RoutingTable.plainTable.add wovenSpec ∧
    (RuleBuilder.start.apply (.forward "a")).apply (.method "put") =
      (RuleBuilder.start.apply (.method "put")).apply (.forward "a") ∧
    ofCalls "woven" 9 sortedCalls = wovenSpec ∧
    ∃ name priority calls, wovenSpec = ofCalls name priority calls := by
  obtain ⟨asked, offered, commuting, sorted, made⟩ := calls_ask_for_spec "woven" 9 wovenCalls
  have same : wovenSpec = ofCalls "woven" 9 wovenCalls := rfl
  have told := (asked wovenSpec).1 same
  have widened := (calls_ask_for_spec "woven" 9 (wovenCalls ++ [.pathStartsWith "/z"])).1 widenedSpec
  refine ⟨told, widened.1 rfl, offered _ _ told, commuting _ _ _ rfl rfl, ?_, ?_⟩
  · exact (sorted sortedCalls rfl rfl).trans same.symm
  · exact (made wovenSpec).2 ⟨rfl, by simp [wovenSpec]⟩

end RuleSpec

end MeshRouting

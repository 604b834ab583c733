import MeshRouting.Rule.Spec

/-!
A rule put together call by call. A response replaces whatever the action was; targets add
up, but replace a response. Header matches add up; of other matches the last call counts.
-/

namespace MeshRouting

inductive BuilderCall
  | method (name : String)
  | path (path : PathMatchSpec)
  | pathExact (value : String)
  | pathStartsWith (value : String)
  | header (header : HeaderMatchSpec)
  | respond (status : UInt32)
  | forward (target : String)
  | forwardWeighted (target : String) (weight : UInt32)

structure RuleBuilder where
  action : Option ActionSpec
  matchSpec : MatchSpec

namespace RuleBuilder

def start : RuleBuilder := ⟨none, .empty⟩

def addTarget (builder : RuleBuilder) (reference : TargetReference) : RuleBuilder :=
  match builder.action with
  | some (.forward targets) => { builder with action := some (.forward (targets ++ [reference])) }
  | _ => { builder with action := some (.forward [reference]) }

def addHeader (builder : RuleBuilder) (header : HeaderMatchSpec) : RuleBuilder :=
  let headers := builder.matchSpec.headerMatches.getD []
  { builder with matchSpec := { builder.matchSpec with headerMatches := some (headers ++ [header]) } }

def setPath (builder : RuleBuilder) (path : PathMatchSpec) : RuleBuilder :=
  { builder with matchSpec := { builder.matchSpec with pathMatch := some path } }

/-- The two types of path have calls of their own, which set the path like any other. -/
def apply (builder : RuleBuilder) : BuilderCall → RuleBuilder
  | .method name =>
      { builder with matchSpec := { builder.matchSpec with methodMatch := some name } }
  | .path path => builder.setPath path
  | .pathExact value => builder.setPath (.exact value)
  | .pathStartsWith value => builder.setPath (.startsWith value)
  | .header header => builder.addHeader header
  | .respond status => { builder with action := some (.respond status) }
  | .forward target => builder.addTarget ⟨target, none⟩
  | .forwardWeighted target weight => builder.addTarget ⟨target, some weight⟩

/-- A rule without an action forwards to nothing, and is rejected for it. -/
def spec (builder : RuleBuilder) (name : String) (priority : UInt32) : RuleSpec :=
  ⟨name, priority, builder.action.getD (.forward []), builder.matchSpec⟩

end RuleBuilder

namespace RuleSpec

def ofCalls (name : String) (priority : UInt32) (calls : List BuilderCall) : RuleSpec :=
  (calls.foldl RuleBuilder.apply .start).spec name priority

end RuleSpec

end MeshRouting

import MeshRouting.Action.Resolution
import MeshRouting.Match.Building
import MeshRouting.Rule.RuleSet
import MeshRouting.Rule.Spec

/-!
Turning a rule spec into a rule. The stages come in a fixed order: the priority must be
free, then the action is resolved, then the match is built. The rule set is not changed.
-/

namespace MeshRouting.RuleSpec

def checkPriority (spec : RuleSpec) (set : RuleSet) : Traced RuleError Unit :=
  if set.containsPriority spec.priority then .fail (.duplicatePriority spec.name spec.priority)
  else .pure ()

def buildMatch (spec : RuleSpec) : Traced RuleError Criterion :=
  match spec.matchSpec.build with
  | .ok criterion => .pure criterion
  | .error problem => .fail (.invalidMatch spec.name problem)

def compile (spec : RuleSpec) (set : RuleSet) : Traced RuleError Rule := do
  spec.checkPriority set
  let action ← spec.action.resolve spec.name
  let criterion ← spec.buildMatch
  return ⟨spec.name, spec.priority, action, criterion⟩

end MeshRouting.RuleSpec

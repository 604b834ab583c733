import MeshRouting.Action.Basic
import MeshRouting.Action.Spec
import MeshRouting.Event

/-!
Resolving the action of a rule. A lone target needs no weight; several targets each need
one, and the first that has none rejects the rule. Status codes and weights are passed on
as given, with a warning where they are unlikely.
-/

namespace MeshRouting

/-- The weight of a lone target that has none. -/
def defaultWeight : UInt32 := 100

/-- Heavier targets are accepted with a warning. -/
def greatestUsualWeight : UInt32 := 100

def isUsualStatus (status : UInt32) : Bool := 100 ≤ status && status ≤ 599

namespace TargetReference

/-- The weight of a target, alone or one of several. -/
def resolveWeight (rule : String) (several : Bool) (reference : TargetReference) :
    Traced RuleError UInt32 :=
  match reference.weight with
  | some weight => .pure weight
  | none => if several then .fail (.missingWeight rule reference.target) else .pure defaultWeight

def resolve (rule : String) (several : Bool) (reference : TargetReference) :
    Traced RuleError TargetGroup := do
  let weight ← reference.resolveWeight rule several
  if greatestUsualWeight < weight then
    Traced.emit (.heavyTarget rule reference.target weight)
  return ⟨reference.target, weight⟩

def resolveAll (rule : String) (several : Bool) :
    List TargetReference → Traced RuleError (List TargetGroup)
  | [] => .pure []
  | reference :: rest => do
      let group ← reference.resolve rule several
      let groups ← resolveAll rule several rest
      return group :: groups

end TargetReference

namespace ActionSpec

def resolve (rule : String) : ActionSpec → Traced RuleError Action
  | .respond status => do
      if !isUsualStatus status then
        Traced.emit (.statusOutsideRange rule status)
      return .respond status
  | .forward [] => .fail (.emptyAction rule)
  | .forward targets => do
      let groups ← TargetReference.resolveAll rule (1 < targets.length) targets
      return .forward groups

end ActionSpec

end MeshRouting

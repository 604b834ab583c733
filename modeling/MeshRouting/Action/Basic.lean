import MeshRouting.Json.Basic

/-!
Actions in the form that is provisioned: every target group has a weight.
-/

namespace MeshRouting

structure TargetGroup where
  identifier : String
  weight : UInt32
  deriving DecidableEq

inductive Action
  | respond (status : UInt32)
  | forward (groups : List TargetGroup)
  deriving DecidableEq

namespace TargetGroup

def describe (group : TargetGroup) : String := s!"{group.identifier}:{group.weight}"

def toJson (group : TargetGroup) : Json :=
  .object [("targetGroupIdentifier", .string group.identifier),
    ("weight", .number (.ofWord group.weight))]

end TargetGroup

namespace Action

/-- None for a fixed response. -/
def targetGroups : Action → List TargetGroup
  | .respond _ => []
  | .forward groups => groups

def describe : Action → String
  | .respond status => s!"respond {status}"
  | .forward groups => "forward " ++ ", ".intercalate (groups.map TargetGroup.describe)

def toJson : Action → Json
  | .respond status =>
      .object [("fixedResponse", .object [("statusCode", .number (.ofWord status))])]
  | .forward groups =>
      .object [("forward", .object [("targetGroups", .array (groups.map TargetGroup.toJson))])]

end Action

end MeshRouting

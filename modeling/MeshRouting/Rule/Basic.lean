import MeshRouting.Action.Basic
import MeshRouting.Match.Criterion

/-!
A rule that passed validation.
-/

namespace MeshRouting

structure Rule where
  name : String
  priority : UInt32
  action : Action
  criterion : Criterion
  deriving DecidableEq

namespace Rule

def describe (rule : Rule) : String :=
  s!"{rule.name} (priority {rule.priority}): {rule.criterion.describe} -> {rule.action.describe}"

/-- The definition of the rule on the listener with this identifier. -/
def definition (rule : Rule) (listener : String) : Json :=
  .object [("name", .string rule.name), ("listenerIdentifier", .string listener),
    ("priority", .number (.ofWord rule.priority)), ("action", rule.action.toJson),
    ("match", .object [("httpMatch", rule.criterion.toJson)])]

end Rule

end MeshRouting

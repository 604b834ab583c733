import MeshRouting.Action.Spec
import MeshRouting.Match.Spec

/-!
Rules as a caller describes them. The keys of the match stand among those of the rule.
-/

namespace MeshRouting

structure RuleSpec where
  name : String
  priority : UInt32
  action : ActionSpec
  matchSpec : MatchSpec

namespace RuleSpec

def fields : Fields (String × UInt32 × ActionSpec) :=
  (Fields.required "name" Decoder.string).and
    ((Fields.required "priority" Decoder.word32).and
      (Fields.required "action" ActionSpec.decoder))

/-- Members that are not the rule's own are set aside whole, and read as a match once
nothing of the rule itself is missing. -/
def ofMembers (context : Context) (members : Members) (ending : Except DecodeError Unit) :
    Except DecodeError RuleSpec := do
  let ((name, priority, action), others) ← Decoder.readAndKeep fields context members ending
  let matchSpec ← MatchSpec.ofMembers { context with buffered := true }
    (Json.memberSources others) (.ok ())
  .ok ⟨name, priority, action, matchSpec⟩

def decoder : Decoder RuleSpec := .object "RuleSpec" ofMembers

def toJson (spec : RuleSpec) : Json :=
  .object (("name", .string spec.name) :: ("priority", .number (.ofWord spec.priority)) ::
    ("action", spec.action.toJson) :: spec.matchSpec.members)

end RuleSpec

end MeshRouting

import MeshRouting.Decoding.Record

/-!
Actions as a caller describes them: a bare status code, or the target groups to forward to.
-/

namespace MeshRouting

structure TargetReference where
  target : String
  weight : Option UInt32
  deriving DecidableEq

inductive ActionSpec
  | respond (status : UInt32)
  | forward (targets : List TargetReference)
  deriving DecidableEq

namespace TargetReference

/-- The name of the resolved form is accepted for the target as well. -/
def fields : Fields TargetReference :=
  ((Fields.one ⟨"target", ["targetGroupIdentifier"]⟩ Decoder.string none).and
    (Fields.optional "weight" Decoder.word32)).map fun (target, weight) => ⟨target, weight⟩

def decoder : Decoder TargetReference := .record "TargetReference" fields

def toJson (reference : TargetReference) : Json :=
  .object (("target", .string reference.target) ::
    Json.memberIfSome "weight" (.number <| .ofWord ·) reference.weight)

end TargetReference

namespace ActionSpec

def decoder : Decoder ActionSpec :=
  .choice "ActionSpec"
    [Decoder.word32.map .respond, (Decoder.list TargetReference.decoder).map .forward]

def toJson : ActionSpec → Json
  | .respond status => .number (.ofWord status)
  | .forward targets => .array (targets.map TargetReference.toJson)

end ActionSpec

end MeshRouting

import MeshRouting.Action.Spec

/-!
Listeners: where a service takes its traffic, and what happens to a request that no rule
matches.
-/

namespace MeshRouting

inductive Protocol
  | http
  | https
  deriving DecidableEq

namespace Protocol

def name : Protocol → String
  | .http => "HTTP"
  | .https => "HTTPS"

def defaultPort : Protocol → UInt16
  | .http => 80
  | .https => 443

def decoder : Decoder Protocol := .variant [("HTTP", .http), ("HTTPS", .https)]

def toJson (protocol : Protocol) : Json := .string protocol.name

end Protocol

structure Listener where
  name : String
  protocol : Protocol
  explicitPort : Option UInt16
  serviceIdentifier : String
  defaultAction : ActionSpec
  deriving DecidableEq

namespace Listener

def port (listener : Listener) : UInt16 :=
  listener.explicitPort.getD listener.protocol.defaultPort

/-- What rules call the listener. -/
def identifier (listener : Listener) : String := s!"{listener.serviceIdentifier}/{listener.name}"

def fields : Fields Listener :=
  ((Fields.required "name" Decoder.string).and
    ((Fields.required "protocol" Protocol.decoder).and
      ((Fields.optional "port" Decoder.word16).and
        ((Fields.required "serviceIdentifier" Decoder.string).and
          (Fields.required "defaultAction" ActionSpec.decoder))))).map
            fun (name, protocol, port, serviceIdentifier, defaultAction) =>
              ⟨name, protocol, port, serviceIdentifier, defaultAction⟩

def decoder : Decoder Listener := .record "Listener" fields

def toJson (listener : Listener) : Json :=
  .object (("name", .string listener.name) :: ("protocol", listener.protocol.toJson) ::
    Json.memberIfSome "port" (.number <| .ofPort ·) listener.explicitPort ++
    [("serviceIdentifier", .string listener.serviceIdentifier),
      ("defaultAction", listener.defaultAction.toJson)])

end Listener

end MeshRouting

import MeshRouting.Listener.RoutingTable

/-!
Configurations: a listener together with its rules, as JSON text.
-/

namespace MeshRouting

structure ListenerConfig where
  listener : Listener
  rules : List RuleSpec

inductive LoadError
  /-- There is no file, or what it holds is not text. -/
  | unreadable
  | decoding (error : DecodeError)
  | rule (error : RuleError)

namespace ListenerConfig

/-- The rules may be left out but not be null. -/
def fields : Fields ListenerConfig :=
  ((Fields.required "listener" Listener.decoder).and
    (Fields.one ⟨"rules", []⟩ (Decoder.list RuleSpec.decoder) (some []))).map
      fun (listener, rules) => ⟨listener, rules⟩

def decoder : Decoder ListenerConfig := .record "ListenerConfig" fields

def toJson (config : ListenerConfig) : Json :=
  .object [("listener", config.listener.toJson), ("rules", .array (config.rules.map RuleSpec.toJson))]

/-- The table of the listener with all rules added; the first rejection ends it. -/
def compile (config : ListenerConfig) : Traced RuleError RoutingTable := do
  let table ← RoutingTable.create config.listener
  let table ← table.addAll config.rules
  Traced.emit (.compiled table.identifier table.size)
  return table

end ListenerConfig

namespace RoutingTable

def ofText (text : String) : Traced LoadError RoutingTable :=
  match ListenerConfig.decoder.run text with
  | .error error => .fail (.decoding error)
  | .ok config => config.compile.mapError .rule

/-- Loads what a file holds, `none` for a file that is not there. -/
def ofFile (bytes : Option ByteArray) : Traced LoadError RoutingTable :=
  match bytes.bind String.fromUTF8? with
  | none => .fail .unreadable
  | some text => ofText text

end RoutingTable

end MeshRouting

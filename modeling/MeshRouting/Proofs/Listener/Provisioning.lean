import MeshRouting.Listener.RoutingTable
import MeshRouting.Proofs.Decoding.Texts
import MeshRouting.Proofs.Rule.Provisioning

/-!
The definition of a listener that is handed to provisioning. Its text reads as a value of
the documented form, and two tables have the same text only if they agree in everything
that the form speaks of. Nothing is asked of the tables: the priorities of their rules may
clash, and names and values may be any text.
-/

namespace MeshRouting

namespace RoutingTable

/-- The port is the explicit one, or else the usual one of the protocol. -/
structure Provisioned (table : RoutingTable) (value : Json) : Prop where
  keys : value.keys =
    ["name", "protocol", "port", "serviceIdentifier", "defaultAction", "rules"]
  name : value.string? "name" = some table.listener.name
  protocol : value.string? "protocol" = some (match table.listener.protocol with
    | .http => "HTTP"
    | .https => "HTTPS")
  port : value.integer? "port" =
    some (match table.listener.explicitPort, table.listener.protocol with
      | some port, _ => port.toNat
      | none, .http => 80
      | none, .https => 443)
  service : value.string? "serviceIdentifier" = some table.listener.serviceIdentifier
  defaultAction : value.Has "defaultAction" table.defaultAction.Provisioned
  rules : value.Lists "rules"
    (Rule.Provisioned (table.listener.serviceIdentifier ++ "/" ++ table.listener.name))
    table.rules.rules

/-- What the documented form speaks of is the same. -/
structure Alike (table other : RoutingTable) : Prop where
  name : table.listener.name = other.listener.name
  protocol : table.listener.protocol = other.listener.protocol
  port : table.listener.port = other.listener.port
  service : table.listener.serviceIdentifier = other.listener.serviceIdentifier
  defaultAction : table.defaultAction = other.defaultAction
  rules : table.rules.rules = other.rules.rules

variable {table other : RoutingTable}

theorem provisioned_definition (table : RoutingTable) : table.Provisioned table.definition := by
  have protocol : table.definition.string? "protocol" = some table.listener.protocol.name := rfl
  have port : table.definition.integer? "port" = some ↑table.listener.port.toNat := rfl
  have rules : table.definition.Lists "rules" (Rule.Provisioned table.identifier)
      table.rules.rules := by
    refine Json.lists_of_map ?_ rfl
    intro rule _
    exact rule.provisioned_definition table.identifier
  refine ⟨rfl, rfl, ?_, ?_, rfl, ⟨_, rfl, table.defaultAction.provisioned_to_json⟩, rules⟩
  · rw [protocol]
    cases table.listener.protocol <;> rfl
  · rw [port, Listener.port]
    cases table.listener.explicitPort <;> cases table.listener.protocol <;> rfl

/-- The effective port is the one that the form has. -/
theorem effective_port_of_provisioned {value : Json} (provisioned : table.Provisioned value) :
    value.integer? "port" = some ↑table.listener.port.toNat := by
  rw [provisioned.port, Listener.port]
  cases table.listener.explicitPort <;> cases table.listener.protocol <;> rfl

theorem alike_of_provisioned {value : Json} (first : table.Provisioned value)
    (second : other.Provisioned value) : table.Alike other := by
  have name := Option.some.inj (first.name.symm.trans second.name)
  have service := Option.some.inj (first.service.symm.trans second.service)
  have protocol : table.listener.protocol = other.listener.protocol := by
    have same := Option.some.inj (first.protocol.symm.trans second.protocol)
    cases own : table.listener.protocol <;> cases others : other.listener.protocol <;>
      simp [own, others] at same ⊢
  have port : table.listener.port = other.listener.port := by
    have same := (effective_port_of_provisioned first).symm.trans
      (effective_port_of_provisioned second)
    rw [Option.some.injEq, Int.natCast_inj] at same
    exact UInt16.toNat_inj.1 same
  have action := Json.has_tells Action.provisioned_tells first.defaultAction second.defaultAction
  have rules := second.rules
  rw [← name, ← service] at rules
  exact ⟨name, protocol, port, service, action,
    Json.lists_tells (Rule.provisioned_tells _) first.rules rules⟩

theorem definition_of_alike (alike : table.Alike other) : table.definition = other.definition := by
  have identifier : table.identifier = other.identifier := by
    rw [RoutingTable.identifier, RoutingTable.identifier, Listener.identifier, Listener.identifier,
      alike.name, alike.service]
  rw [definition, definition, alike.name, alike.protocol, alike.port, alike.service,
    alike.defaultAction, alike.rules, identifier]

theorem definition_nests (table : RoutingTable) (room : Nat) :
    table.definition.NestsWithin (room + 8) := by
  have action := table.defaultAction.to_json_nests (room + 3)
  refine ⟨trivial, trivial, trivial, trivial, action, Json.written_items_nest_iff.2 ?_, trivial⟩
  intro rule _
  exact rule.definition_nests table.identifier room

theorem definition_float_free (table : RoutingTable) : table.definition.FloatFree := by
  have action := table.defaultAction.to_json_float_free
  refine ⟨trivial, trivial, trivial, trivial, action,
    Json.written_items_float_free_iff.2 ?_, trivial⟩
  intro rule _
  exact rule.definition_float_free table.identifier

/-- The text holds nothing but the definition, which nests far less deep than a reader allows. -/
theorem run_definition_text (table : RoutingTable) :
    Decoder.json.run table.definitionText = .ok table.definition :=
  Decoder.run_write Json.Layout.blank_pretty (Decoder.json_reads_back table.definition)
    table.definition_float_free (table.definition_nests 119)

/-- The text of a definition reads as a value of the documented form, and it is the same
for two tables exactly if they have the same name, protocol, effective port, service,
default action and rules. -/
theorem definition_text_faithful (table : RoutingTable) :
    (∃ value, Decoder.json.run table.definitionText = .ok value ∧ table.Provisioned value) ∧
    ∀ other : RoutingTable, table.definitionText = other.definitionText ↔ table.Alike other := by
  refine ⟨⟨table.definition, table.run_definition_text, table.provisioned_definition⟩, ?_⟩
  intro other
  constructor
  · intro same
    have read := table.run_definition_text
    rw [same, other.run_definition_text, Except.ok.injEq] at read
    have provisioned := other.provisioned_definition
    rw [read] at provisioned
    exact alike_of_provisioned table.provisioned_definition provisioned
  · intro alike
    rw [definitionText, definitionText, definition_of_alike alike]

end RoutingTable

end MeshRouting

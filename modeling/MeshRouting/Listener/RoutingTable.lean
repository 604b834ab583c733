import MeshRouting.Json.Render
import MeshRouting.Listener.Basic
import MeshRouting.Rule.Builder
import MeshRouting.Rule.Compilation

/-!
A listener with the rules committed to it. Rules may be added at any time; each is either
committed whole or rejected with the table as it was. There is no removal.
-/

namespace MeshRouting

structure RoutingTable where
  listener : Listener
  defaultAction : Action
  rules : RuleSet

namespace RoutingTable

/-- The default action is resolved like that of a rule, under a name of its own. -/
def create (listener : Listener) : Traced RuleError RoutingTable := do
  let action ← listener.defaultAction.resolve s!"{listener.name} default action"
  return ⟨listener, action, .empty⟩

def identifier (table : RoutingTable) : String := table.listener.identifier

def commit (table : RoutingTable) (rule : Rule) : RoutingTable :=
  { table with rules := table.rules.commit rule }

/-- What became of a rule that was added, and the table after it. -/
structure Addition where
  table : RoutingTable
  outcome : Except RuleError Rule
  events : List Event

def add (table : RoutingTable) (spec : RuleSpec) : Addition :=
  let compiled := spec.compile table.rules
  match compiled.outcome with
  | .ok rule =>
      { table := table.commit rule
        outcome := .ok rule
        events := compiled.events ++ [.committed table.identifier rule.name rule.priority] }
  | .error error =>
      { table := table
        outcome := .error error
        events := compiled.events ++
          [.rejected table.identifier spec.name spec.priority error] }

/-- Adds the rule that a sequence of builder calls makes up. -/
def addRule (table : RoutingTable) (name : String) (priority : UInt32)
    (calls : List BuilderCall) : Addition :=
  table.add (.ofCalls name priority calls)

/-- Adds rules in order, up to the first one that is rejected. -/
def addAll (table : RoutingTable) : List RuleSpec → Traced RuleError RoutingTable
  | [] => .pure table
  | spec :: rest =>
      let addition := table.add spec
      Traced.bind ⟨addition.events, addition.outcome⟩ fun _ => addition.table.addAll rest

def size (table : RoutingTable) : Nat := table.rules.size

def describe (table : RoutingTable) : String :=
  s!"Listener({table.identifier} {table.listener.protocol.name}:{table.listener.port}, " ++
    s!"{table.size} rules)"

/-- The listener and its rules in the form that is provisioned. -/
def definition (table : RoutingTable) : Json :=
  .object [("name", .string table.listener.name), ("protocol", table.listener.protocol.toJson),
    ("port", .number (.ofPort table.listener.port)),
    ("serviceIdentifier", .string table.listener.serviceIdentifier),
    ("defaultAction", table.defaultAction.toJson),
    ("rules", .array (table.rules.rules.map (·.definition table.identifier)))]

def definitionText (table : RoutingTable) : String := table.definition.pretty

end RoutingTable

end MeshRouting

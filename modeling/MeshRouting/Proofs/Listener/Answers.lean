import MeshRouting.Proofs.Listener.Reachable

/-!
Runs of calls and the answers to them. A call is answered with the rule it gave or with an
error; a call that is answered with an error leaves the table as it was.
-/

namespace MeshRouting.RoutingTable

/-- The table after calls made in order. -/
def callAll (table : RoutingTable) (calls : List Call) : RoutingTable :=
  calls.foldl (fun table call => (call.offer table).table) table

/-- The answers to calls made in order. -/
def answers (table : RoutingTable) : List Call → List (Except RuleError Rule)
  | [] => []
  | call :: rest => (call.offer table).outcome :: (call.offer table).table.answers rest

variable {listener : Listener} {table : RoutingTable}

theorem call_all_cons (table : RoutingTable) (call : Call) (rest : List Call) :
    table.callAll (call :: rest) = (call.offer table).table.callAll rest := rfl

theorem answers_cons (table : RoutingTable) (call : Call) (rest : List Call) :
    table.answers (call :: rest) =
      (call.offer table).outcome :: (call.offer table).table.answers rest := rfl

theorem offer_table_of_error {call : Call} {error : RuleError}
    (rejected : (call.offer table).outcome = .error error) : (call.offer table).table = table := by
  rw [Call.offer_eq_add] at rejected ⊢
  exact add_table_of_error rejected

theorem answers_append (table : RoutingTable) (first second : List Call) :
    table.answers (first ++ second) =
      table.answers first ++ (table.callAll first).answers second := by
  induction first generalizing table with
  | nil => rfl
  | cons call rest induction =>
      rw [List.cons_append, answers_cons, answers_cons, induction, List.cons_append, call_all_cons]

/-- Offering specs is making the calls that offer them. -/
theorem call_all_add (table : RoutingTable) (specs : List RuleSpec) :
    table.callAll (specs.map .add) = table.offerAll specs := by
  rw [callAll, offerAll, List.foldl_map]
  rfl

theorem reachable_call_all (calls : List Call) (reached : Reachable listener table) :
    Reachable listener (table.callAll calls) := by
  induction calls generalizing table with
  | nil => exact reached
  | cons call rest induction => exact induction (.called call reached)

theorem reachable_offer_all (specs : List RuleSpec) (reached : Reachable listener table) :
    Reachable listener (table.offerAll specs) := by
  rw [← call_all_add]
  exact reachable_call_all (specs.map .add) reached

end MeshRouting.RoutingTable

import MeshRouting.Proofs.Listener.Answers

/-!
Rejected calls leave no trace. Of a run any of the calls that were rejected may be left
out: the other calls are answered as before, and the table at the end is the same.
-/

namespace MeshRouting

/-- The entries at the places that are kept. -/
def keepAt (kept : Nat → Bool) : List α → List α
  | [] => []
  | entry :: rest =>
      if kept 0 then entry :: keepAt (fun place => kept (place + 1)) rest
      else keepAt (fun place => kept (place + 1)) rest

namespace RoutingTable

/-- Calls may be left out of a run if they were rejected in it. The answers that remain are
those at the places that are kept, and no part of the table at the end is different. -/
theorem rejected_calls_erasable (table : RoutingTable) (calls : List Call) (kept : Nat → Bool)
    (rejected : ∀ place answer, kept place = false →
      (table.answers calls)[place]? = some answer → ∃ error, answer = .error error) :
    table.answers (keepAt kept calls) = keepAt kept (table.answers calls) ∧
      table.callAll (keepAt kept calls) = table.callAll calls := by
  induction calls generalizing table kept with
  | nil => exact ⟨rfl, rfl⟩
  | cons call rest induction =>
      have later := induction (call.offer table).table (fun place => kept (place + 1)) fun place =>
        rejected (place + 1)
      rw [answers_cons, call_all_cons, keepAt, keepAt]
      cases first : kept 0 with
      | true =>
          simp only [if_true, answers_cons, call_all_cons, List.cons.injEq, true_and]
          exact later
      | false =>
          -- The call at the head is left out, so its answer was an error.
          obtain ⟨error, failed⟩ := rejected 0 _ first rfl
          simp only [Bool.false_eq_true, if_false]
          rw [offer_table_of_error failed] at later ⊢
          exact later

/-- Two calls of this run are rejected, and one of them is left out. -/
def mixedCalls : List Call :=
  [.add readsSpec, .add clashSpec, .rule "page" 3 [.path (.exact "/a"), .forward "tg"],
    .rule "none" 4 [.method "GET"]]

theorem clash_erased_from_mixed_calls :
    (plainTable.answers mixedCalls)[1]? = some (.error (.duplicatePriority "clash" 7)) ∧
    plainTable.answers (mixedCalls.eraseIdx 1) = (plainTable.answers mixedCalls).eraseIdx 1 ∧
      plainTable.callAll (mixedCalls.eraseIdx 1) = plainTable.callAll mixedCalls := by
  have clash : (plainTable.answers mixedCalls)[1]? =
      some (.error (.duplicatePriority "clash" 7)) := rfl
  refine ⟨clash, rejected_calls_erasable plainTable mixedCalls (fun place => place ≠ 1) ?_⟩
  intro place answer left found
  have second : place = 1 := by simpa using left
  rw [second, clash, Option.some.injEq] at found
  exact ⟨_, found.symm⟩

end RoutingTable

end MeshRouting

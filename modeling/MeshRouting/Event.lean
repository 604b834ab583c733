import MeshRouting.RuleError

/-!
Events for the log. Warnings tell of values that are accepted but unlikely to be meant.
-/

namespace MeshRouting

inductive Event
  | statusOutsideRange (rule : String) (status : UInt32)
  | heavyTarget (rule target : String) (weight : UInt32)
  | committed (listener rule : String) (priority : UInt32)
  | rejected (listener rule : String) (priority : UInt32) (error : RuleError)
  | compiled (listener : String) (rules : Nat)
  deriving DecidableEq

namespace Event

inductive Level
  | warning
  | debug
  deriving DecidableEq

inductive Field
  | number (value : Nat)
  | text (value : String)
  deriving DecidableEq

def level : Event → Level
  | .statusOutsideRange .. => .warning
  | .heavyTarget .. => .warning
  | .committed .. => .debug
  | .rejected .. => .debug
  | .compiled .. => .debug

def message : Event → String
  | .statusOutsideRange .. => "fixed response status code outside the HTTP range"
  | .heavyTarget .. => "target group weight above 100"
  | .committed .. => "rule committed"
  | .rejected .. => "rule rejected"
  | .compiled .. => "listener configuration compiled"

def fields : Event → List (String × Field)
  | .statusOutsideRange rule status => [("rule", .text rule), ("status_code", .number status.toNat)]
  | .heavyTarget rule target weight =>
      [("rule", .text rule), ("target", .text target), ("weight", .number weight.toNat)]
  | .committed listener rule priority =>
      [("listener", .text listener), ("rule", .text rule), ("priority", .number priority.toNat)]
  | .rejected listener rule priority error =>
      [("listener", .text listener), ("rule", .text rule), ("priority", .number priority.toNat),
        ("error", .text error.message)]
  | .compiled listener rules => [("listener", .text listener), ("rules", .number rules)]

end Event

/-- A result and the events on the way to it, in order. A failure keeps the events before it. -/
structure Traced (ε α : Type) where
  events : List Event
  outcome : Except ε α

namespace Traced

def pure (value : α) : Traced ε α := ⟨[], .ok value⟩

def fail (error : ε) : Traced ε α := ⟨[], .error error⟩

def emit (event : Event) : Traced ε Unit := ⟨[event], .ok ()⟩

def bind (first : Traced ε α) (next : α → Traced ε β) : Traced ε β :=
  match first.outcome with
  | .ok value => ⟨first.events ++ (next value).events, (next value).outcome⟩
  | .error error => ⟨first.events, .error error⟩

instance : Monad (Traced ε) where
  pure := Traced.pure
  bind := Traced.bind

def mapError (f : ε → δ) (traced : Traced ε α) : Traced δ α :=
  ⟨traced.events, traced.outcome.mapError f⟩

@[simp] theorem outcome_pure (value : α) : (Traced.pure value : Traced ε α).outcome = .ok value := rfl

@[simp] theorem outcome_return (value : α) :
    (Pure.pure value : Traced ε α).outcome = .ok value := rfl

@[simp] theorem outcome_fail (error : ε) : (Traced.fail error : Traced ε α).outcome = .error error := rfl

@[simp] theorem outcome_emit (event : Event) : (emit event : Traced ε Unit).outcome = .ok () := rfl

/-- Of two steps the second runs only if the first succeeds; the events play no part. -/
@[simp] theorem outcome_bind (first : Traced ε α) (next : α → Traced ε β) :
    (first >>= next).outcome = first.outcome.bind fun value => (next value).outcome := by
  change (Traced.bind first next).outcome = _
  cases result : first.outcome <;> simp [Traced.bind, result, Except.bind]

theorem events_bind_of_ok {first : Traced ε α} {value : α} (done : first.outcome = .ok value)
    (next : α → Traced ε β) : (first >>= next).events = first.events ++ (next value).events := by
  change (Traced.bind first next).events = _
  simp only [Traced.bind, done]

/-- Nothing is added to the events once a step has failed. -/
theorem events_bind_of_error {first : Traced ε α} {error : ε}
    (failed : first.outcome = .error error) (next : α → Traced ε β) :
    (first >>= next).events = first.events := by
  change (Traced.bind first next).events = _
  simp only [Traced.bind, failed]

theorem events_bind_return (first : Traced ε α) (f : α → β) :
    (first >>= fun value => Pure.pure (f value)).events = first.events := by
  cases outcome : first.outcome with
  | error error => rw [events_bind_of_error outcome]
  | ok value =>
      rw [events_bind_of_ok outcome]
      exact List.append_nil _

end Traced

end MeshRouting

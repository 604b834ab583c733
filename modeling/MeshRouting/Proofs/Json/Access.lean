import MeshRouting.Json.Basic
import Mathlib.Data.List.Forall2

/-!
What a consumer finds in a JSON value: the keys of an object and what stands under a key.
Of a value that is no object, and under a key that is not there, nothing is found.
-/

namespace MeshRouting.Json

def members : Json → List (String × Json)
  | .object members => members
  | _ => []

/-- The keys in the order of the text, with their repetitions. -/
def keys (value : Json) : List String := value.members.map (·.1)

def get? (value : Json) (key : String) : Option Json := value.members.lookup key

def string? (value : Json) (key : String) : Option String :=
  match value.get? key with
  | some (.string text) => some text
  | _ => none

def integer? (value : Json) (key : String) : Option Int :=
  match value.get? key with
  | some (.number (.integer count _)) => some count
  | _ => none

def bool? (value : Json) (key : String) : Option Bool :=
  match value.get? key with
  | some (.bool flag) => some flag
  | _ => none

def items? (value : Json) (key : String) : Option (List Json) :=
  match value.get? key with
  | some (.array items) => some items
  | _ => none

/-- Under the key stands a value of this description. -/
def Has (value : Json) (key : String) (description : Json → Prop) : Prop :=
  ∃ part, value.get? key = some part ∧ description part

/-- The same, and there is no other key. -/
def HasOnly (value : Json) (key : String) (description : Json → Prop) : Prop :=
  value.keys = [key] ∧ value.Has key description

/-- Under the key stands an array with one item for each of `things`, in their order. -/
def Lists (value : Json) (key : String) (description : α → Json → Prop) (things : List α) : Prop :=
  ∃ items, value.items? key = some items ∧ List.Forall₂ description things items

/-- A description tells what it describes if no value meets it for two things. -/
def Tells (description : α → Json → Prop) : Prop :=
  ∀ thing other value, description thing value → description other value → thing = other

/-- What stands under a key is one value, so two descriptions of it meet. -/
theorem has_both {value : Json} {key : String} {description other : Json → Prop}
    (first : value.Has key description) (second : value.Has key other) :
    ∃ part, description part ∧ other part := by
  obtain ⟨part, found, described⟩ := first
  obtain ⟨again, same, alike⟩ := second
  rw [found, Option.some.injEq] at same
  subst same
  exact ⟨part, described, alike⟩

theorem has_tells {description : α → Json → Prop} (tells : Tells description) {value : Json}
    {key : String} {thing other : α} (first : value.Has key (description thing))
    (second : value.Has key (description other)) : thing = other := by
  obtain ⟨part, described, alike⟩ := has_both first second
  exact tells thing other part described alike

theorem lists_tells {description : α → Json → Prop} (tells : Tells description) {value : Json}
    {key : String} {things others : List α} (first : value.Lists key description things)
    (second : value.Lists key description others) : things = others := by
  obtain ⟨items, found, described⟩ := first
  obtain ⟨again, same, alike⟩ := second
  rw [found, Option.some.injEq] at same
  subst same
  have unique : Relator.LeftUnique description := by
    intro thing other value left right
    exact tells thing other value left right
  exact unique.forall₂ described alike

/-- An array written item by item lists what it was written for. -/
theorem lists_of_map {description : α → Json → Prop} {write : α → Json} {things : List α}
    (each : ∀ thing ∈ things, description thing (write thing)) {value : Json} {key : String}
    (found : value.items? key = some (things.map write)) : value.Lists key description things := by
  refine ⟨things.map write, found, ?_⟩
  rw [List.forall₂_map_right_iff, List.forall₂_same]
  exact each

end MeshRouting.Json

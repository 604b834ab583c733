import MeshRouting.Json.Number

/-!
JSON values. Members keep the order and the repetitions of their text; the canonical form
of a value orders the members of each object by key and keeps only the last member of a key.
-/

namespace MeshRouting

inductive Json
  | null
  | bool (value : Bool)
  | number (value : Json.Number)
  | string (value : String)
  | array (items : List Json)
  | object (members : List (String × Json))

namespace Json

/-- A member that is written only if there is a value for it. -/
def memberIfSome (key : String) (write : α → Json) : Option α → List (String × Json)
  | none => []
  | some value => [(key, write value)]

/-- Inserts a member into members that are ascending by key; a member that is already
there stays. -/
def insertAbsent (key : String) (value : Json) :
    List (String × Json) → List (String × Json)
  | [] => [(key, value)]
  | (k, v) :: rest =>
      if key < k then (key, value) :: (k, v) :: rest
      else if key = k then (k, v) :: rest
      else (k, v) :: insertAbsent key value rest

mutual

def normalize : Json → Json
  | .null => .null
  | .bool value => .bool value
  | .number value => .number value
  | .string value => .string value
  | .array items => .array (normalizeItems items)
  | .object members => .object (normalizeMembers members)

def normalizeItems : List Json → List Json
  | [] => []
  | item :: rest => item.normalize :: normalizeItems rest

/-- Later members are placed first, so that the last one of a key is the one that stays. -/
def normalizeMembers : List (String × Json) → List (String × Json)
  | [] => []
  | (key, value) :: rest => insertAbsent key value.normalize (normalizeMembers rest)

end

end Json

end MeshRouting

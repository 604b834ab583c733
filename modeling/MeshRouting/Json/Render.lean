import MeshRouting.Json.Basic
import MeshRouting.Json.StringLiteral

/-!
JSON values as text. The two layouts differ only in the blanks between tokens.
-/

namespace MeshRouting.Json

structure Layout where
  afterColon : List Char
  /-- The blanks before an entry or a closing bracket at a depth. -/
  gap : Nat → List Char

namespace Layout

def compact : Layout := ⟨[], fun _ => []⟩

/-- One entry a line, indented by two spaces for each open bracket. -/
def pretty : Layout := ⟨[' '], fun depth => '\n' :: List.replicate (2 * depth) ' '⟩

end Layout

mutual

def write (layout : Layout) (depth : Nat) : Json → List Char
  | .null => ['n', 'u', 'l', 'l']
  | .bool true => ['t', 'r', 'u', 'e']
  | .bool false => ['f', 'a', 'l', 's', 'e']
  | .number value => value.text
  | .string value => StringLiteral.write value.toList
  | .array [] => ['[', ']']
  | .array (item :: rest) =>
      '[' :: layout.gap (depth + 1) ++ write layout (depth + 1) item ++
        writeItems layout depth rest
  | .object [] => ['\x7b', '\x7d']
  | .object ((key, value) :: rest) =>
      '\x7b' :: layout.gap (depth + 1) ++ StringLiteral.write key.toList ++
        ':' :: layout.afterColon ++ write layout (depth + 1) value ++
        writeMembers layout depth rest

/-- The items after the first one, and the closing bracket. -/
def writeItems (layout : Layout) (depth : Nat) : List Json → List Char
  | [] => layout.gap depth ++ [']']
  | item :: rest =>
      ',' :: layout.gap (depth + 1) ++ write layout (depth + 1) item ++
        writeItems layout depth rest

def writeMembers (layout : Layout) (depth : Nat) : List (String × Json) → List Char
  | [] => layout.gap depth ++ ['\x7d']
  | (key, value) :: rest =>
      ',' :: layout.gap (depth + 1) ++ StringLiteral.write key.toList ++
        ':' :: layout.afterColon ++ write layout (depth + 1) value ++
        writeMembers layout depth rest

end

def compact (value : Json) : String := String.ofList (value.write .compact 0)

def pretty (value : Json) : String := String.ofList (value.write .pretty 0)

end MeshRouting.Json

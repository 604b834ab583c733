import MeshRouting.Json.Token
import MeshRouting.Text.Quoted

/-!
What a decoder complains about: a text that is no JSON, or JSON of another shape than the
one wanted. Only the latter has a message.
-/

namespace MeshRouting

open Json (Fault)

/-- The value a message speaks of. Of arrays and objects it names the kind alone. -/
inductive Found
  | null
  | bool (value : Bool)
  | number (value : Json.Number)
  | string (value : String)
  | sequence
  | map

namespace Found

def describe : Found → String
  | .null => "null"
  | .bool value => s!"boolean `{value}`"
  | .number (.integer value _) => s!"integer `{String.ofList (Json.Number.intText value)}`"
  | .number (.float value) => s!"floating point `{String.ofList value.decimalText}`"
  | .string value => s!"string {Text.quoted value}"
  | .sequence => "sequence"
  | .map => "map"

end Found

inductive Expected
  | string
  | boolean
  /-- An unsigned integer of so many bits. -/
  | word (bits : Nat)
  | sequence
  | record (title : String)
  | unit
  deriving DecidableEq

namespace Expected

def describe : Expected → String
  | .string => "a string"
  | .boolean => "a boolean"
  | .word bits => s!"u{bits}"
  | .sequence => "a sequence"
  | .record title => s!"struct {title}"
  | .unit => "unit"

end Expected

inductive Mismatch
  | wrongType (found : Found) (expected : Expected)
  | outOfRange (value : Int) (expected : Expected)
  | unknownVariant (name : String) (known : List String)
  | missingField (name : String)
  | duplicateField (name : String)
  /-- A record written as an array ends before its element number `index`. -/
  | tooShort (index : Nat) (title : String) (fields : Nat)
  | tooLong (length : Nat) (fields : Nat)
  /-- No alternative of a choice without a tag fits. -/
  | noAlternative (title : String)

namespace Mismatch

def elements (count : Nat) : String :=
  if count = 1 then "1 element" else s!"{count} elements"

def alternatives (known : List String) : String :=
  let named := known.map fun name => s!"`{name}`"
  if named.length ≤ 2 then " or ".intercalate named
  else "one of " ++ ", ".intercalate named

def message : Mismatch → String
  | .wrongType found expected =>
      s!"invalid type: {found.describe}, expected {expected.describe}"
  | .outOfRange value expected =>
      s!"invalid value: integer `{String.ofList (Json.Number.intText value)}`, " ++
        s!"expected {expected.describe}"
  | .unknownVariant name known => s!"unknown variant `{name}`, expected {alternatives known}"
  | .missingField name => s!"missing field `{name}`"
  | .duplicateField name => s!"duplicate field `{name}`"
  | .tooShort index title fields =>
      s!"invalid length {index}, expected struct {title} with {elements fields}"
  | .tooLong length fields =>
      s!"invalid length {length}, expected {elements fields} in sequence"
  | .noAlternative title => s!"data did not match any variant of untagged enum {title}"

end Mismatch

inductive DecodeError
  | fault (fault : Fault)
  | mismatch (mismatch : Mismatch)

end MeshRouting

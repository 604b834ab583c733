import MeshRouting.Decoding.Error
import MeshRouting.Json.FreeForm
import MeshRouting.Json.Source

/-!
Decoders read a source tree in text order and stop at the first problem. A scalar is read
before it is compared with what was wanted, so a fault in it comes first; an array or an
object of the wrong kind is refused at its bracket, before anything in it is looked at.
-/

namespace MeshRouting

open Json (Fault Leaf Head Source Document)

/-- How many more arrays and objects may be opened, and whether the tree is a value that
was read before, whole and without a fault. -/
structure Context where
  room : Nat
  buffered : Bool

namespace Context

/-- At most 127 arrays and objects are open at a time. -/
def start : Context := ⟨127, false⟩

def enter (context : Context) : Except DecodeError Context :=
  match context.room with
  | 0 => .error (.fault .malformed)
  | room + 1 => .ok { context with room }

end Context

abbrev Decoder (α : Type) := Context → Source → Except DecodeError α

/-- The complaint about a value of the wrong kind. -/
def complaint (expected : Expected) : Head → DecodeError
  | .leaf .null => .mismatch (.wrongType .null expected)
  | .leaf (.bool value) => .mismatch (.wrongType (.bool value) expected)
  | .leaf (.number value) => .mismatch (.wrongType (.number value) expected)
  | .leaf (.string value) => .mismatch (.wrongType (.string value) expected)
  | .leaf (.flawed flaw) => .fault flaw.reading
  | .array => .mismatch (.wrongType .sequence expected)
  | .object => .mismatch (.wrongType .map expected)

/-- The fault of a key that is not a string. -/
def keyFault : Head → Fault
  | .leaf (.flawed flaw) => flaw.naming
  | _ => .malformed

/-- After the entries of an array or an object, its own fault. -/
def endOf : Option Fault → Except DecodeError Unit
  | none => .ok ()
  | some fault => .error (.fault fault)

namespace Decoder

def map (f : α → β) (decoder : Decoder α) : Decoder β :=
  fun context source => (decoder context source).map f

def string : Decoder String
  | _, .leaf (.string value) => .ok value
  | _, source => .error (complaint .string source.head)

def boolean : Decoder Bool
  | _, .leaf (.bool value) => .ok value
  | _, source => .error (complaint .boolean source.head)

/-- A natural number below `size`, written as an integer. -/
def word (bits size : Nat) : Decoder Nat
  | _, .leaf (.number (.integer value _)) =>
      if 0 ≤ value ∧ value < size then .ok value.toNat
      else .error (.mismatch (.outOfRange value (.word bits)))
  | _, source => .error (complaint (.word bits) source.head)

def word32 : Decoder UInt32 := map UInt32.ofNat (word 32 UInt32.size)

def word16 : Decoder UInt16 := map UInt16.ofNat (word 16 UInt16.size)

def unit : Decoder Unit
  | _, .leaf .null => .ok ()
  | _, source => .error (complaint .unit source.head)

/-- Null stands for nothing. -/
def optional (decoder : Decoder α) : Decoder (Option α)
  | _, .leaf .null => .ok none
  | context, source => (decoder context source).map some

def items (decoder : Decoder α) (context : Context) : List Source → Except DecodeError (List α)
  | [] => .ok []
  | item :: rest => do
      let value ← decoder context item
      let values ← items decoder context rest
      .ok (value :: values)

def list (decoder : Decoder α) : Decoder (List α)
  | context, .array sources fault => do
      let context ← context.enter
      let values ← items decoder context sources
      endOf fault
      .ok values
  | _, source => .error (complaint .sequence source.head)

mutual

/-- The whole value, wanted as it stands. -/
def whole (room : Nat) : Source → Except DecodeError Json
  | .leaf .null => .ok .null
  | .leaf (.bool value) => .ok (.bool value)
  | .leaf (.number value) => .ok (.number value)
  | .leaf (.string value) => .ok (.string value)
  | .leaf (.flawed flaw) => .error (.fault flaw.reading)
  | .array sources fault =>
      match room with
      | 0 => .error (.fault .malformed)
      | room + 1 => do
          let items ← wholeItems room sources
          endOf fault
          .ok (.array items)
  | .object sources fault =>
      match room with
      | 0 => .error (.fault .malformed)
      | room + 1 => do
          let members ← wholeMembers room sources
          endOf fault
          .ok (.object members)

def wholeItems (room : Nat) : List Source → Except DecodeError (List Json)
  | [] => .ok []
  | source :: rest => do
      let item ← whole room source
      let items ← wholeItems room rest
      .ok (item :: items)

def wholeMembers (room : Nat) : List (Head × Source) → Except DecodeError (List (String × Json))
  | [] => .ok []
  | (.leaf (.string key), source) :: rest => do
      let value ← whole room source
      let members ← wholeMembers room rest
      .ok ((key, value) :: members)
  | (key, _) :: _ => .error (.fault (keyFault key))

end

def json : Decoder Json := fun context source => whole context.room source

def freeForm : Decoder FreeForm := map FreeForm.ofJson json

/-- One of several shapes that nothing tells apart but whether they fit. The value is read
whole first; complaints of the shapes are not passed on. -/
def choice (title : String) (alternatives : List (Decoder α)) : Decoder α :=
  fun context source => do
    let value ← json context source
    let fitting := alternatives.findSome? fun alternative =>
      (alternative { context with buffered := true } value.toSource).toOption
    match fitting with
    | some result => .ok result
    | none => .error (.mismatch (.noAlternative title))

def variantNamed (known : List (String × α)) (name : String) : Except DecodeError α :=
  match known.lookup name with
  | some value => .ok value
  | none => .error (.mismatch (.unknownVariant name (known.map (·.1))))

/-- A variant without content: its name, or an object with its name as the only key and
null as the value. Anything else is not even looked at. A key that is no string is a fault of
the text and not a wrong type: no object has such a key, whatever variant is wanted. -/
def variant (known : List (String × α)) : Decoder α
  | _, .leaf (.string name) => variantNamed known name
  | context, .object members fault => do
      let context ← context.enter
      match members with
      | [] =>
          endOf fault
          .error (.fault .malformed)
      | (.leaf (.string name), content) :: others =>
          let value ← variantNamed known name
          unit context content
          if others.isEmpty then
            endOf fault
            .ok value
          else .error (.fault .malformed)
      | (key, _) :: _ => .error (.fault (keyFault key))
  | _, source => .error (.fault (keyFault source.head))

/-- Decodes a text; nothing but blanks may follow its root. -/
def run (decoder : Decoder α) (text : String) : Except DecodeError α := do
  let document := Document.ofText text
  let value ← decoder .start document.root
  if document.trailing then .error (.fault .malformed) else .ok value

end Decoder

end MeshRouting

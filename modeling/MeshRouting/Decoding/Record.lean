import MeshRouting.Decoding.Decoder

/-!
Records: objects with known members. Every field looks for its own members, and every
problem knows its place in the text; of several problems the one that comes first is
reported, so a record reads as if its members were taken in text order. Fields that are
missing come after the end of the members, in the order in which they are declared.

An array stands for the object that has the names of the fields as its keys, in the order
in which they are declared.
-/

namespace MeshRouting

open Json (Fault Leaf Head Source)

/-- A problem of a record and its place: the number of a member, then the end of the
members, then the fields that are missing. -/
structure Problem where
  place : Nat
  error : DecodeError

namespace Problem

def within (place : Nat) : Except DecodeError α → Except Problem α
  | .ok value => .ok value
  | .error error => .error ⟨place, error⟩

/-- Both results, or the problem that comes first; of two in one place, the left one. -/
def both : Except Problem α → Except Problem β → Except Problem (α × β)
  | .ok value, .ok other => .ok (value, other)
  | .error problem, .ok _ => .error problem
  | .ok _, .error problem => .error problem
  | .error problem, .error other =>
      .error (if other.place < problem.place then other else problem)

def report : Except Problem α → Except DecodeError α
  | .ok value => .ok value
  | .error problem => .error problem.error

end Problem

/-- A name that a field answers to, and the other spellings of it. -/
structure FieldName where
  name : String
  others : List String

namespace FieldName

def all (field : FieldName) : List String := field.name :: field.others

end FieldName

/-- Members of one object in text order. -/
abbrev Members := List (Head × Source)

namespace Members

/-- The values of the members with one of these keys, and their places. -/
def having (keys : List String) (start : Nat) : Members → List (Nat × Source)
  | [] => []
  | (.leaf (.string key), value) :: rest =>
      if key ∈ keys then (start, value) :: having keys (start + 1) rest
      else having keys (start + 1) rest
  | _ :: rest => having keys (start + 1) rest

/-- Passes over the members with other keys. Every key is read, known or not. -/
def passOver (keys : List String) (start : Nat) : Members → Except Problem Unit
  | [] => .ok ()
  | (.leaf (.string key), value) :: rest =>
      if key ∈ keys then passOver keys (start + 1) rest
      else
        match value.fault with
        | none => passOver keys (start + 1) rest
        | some fault => .error ⟨start, .fault fault⟩
  | (key, _) :: _ => .error ⟨start, .fault (keyFault key)⟩

/-- Keeps the members with other keys as they stand. -/
def keep (context : Context) (keys : List String) (start : Nat) :
    Members → Except Problem (List (String × Json))
  | [] => .ok []
  | (.leaf (.string key), value) :: rest =>
      if key ∈ keys then keep context keys (start + 1) rest
      else do
        let value ← Problem.within start (Decoder.json context value)
        let members ← keep context keys (start + 1) rest
        .ok ((key, value) :: members)
  | (key, _) :: _ => .error ⟨start, .fault (keyFault key)⟩

end Members

/-- Some fields of a record and the value they make up. `missing` is the complaint about
a field that has to be there. -/
structure Fields (α : Type) where
  names : List FieldName
  read : Context → (missing : String → DecodeError) → Members → Except Problem α

namespace Fields

/-- One field. A second member of its own is a problem even where the first one is fine. -/
def one (field : FieldName) (decoder : Decoder α) (absent : Option α) : Fields α where
  names := [field]
  read context missing members :=
    match members.having field.all 0 with
    | [] =>
        match absent with
        | some value => .ok value
        | none => .error ⟨members.length + 1, missing field.name⟩
    | (place, source) :: again => do
        let value ← Problem.within place (decoder context source)
        match again with
        | [] => .ok value
        | (place, _) :: _ => .error ⟨place, .mismatch (.duplicateField field.name)⟩

def required (name : String) (decoder : Decoder α) : Fields α := one ⟨name, []⟩ decoder none

/-- A field that may be left out or be null. -/
def optional (name : String) (decoder : Decoder α) : Fields (Option α) :=
  one ⟨name, []⟩ decoder.optional (some none)

def and (first : Fields α) (second : Fields β) : Fields (α × β) where
  names := first.names ++ second.names
  read context missing members :=
    Problem.both (first.read context missing members) (second.read context missing members)

def map (f : α → β) (fields : Fields α) : Fields β where
  names := fields.names
  read context missing members := (fields.read context missing members).map f

def keys (fields : Fields α) : List String := fields.names.flatMap FieldName.all

end Fields

namespace Decoder

/-- The end of the members, as a problem of their record. -/
def endAt (members : Members) : Except DecodeError Unit → Except Problem Unit :=
  Problem.within members.length

def readMembers (fields : Fields α) (missing : String → DecodeError) (context : Context)
    (members : Members) (ending : Except DecodeError Unit) : Except DecodeError α :=
  Problem.report ((Problem.both (fields.read context missing members)
    (Problem.both (members.passOver fields.keys 0) (endAt members ending))).map (·.1))

def missingField (name : String) : DecodeError := .mismatch (.missingField name)

/-- The end of an array that stands for a record: elements beyond the fields are wrong
in a text, and of the wrong number in a value that has been read before. -/
def arrayEnd (context : Context) (fields length : Nat) (fault : Option Fault) :
    Except DecodeError Unit :=
  if fields < length then
    .error (if context.buffered then .mismatch (.tooLong length fields) else .fault .malformed)
  else endOf fault

/-- A record written as an object or as an array. Members of other keys are passed over. -/
def record (title : String) (fields : Fields α) : Decoder α
  | context, .object members fault => do
      let context ← context.enter
      readMembers fields missingField context members (endOf fault)
  | context, .array items fault => do
      let context ← context.enter
      let names := fields.names.map FieldName.name
      let members := (names.zip items).map fun (name, item) => (.leaf (.string name), item)
      readMembers fields (fun name => .mismatch (.tooShort (names.idxOf name) title names.length))
        context members (arrayEnd context names.length items.length fault)
  | _, source => .error (complaint (.record title) source.head)

/-- A record written as an object only. -/
def object (title : String)
    (read : Context → Members → Except DecodeError Unit → Except DecodeError α) : Decoder α
  | context, .object members fault => do
      let context ← context.enter
      read context members (endOf fault)
  | _, source => .error (complaint (.record title) source.head)

/-- The fields of a record and, as they stand, the members of other keys. -/
def readAndKeep (fields : Fields α) (context : Context) (members : Members)
    (ending : Except DecodeError Unit) : Except DecodeError (α × List (String × Json)) :=
  Problem.report ((Problem.both (fields.read context missingField members)
    (Problem.both (members.keep context fields.keys 0) (endAt members ending))).map
      fun (value, others, _) => (value, others))

end Decoder

end MeshRouting

import MeshRouting.Json.Basic
import MeshRouting.Json.Token

/-!
The tree of a JSON text, right or wrong. Where a text goes wrong the values that are open
end there and remember the fault, so that a reader who goes through the tree in text
order meets the same first problem as one who goes through the text. A value that nobody
reads is passed over by looking at its own fault alone.

The tree is built by a machine that takes one token at a time and keeps the open arrays
and objects on a stack.
-/

namespace MeshRouting.Json

inductive Source
  | leaf (leaf : Leaf)
  | array (items : List Source) (fault : Option Fault)
  | object (members : List (Head × Source)) (fault : Option Fault)

namespace Source

def head : Source → Head
  | .leaf scalar => .leaf scalar
  | .array _ _ => .array
  | .object _ _ => .object

/-- The fault left when the value is passed over. -/
def fault : Source → Option Fault
  | .leaf scalar => scalar.skipping
  | .array _ fault => fault
  | .object _ fault => fault

/-- The text ends where a value should be. -/
def absent : Source := .leaf (.flawed .absent)

/-- Something else stands where a value should be. -/
def misplaced : Source := .leaf (.flawed (.word .malformed))

/-- An array or an object around the value that is being read, its last entry first. -/
inductive Frame
  | array (items : List Source)
  | object (members : List (Head × Source)) (key : Head)

/-- What must come next. -/
inductive Goal
  | value
  | firstItem
  | afterItem (items : List Source)
  | firstKey
  | key (members : List (Head × Source))
  | colon (members : List (Head × Source)) (key : Head)
  | afterMember (members : List (Head × Source))

inductive State
  | reading (goal : Goal) (frames : List Frame)
  /-- The root is complete. `trailing` tells whether more than blanks follow it. -/
  | complete (root : Source) (trailing : Bool)
  | stopped (root : Source)

/-- The text goes wrong after `value`: all open values end there. -/
def stop (fault : Fault) (value : Source) : List Frame → Source
  | [] => value
  | .array items :: frames => stop fault (.array (value :: items).reverse (some fault)) frames
  | .object members key :: frames =>
      stop fault (.object ((key, value) :: members).reverse (some fault)) frames

namespace State

def stop (fault : Fault) (value : Source) (frames : List Frame) : State :=
  .stopped (Source.stop fault value frames)

/-- A value is complete and takes its place in the frame around it. -/
def after (value : Source) : List Frame → State
  | [] => .complete value false
  | .array items :: frames => .reading (.afterItem (value :: items)) frames
  | .object members key :: frames => .reading (.afterMember ((key, value) :: members)) frames

def value (frames : List Frame) : Token → State
  | .head (.leaf scalar) =>
      match scalar.skipping with
      | some fault => stop fault (.leaf scalar) frames
      | none => after (.leaf scalar) frames
  | .head .array => .reading .firstItem frames
  | .head .object => .reading .firstKey frames
  | _ => stop .malformed misplaced frames

/-- A key must be a string. One with a bad escape still names a member that is passed over. -/
def key (members : List (Head × Source)) (frames : List Frame) : Token → State
  | .head (.leaf (.string name)) => .reading (.colon members (.leaf (.string name))) frames
  | .head (.leaf (.flawed (.string problem none))) =>
      .reading (.colon members (.leaf (.flawed (.string problem none)))) frames
  | .head (.leaf (.flawed (.string problem (some fault)))) =>
      stop fault absent (.object members (.leaf (.flawed (.string problem (some fault)))) :: frames)
  | .head head => stop .malformed misplaced (.object members head :: frames)
  | _ => stop .malformed misplaced (.object members misplaced.head :: frames)

def step : State → Token → State
  | .stopped root, _ => .stopped root
  | .complete root _, _ => .complete root true
  | .reading .value frames, token => value frames token
  | .reading .firstItem frames, .closeArray => after (.array [] none) frames
  | .reading .firstItem frames, token => value (.array [] :: frames) token
  | .reading (.afterItem items) frames, .comma => .reading .value (.array items :: frames)
  | .reading (.afterItem items) frames, .closeArray => after (.array items.reverse none) frames
  | .reading (.afterItem items) frames, _ =>
      stop .malformed (.array items.reverse (some .malformed)) frames
  | .reading .firstKey frames, .closeObject => after (.object [] none) frames
  | .reading .firstKey frames, token => key [] frames token
  | .reading (.key members) frames, token => key members frames token
  | .reading (.colon members name) frames, .colon =>
      .reading .value (.object members name :: frames)
  | .reading (.colon members name) frames, _ =>
      stop .malformed misplaced (.object members name :: frames)
  | .reading (.afterMember members) frames, .comma => .reading (.key members) frames
  | .reading (.afterMember members) frames, .closeObject =>
      after (.object members.reverse none) frames
  | .reading (.afterMember members) frames, _ =>
      stop .malformed (.object members.reverse (some .malformed)) frames

/-- The open value with nothing read of it, where the text ends. -/
def cut (frames : List Frame) : Goal → Source
  | .value => Source.stop .truncated absent frames
  | .firstItem => Source.stop .truncated (.array [] (some .truncated)) frames
  | .afterItem items => Source.stop .truncated (.array items.reverse (some .truncated)) frames
  | .firstKey => Source.stop .truncated (.object [] (some .truncated)) frames
  | .key members => Source.stop .truncated absent (.object members absent.head :: frames)
  | .colon members name => Source.stop .truncated absent (.object members name :: frames)
  | .afterMember members =>
      Source.stop .truncated (.object members.reverse (some .truncated)) frames

end State

end Source

mutual

/-- The tree of a flawless text that says `value`. -/
def toSource : Json → Source
  | .null => .leaf .null
  | .bool value => .leaf (.bool value)
  | .number value => .leaf (.number value)
  | .string value => .leaf (.string value)
  | .array items => .array (itemSources items) none
  | .object members => .object (memberSources members) none

def itemSources : List Json → List Source
  | [] => []
  | item :: rest => item.toSource :: itemSources rest

def memberSources : List (String × Json) → List (Head × Source)
  | [] => []
  | (key, value) :: rest => (.leaf (.string key), value.toSource) :: memberSources rest

end

/-- A text as a tree, and whether anything but blanks follows the root. -/
structure Document where
  root : Source
  trailing : Bool

namespace Document

def ofState : Source.State → Document
  | .reading goal frames => ⟨Source.State.cut frames goal, false⟩
  | .complete root trailing => ⟨root, trailing⟩
  | .stopped root => ⟨root, false⟩

def ofTokens (tokens : List Token) : Document :=
  ofState (tokens.foldl Source.State.step (.reading .value []))

def ofText (text : String) : Document := ofTokens (Token.ofText text.toList)

end Document

end MeshRouting.Json

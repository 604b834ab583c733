import MeshRouting.Json.NumberLiteral
import MeshRouting.Json.StringLiteral

/-!
Tokens of a JSON text. A literal that is wrong in itself is a token too: it may stand
where nobody reads it, and where it is read the complaint depends on what was wanted.
-/

namespace MeshRouting.Json

/-- What is wrong with a scalar. -/
inductive Flaw
  /-- The text ends where a value should be. -/
  | absent
  /-- Characters that begin no value or that misspell `null`, `true` or `false`. -/
  | word (fault : Fault)
  /-- `skipping` is the fault that is left when the value is passed over. -/
  | number (reading : Fault) (skipping : Option Fault)
  | string (reading : Fault) (skipping : Option Fault)
  deriving DecidableEq

namespace Flaw

def reading : Flaw → Fault
  | .absent => .truncated
  | .word fault => fault
  | .number reading _ => reading
  | .string reading _ => reading

def skipping : Flaw → Option Fault
  | .absent => some .truncated
  | .word fault => some fault
  | .number _ skipping => skipping
  | .string _ skipping => skipping

/-- The fault where only a string will do, which is seen at the first character. -/
def naming : Flaw → Fault
  | .absent => .truncated
  | .string reading _ => reading
  | .word _ => .malformed
  | .number _ _ => .malformed

end Flaw

inductive Leaf
  | null
  | bool (value : Bool)
  | number (value : Number)
  | string (value : String)
  | flawed (flaw : Flaw)
  deriving DecidableEq

namespace Leaf

def skipping : Leaf → Option Fault
  | .flawed flaw => flaw.skipping
  | _ => none

end Leaf

/-- The first token of a value. It decides which kind of value it is. -/
inductive Head
  | leaf (leaf : Leaf)
  | array
  | object
  deriving DecidableEq

inductive Token
  | head (head : Head)
  | closeArray
  | closeObject
  | comma
  | colon
  deriving DecidableEq

namespace Token

def isBlank (c : Char) : Bool := c = ' ' || c = '\t' || c = '\n' || c = '\r'

def ofChar? (c : Char) : Option Token :=
  if c = '[' then some (.head .array)
  else if c = ']' then some .closeArray
  else if c = '\x7b' then some (.head .object)
  else if c = '\x7d' then some .closeObject
  else if c = ',' then some .comma
  else if c = ':' then some .colon
  else none

/-- The text after `word`, which must be spelled out. -/
def readWord (word : List Char) (cs : List Char) : Except Fault (Rest cs) :=
  match word, cs with
  | [], cs => .ok (.all cs)
  | _ :: _, [] => .error .truncated
  | expected :: word, c :: rest =>
      if c = expected then do
        let left ← readWord word rest
        .ok (left.behind c).toRest
      else .error .malformed

/-- A scalar and the text after it. No text is left where not even passing over the
scalar makes sense of it. -/
abbrev LeafResult (cs : List Char) := Leaf × Option (Shorter cs)

def wordLeaf (value : Leaf) (c : Char) (word rest : List Char) : LeafResult (c :: rest) :=
  match readWord word rest with
  | .ok left => (value, some (left.behind c))
  | .error fault => (.flawed (.word fault), none)

/-- A string, after its opening quote. -/
def stringLeaf (c : Char) (rest : List Char) : LeafResult (c :: rest) :=
  match StringLiteral.read rest with
  | .ok (value, left) => (.string (String.ofList value), some (left.behind c))
  | .error reading =>
      match StringLiteral.skip rest with
      | .ok left => (.flawed (.string reading none), some (left.behind c))
      | .error skipping => (.flawed (.string reading (some skipping)), none)

/-- A number cut short can still be completed, but only a reader who wants it says so. -/
def numberLeaf (cs : List Char) : LeafResult cs :=
  match NumberLiteral.scan cs with
  | .ok (literal, left) =>
      match literal.value? with
      | some value => (.number value, some left)
      | none => (.flawed (.number .malformed none), some left)
  | .error reading => (.flawed (.number reading (some .malformed)), none)

def leaf (c : Char) (rest : List Char) : LeafResult (c :: rest) :=
  if c = '"' then stringLeaf c rest
  else if c = '-' || c.isDigit then numberLeaf (c :: rest)
  else if c = 'n' then wordLeaf .null c ['u', 'l', 'l'] rest
  else if c = 't' then wordLeaf (.bool true) c ['r', 'u', 'e'] rest
  else if c = 'f' then wordLeaf (.bool false) c ['a', 'l', 's', 'e'] rest
  else (.flawed (.word .malformed), none)

/-- The tokens of a text, up to the first scalar that leaves no text. -/
def ofText (cs : List Char) : List Token :=
  match cs with
  | [] => []
  | c :: rest =>
      if isBlank c then ofText rest
      else match ofChar? c with
        | some token => token :: ofText rest
        | none =>
            match leaf c rest with
            | (value, some left) => .head (.leaf value) :: ofText left.val
            | (value, none) => [.head (.leaf value)]
termination_by cs.length
decreasing_by
  · exact Nat.lt_succ_self _
  · exact Nat.lt_succ_self _
  · exact left.property

end Token

end MeshRouting.Json

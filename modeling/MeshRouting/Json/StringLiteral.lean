import MeshRouting.Json.Fault

/-!
String literals. Writing escapes the quote, the backslash and the controls below a space
and nothing else. Reading has two forms: one gives the characters and wants every escape
to stand for one; the other passes over a literal nobody asked for, and takes any four
hexadecimal digits.
-/

namespace MeshRouting.Json.StringLiteral

def escapeLetters : List (Char × Char) :=
  [('"', '"'), ('\\', '\\'), ('\x08', 'b'), ('\x0c', 'f'), ('\n', 'n'), ('\r', 'r'), ('\t', 't')]

/-- A solidus may be escaped in a text but is not when written. -/
def letterChar? (letter : Char) : Option Char :=
  if letter = '/' then some '/'
  else (escapeLetters.find? (·.2 = letter)).map (·.1)

def hexDigit (n : Nat) : Char := Nat.digitChar n

def writeChar (c : Char) : List Char :=
  match escapeLetters.find? (·.1 = c) with
  | some (_, letter) => ['\\', letter]
  | none =>
      if c.toNat < 0x20 then
        ['\\', 'u', '0', '0', hexDigit (c.toNat / 16), hexDigit (c.toNat % 16)]
      else [c]

def write (s : List Char) : List Char :=
  '"' :: (s.flatMap writeChar ++ ['"'])

def hexValue? (c : Char) : Option Nat :=
  if '0' ≤ c ∧ c ≤ '9' then some (c.toNat - '0'.toNat)
  else if 'a' ≤ c ∧ c ≤ 'f' then some (c.toNat - 'a'.toNat + 10)
  else if 'A' ≤ c ∧ c ≤ 'F' then some (c.toNat - 'A'.toNat + 10)
  else none

/-- The text ends within an escape if fewer than four bytes of it are left. -/
def hexFault (cs : List Char) : Fault :=
  if (cs.take 4).foldl (fun size c => size + c.utf8Size) 0 < 4 then .truncated else .malformed

def readHex (cs : List Char) : Except Fault (Nat × Shorter cs) :=
  match cs with
  | a :: b :: c :: d :: rest =>
      match hexValue? a, hexValue? b, hexValue? c, hexValue? d with
      | some x, some y, some z, some w =>
          .ok (((x * 16 + y) * 16 + z) * 16 + w,
            ((((Rest.all rest).behind d).behind c).behind b).behind a)
      | _, _, _, _ => .error (hexFault (a :: b :: c :: d :: rest))
  | cs => .error (hexFault cs)

def isHighSurrogate (unit : Nat) : Bool := 0xD800 ≤ unit && unit ≤ 0xDBFF

def isLowSurrogate (unit : Nat) : Bool := 0xDC00 ≤ unit && unit ≤ 0xDFFF

/-- The second half of a character beyond the first plane. -/
def readLowSurrogate (high : Nat) (cs : List Char) : Except Fault (Char × Shorter cs) :=
  match cs with
  | [] => .error .truncated
  | ['\\'] => .error .truncated
  | '\\' :: 'u' :: rest => do
      let (low, left) ← readHex rest
      if isLowSurrogate low then
        .ok (Char.ofNat (0x10000 + (high - 0xD800) * 0x400 + (low - 0xDC00)),
          (left.behind 'u').behind '\\')
      else .error .malformed
  | _ => .error .malformed

/-- What follows a backslash, as the character it stands for. -/
def readEscape (cs : List Char) : Except Fault (Char × Shorter cs) :=
  match cs with
  | [] => .error .truncated
  | letter :: rest =>
      if letter = 'u' then do
        let (unit, left) ← readHex rest
        if isLowSurrogate unit then .error .malformed
        else if isHighSurrogate unit then
          let (c, afterLow) ← readLowSurrogate unit left.val
          .ok (c, (left.trans afterLow.toRest).behind letter)
        else .ok (Char.ofNat unit, left.behind letter)
      else match letterChar? letter with
        | some c => .ok (c, (Rest.all rest).behind letter)
        | none => .error .malformed

/-- What follows a backslash, passed over. -/
def skipEscape (cs : List Char) : Except Fault (Shorter cs) :=
  match cs with
  | [] => .error .truncated
  | letter :: rest =>
      if letter = 'u' then do
        let (_, left) ← readHex rest
        .ok (left.behind letter)
      else if (letterChar? letter).isSome then .ok ((Rest.all rest).behind letter)
      else .error .malformed

/-- The characters up to the closing quote. -/
def read (cs : List Char) : Except Fault (List Char × Shorter cs) :=
  match cs with
  | [] => .error .truncated
  | c :: rest =>
      if c = '"' then .ok ([], (Rest.all rest).behind c)
      else if c = '\\' then do
        let (value, afterEscape) ← readEscape rest
        let (values, left) ← read afterEscape.val
        .ok (value :: values, (afterEscape.trans left.toRest).behind c)
      else if c.toNat < 0x20 then .error .malformed
      else do
        let (values, left) ← read rest
        .ok (c :: values, left.behind c)
termination_by cs.length
decreasing_by
  · exact (afterEscape.behind c).property
  · exact Nat.lt_succ_self _

/-- The text after the closing quote. -/
def skip (cs : List Char) : Except Fault (Shorter cs) :=
  match cs with
  | [] => .error .truncated
  | c :: rest =>
      if c = '"' then .ok ((Rest.all rest).behind c)
      else if c = '\\' then do
        let afterEscape ← skipEscape rest
        let left ← skip afterEscape.val
        .ok ((afterEscape.trans left.toRest).behind c)
      else if c.toNat < 0x20 then .error .malformed
      else do
        let left ← skip rest
        .ok (left.behind c)
termination_by cs.length
decreasing_by
  · exact (afterEscape.behind c).property
  · exact Nat.lt_succ_self _

end MeshRouting.Json.StringLiteral

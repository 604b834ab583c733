import MeshRouting.Json.Fault
import MeshRouting.Json.Number

/-!
Number literals. A literal is first taken apart and then valued, because some places of
a text need the one without the other: a value nobody asked for may be out of range.
-/

namespace MeshRouting.Json

structure NumberLiteral where
  negative : Bool
  whole : List Char
  fraction : Option (List Char)
  /-- Whether the exponent is negative, and its digits. -/
  exponent : Option (Bool × List Char)

namespace NumberLiteral

/-- The longest run of digits, which must not be empty. -/
def digits (cs : List Char) : Except Fault (List Char × Shorter cs) :=
  match cs with
  | [] => .error .truncated
  | c :: rest =>
      if c.isDigit then
        let left : Rest rest := ⟨rest.dropWhile Char.isDigit, (List.dropWhile_sublist _).length_le⟩
        .ok (c :: rest.takeWhile Char.isDigit, left.behind c)
      else .error .malformed

def fractionPart (cs : List Char) : Except Fault (Option (List Char) × Rest cs) :=
  match cs with
  | [] => .ok (none, .all [])
  | c :: rest =>
      if c = '.' then do
        let (part, left) ← digits rest
        .ok (some part, (left.behind c).toRest)
      else .ok (none, .all (c :: rest))

def exponentSign (cs : List Char) : Bool × Rest cs :=
  match cs with
  | [] => (false, .all [])
  | c :: rest =>
      if c = '+' || c = '-' then (c = '-', ((Rest.all rest).behind c).toRest)
      else (false, .all (c :: rest))

def exponentPart (cs : List Char) : Except Fault (Option (Bool × List Char) × Rest cs) :=
  match cs with
  | [] => .ok (none, .all [])
  | c :: rest =>
      if c = 'e' || c = 'E' then do
        let (negative, afterSign) := exponentSign rest
        let (part, left) ← digits afterSign.val
        .ok (some (negative, part), ((afterSign.behind c).trans left.toRest).toRest)
      else .ok (none, .all (c :: rest))

/-- A literal without its sign. A zero that starts a whole part ends it too. -/
def unsigned (negative : Bool) (cs : List Char) : Except Fault (NumberLiteral × Shorter cs) := do
  let (whole, afterWhole) ← digits cs
  if whole.head? = some '0' && 1 < whole.length then .error .malformed
  else
    let (fraction, afterFraction) ← fractionPart afterWhole.val
    let left := afterWhole.trans afterFraction
    let (exponent, afterExponent) ← exponentPart left.val
    .ok (⟨negative, whole, fraction, exponent⟩, left.trans afterExponent)

def scan (cs : List Char) : Except Fault (NumberLiteral × Shorter cs) :=
  match cs with
  | [] => .error .truncated
  | c :: rest =>
      if c = '-' then do
        let (literal, left) ← unsigned true rest
        .ok (literal, left.behind c)
      else unsigned false (c :: rest)

def digitValue (c : Char) : Nat := c.toNat - '0'.toNat

/-- Appends digits to a significand for as long as it fits 64 bits; also the digits left. -/
def absorb (significand : Nat) : List Char → Nat × List Char
  | [] => (significand, [])
  | c :: rest =>
      if 10 * significand + digitValue c < 0x10000000000000000 then
        absorb (10 * significand + digitValue c) rest
      else (significand, c :: rest)

def natural (digits : List Char) : Nat := Nat.ofDigitChars 10 digits 0

def exponentValue : Option (Bool × List Char) → Int
  | none => 0
  | some (negative, digits) => if negative then -(natural digits : Int) else natural digits

/-- The integer a literal stands for, if it is one. Minus zero is none: only a binary64
number can keep its sign. -/
def integer? (literal : NumberLiteral) : Option Number :=
  if literal.fraction.isNone && literal.exponent.isNone then
    let magnitude := natural literal.whole
    if literal.negative then (if magnitude = 0 then none else Number.ofInt? (-magnitude))
    else Number.ofInt? magnitude
  else none

/-- A significand of at most 64 bits and a power of ten. Whole digits that no longer fit
count as zeros; fraction digits that no longer fit are dropped. -/
def decimal (literal : NumberLiteral) : Nat × Int :=
  let (significand, cutWhole) := absorb 0 literal.whole
  let fraction := literal.fraction.getD []
  let (significand, cutFraction) := absorb significand fraction
  (significand, (cutWhole.length : Int) - (fraction.length - cutFraction.length) +
    exponentValue literal.exponent)

/-- The number of a literal, `none` where it would be infinite. -/
def value? (literal : NumberLiteral) : Option Number :=
  match literal.integer? with
  | some integer => some integer
  | none =>
      let (significand, power) := literal.decimal
      (Magnitude.ofDecimal? significand power).map fun magnitude =>
        .float ⟨literal.negative, magnitude⟩

end NumberLiteral

end MeshRouting.Json

import MeshRouting.Binary64.Basic

/-!
The decimal text of a binary64 number: the fewest digits that still round to it and,
among those, the nearest. How the digits are laid out is a record of its own.
-/

namespace MeshRouting

def tenTo (power : Nat) : Nat := Nat.pow 10 power

/-- The fractions that round to a magnitude. Value and ends are multiples of `unit`, a
quarter of the last place; below a power of two the neighbour is twice as near. An end is
a tie and rounds to the even significand. -/
structure Basin where
  value : Nat
  low : Nat
  high : Nat
  closed : Bool
  unit : Nat × Nat

def Magnitude.basin (m : Magnitude) : Basin :=
  let gap := if m.significand = hiddenBit ∧ m.exponent ≠ -1074 then 1 else 2
  { value := 4 * m.significand
    low := 4 * m.significand - gap
    high := 4 * m.significand + 2
    closed := m.significand % 2 = 0
    unit := (1 <<< (m.exponent - 2).toNat, 1 <<< (2 - m.exponent).toNat) }

namespace Basin

/-- Does `digits · 10 ^ place` round to the magnitude? -/
def holds (b : Basin) (place : Int) (digits : Nat) : Bool :=
  let point := digits * tenTo place.toNat * b.unit.2
  let scale := b.unit.1 * tenTo (-place).toNat
  if b.closed then b.low * scale ≤ point && point ≤ b.high * scale
  else b.low * scale < point && point < b.high * scale

/-- A multiple of `10 ^ place` that rounds to the magnitude, the nearer of the two around
it if both do, and the even one of two equally near. -/
def gridPoint? (b : Basin) (place : Int) : Option Nat :=
  let top := b.value * b.unit.1 * tenTo (-place).toNat
  let bottom := b.unit.2 * tenTo place.toNat
  let nearest := Magnitude.roundHalfEven top bottom
  let other := if nearest = top / bottom then nearest + 1 else top / bottom
  [nearest, other].find? (b.holds place)

end Basin

/-- The decimal `0.d₁d₂…dₙ · 10 ^ point`, its first digit not zero. -/
structure Digits where
  digits : List Char
  point : Int

namespace Digits

/-- Trailing zeros are not digits of the value. -/
def ofNat (n : Nat) (place : Int) : Digits :=
  let written := Nat.toDigits 10 n
  { digits := (written.reverse.dropWhile (· = '0')).reverse
    point := written.length + place }

/-- The point of a positive fraction: the least `p` with the value below `10 ^ p`. -/
def pointOf (numerator denominator : Nat) : Int :=
  if denominator ≤ numerator then (Nat.toDigits 10 (numerator / denominator)).length
  else 1 - (Nat.toDigits 10 ((denominator - 1) / numerator)).length

/-- Grids of one to seventeen digits are tried, since seventeen digits tell any two
magnitudes apart. -/
def shortest (m : Magnitude) : Digits :=
  let point := pointOf m.fraction.1 m.fraction.2
  let found := (List.range 17).findSome? fun (count : Nat) =>
    let place := point - (count + 1 : Nat)
    (m.basin.gridPoint? place).map (ofNat · place)
  found.getD ⟨[], 0⟩

/-- Where the point stands in plain notation, and how an exponent is marked otherwise. -/
structure Layout where
  leastPlainPoint : Int
  greatestPlainPoint : Int
  exponentMark : List Char
  positiveSign : List Char

/-- The digits before and after the point, `0` standing for none. -/
def plain (d : Digits) : List Char :=
  let whole := d.digits.take d.point.toNat ++ List.replicate (d.point.toNat - d.digits.length) '0'
  let part := List.replicate (-d.point).toNat '0' ++ d.digits.drop d.point.toNat
  (if whole.isEmpty then ['0'] else whole) ++ '.' :: (if part.isEmpty then ['0'] else part)

/-- One digit before the point; no point where nothing follows it. -/
def scientific (layout : Layout) (d : Digits) : List Char :=
  let exponent := d.point - 1
  d.digits.take 1 ++ (if d.digits.length ≤ 1 then [] else '.' :: d.digits.drop 1) ++
    layout.exponentMark ++ (if exponent < 0 then ['-'] else layout.positiveSign) ++
    Nat.toDigits 10 exponent.natAbs

def write (layout : Layout) (d : Digits) : List Char :=
  if layout.leastPlainPoint ≤ d.point ∧ d.point ≤ layout.greatestPlainPoint then d.plain
  else d.scientific layout

end Digits

namespace Binary64

/-- Plain notation from `0.00001` up to below ten to the sixteenth, and a signed exponent
elsewhere. -/
def decimalLayout : Digits.Layout :=
  { leastPlainPoint := -4, greatestPlainPoint := 16, exponentMark := ['e'], positiveSign := ['+'] }

def decimalText (x : Binary64) : List Char :=
  (if x.negative then ['-'] else []) ++
    if x.magnitude.significand = 0 then ['0', '.', '0']
    else (Digits.shortest x.magnitude).write decimalLayout

end Binary64

namespace Magnitude

/-- Powers of ten that are magnitudes. -/
def powerOfTen? (power : Nat) : Option Magnitude :=
  if power ≤ 308 then nearest? (tenTo power) 1 else none

/-- `significand · 10 ^ power` in rounded steps: the significand, the power of ten and
their product or quotient are each rounded. A power below every magnitude is taken in two
steps, and what is smaller still is zero. A product out of range is `none`. -/
def ofDecimal? (significand : Nat) (power : Int) : Option Magnitude := do
  let start ← nearest? significand 1
  if start.significand = 0 then some zero
  else if 0 ≤ power then start.times? (← powerOfTen? power.toNat)
  else if -308 ≤ power then start.over? (← powerOfTen? (-power).toNat)
  else if -616 ≤ power then
    (← start.over? (← powerOfTen? 308)).over? (← powerOfTen? (-power - 308).toNat)
  else some zero

end Magnitude

end MeshRouting

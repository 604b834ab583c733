/-!
Finite binary64 numbers and the rounding of an exact fraction to the nearest of
them. A number is kept as sign, significand and power of two, so that everything
said about it is arithmetic on natural numbers.
-/

namespace MeshRouting

/-- The leading bit of a full significand, two to the 52nd. -/
def hiddenBit : Nat := 0x10000000000000

/-- A magnitude `significand · 2 ^ exponent`, in the one form binary64 has for it:
the significand fills its 53 bits unless the exponent is already the least one. -/
structure Magnitude where
  significand : Nat
  exponent : Int
  width : significand < hiddenBit + hiddenBit
  range : -1074 ≤ exponent ∧ exponent ≤ 971
  normal : hiddenBit ≤ significand ∨ exponent = -1074
  deriving DecidableEq

/-- A finite binary64 number. Zero keeps its sign. -/
structure Binary64 where
  negative : Bool
  magnitude : Magnitude
  deriving DecidableEq

namespace Magnitude

def zero : Magnitude := ⟨0, -1074, by decide, by decide, .inr rfl⟩

def ofParts? (significand : Nat) (exponent : Int) : Option Magnitude :=
  if shape : significand < hiddenBit + hiddenBit ∧ (-1074 ≤ exponent ∧ exponent ≤ 971) ∧
      (hiddenBit ≤ significand ∨ exponent = -1074) then
    some ⟨significand, exponent, shape.1, shape.2.1, shape.2.2⟩
  else none

/-- The fraction `numerator / (denominator · 2 ^ exponent)`. -/
def scaled (numerator denominator : Nat) (exponent : Int) : Nat × Nat :=
  (numerator <<< (-exponent).toNat, denominator <<< exponent.toNat)

/-- The nearest natural number; a half goes to the even neighbour. -/
def roundHalfEven (numerator denominator : Nat) : Nat :=
  let quotient := numerator / denominator
  let twice := 2 * (numerator % denominator)
  if twice < denominator ∨ (twice = denominator ∧ quotient % 2 = 0) then quotient else quotient + 1

/-- The nearest magnitude to a fraction with a positive denominator, and `none`
where that would be infinite. The first guess at the exponent is at most one too
small, and rounding up to one bit more moves one exponent further. -/
def nearest? (numerator denominator : Nat) : Option Magnitude :=
  if numerator = 0 then some zero else
  let leading : Int := (Nat.log2 numerator : Int) - Nat.log2 denominator - 53
  let guess := if leading < -1074 then -1074 else leading
  let (top, bottom) := scaled numerator denominator guess
  let exponent := if hiddenBit + hiddenBit ≤ top / bottom then guess + 1 else guess
  let (top, bottom) := scaled numerator denominator exponent
  let significand := roundHalfEven top bottom
  if significand = hiddenBit + hiddenBit then ofParts? hiddenBit (exponent + 1)
  else ofParts? significand exponent

/-- The value as a fraction. -/
def fraction (m : Magnitude) : Nat × Nat :=
  scaled m.significand 1 (-m.exponent)

/-- The product with `factor`, rounded once. -/
def times? (m factor : Magnitude) : Option Magnitude :=
  nearest? (m.fraction.1 * factor.fraction.1) (m.fraction.2 * factor.fraction.2)

/-- The quotient by `divisor`, rounded once. -/
def over? (m divisor : Magnitude) : Option Magnitude :=
  nearest? (m.fraction.1 * divisor.fraction.2) (m.fraction.2 * divisor.fraction.1)

end Magnitude

end MeshRouting

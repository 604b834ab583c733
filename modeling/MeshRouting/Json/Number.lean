import MeshRouting.Binary64.Decimal

/-!
Numbers of a JSON text: integers that fit a signed or an unsigned 64-bit word, and
binary64 numbers for all others. The bounds are minus two to the 63rd and two to the 64th.
-/

namespace MeshRouting.Json

inductive Number
  | integer (value : Int) (fits : -0x8000000000000000 ≤ value ∧ value < 0x10000000000000000)
  | float (value : Binary64)
  deriving DecidableEq

namespace Number

def ofInt? (value : Int) : Option Number :=
  if fits : -0x8000000000000000 ≤ value ∧ value < 0x10000000000000000 then
    some (.integer value fits)
  else none

theorem of_int_eq_some_iff {value : Int} {number : Number} :
    ofInt? value = some number ↔ ∃ fits, number = .integer value fits := by
  rw [ofInt?]
  constructor
  · intro made
    split at made
    case isTrue fits =>
      cases made
      exact ⟨fits, rfl⟩
    case isFalse => cases made
  · intro integer
    obtain ⟨fits, rfl⟩ := integer
    exact dif_pos fits

def ofWord (value : UInt32) : Number :=
  .integer value.toNat (by have := value.toNat_lt; omega)

def ofPort (value : UInt16) : Number :=
  .integer value.toNat (by have := value.toNat_lt; omega)

def intText (value : Int) : List Char :=
  (if value < 0 then ['-'] else []) ++ Nat.toDigits 10 value.natAbs

def text : Number → List Char
  | .integer value _ => intText value
  | .float value => value.decimalText

end Number

end MeshRouting.Json

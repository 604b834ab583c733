import Mathlib.Tactic.SplitIfs
import Mathlib.Order.Basic

/-!
The order of strings and the order of their bytes. Strings are compared character by
character. UTF-8 is made so that comparing the bytes gives the same answer: a greater
character has a greater byte at the first place where the two encodings differ.
-/

namespace MeshRouting.Text

/-- The bytes of a string in UTF-8. -/
def utf8 (s : String) : List UInt8 := s.toUTF8.data.toList

theorem utf8_eq_flat_map (s : String) : utf8 s = s.toList.flatMap String.utf8EncodeChar := by
  unfold utf8
  rw [String.toUTF8_eq_toByteArray, ← String.utf8Encode_toList, List.utf8Encode]
  simp

theorem byte_cons_lt_iff {a b : Nat} (x y : List UInt8) (small : a < 256) (other : b < 256) :
    UInt8.ofNat a :: x < UInt8.ofNat b :: y ↔ a < b ∨ a = b ∧ x < y := by
  rw [List.cons_lt_cons_iff, UInt8.lt_iff_toNat_lt, ← UInt8.toNat_inj, UInt8.toNat_ofNat',
    UInt8.toNat_ofNat', Nat.mod_eq_of_lt small, Nat.mod_eq_of_lt other]

theorem encode_char_lt {c d : Char} (below : c < d) (x y : List UInt8) :
    String.utf8EncodeChar c ++ x < String.utf8EncodeChar d ++ y := by
  have order : c.val.toNat < d.val.toNat := below
  have bound : d.val.toNat < 0x110000 := by
    have valid := d.valid
    simp only [UInt32.isValidChar, Nat.isValidChar] at valid
    omega
  unfold String.utf8EncodeChar
  generalize c.val.toNat = v at order ⊢
  generalize d.val.toNat = w at order bound ⊢
  have digits (n : Nat) (small : n < 0x110000) :
      n / 64 / 64 = n / 4096 ∧ n / 4096 / 64 = n / 262144 ∧ n / 262144 % 8 = n / 262144 := by
    rw [Nat.div_div_eq_div_mul, Nat.div_div_eq_div_mul]
    exact ⟨rfl, rfl, Nat.mod_eq_of_lt (by omega)⟩
  have digitsLeft := digits v (by omega)
  have digitsRight := digits w bound
  -- In each pair of lengths the bytes differ before what follows is looked at.
  by_cases followed : x < y
  all_goals
    simp only
    split_ifs
    all_goals
      simp (disch := omega) only [List.cons_append, List.nil_append, byte_cons_lt_iff, followed,
        and_true, and_false, or_false]
      omega

theorem flat_map_encode_lt {left right : List Char} (below : left < right) :
    left.flatMap String.utf8EncodeChar < right.flatMap String.utf8EncodeChar := by
  induction left generalizing right with
  | nil =>
      cases right with
      | nil => exact absurd below (List.lt_irrefl [])
      | cons d rest =>
          cases encoded : (d :: rest).flatMap String.utf8EncodeChar with
          | nil => simp [String.utf8EncodeChar_ne_nil] at encoded
          | cons byte bytes => exact List.nil_lt_cons byte bytes
  | cons c left induction =>
      cases right with
      | nil => exact absurd below (List.not_lt_nil _)
      | cons d right =>
          rw [List.flatMap_cons, List.flatMap_cons]
          rcases List.cons_lt_cons_iff.1 below with lower | ⟨rfl, later⟩
          · exact encode_char_lt lower _ _
          · exact List.append_left_lt (induction later)

/-- A string that comes before another one has the lesser bytes. -/
theorem utf8_lt {s t : String} (below : s < t) : utf8 s < utf8 t := by
  rw [utf8_eq_flat_map, utf8_eq_flat_map]
  exact flat_map_encode_lt below

end MeshRouting.Text

import MeshRouting.Match.Comparison
import MeshRouting.Match.Method
import Mathlib.Data.List.Forall2

/-!
Keywords in any mixture of cases. Only the ASCII letters have two cases, so a character
beyond them is alike to nothing but itself. A keyword is found exactly if one of the
known spellings is alike to it, letter by letter.
-/

namespace MeshRouting.Text

/-- The same character, or an ASCII capital and its small letter. -/
def SameLetter (a b : Char) : Prop :=
  a = b ∨ (a.isUpper = true ∧ b = a.toLower) ∨ (b.isUpper = true ∧ a = b.toLower)

def Alike (s t : String) : Prop := List.Forall₂ SameLetter s.toList t.toList

/-- The name is one of the keywords up to ASCII case. -/
def Spells (keywords : List String) (name : String) : Prop := ∃ keyword ∈ keywords, Alike keyword name

theorem to_nat_upper (c : Char) :
    c.toUpper.toNat = if 97 ≤ c.toNat ∧ c.toNat ≤ 122 then c.toNat - 32 else c.toNat := by
  have small : ('a'.val ≤ c.val ∧ c.val ≤ 'z'.val) ↔ (97 ≤ c.toNat ∧ c.toNat ≤ 122) := by
    simp only [UInt32.le_iff_toNat_le]
    exact Iff.rfl
  unfold Char.toUpper
  by_cases lower : 97 ≤ c.toNat ∧ c.toNat ≤ 122
  · rw [dif_pos (small.2 lower), if_pos lower]
    change (c.val + ('A'.val - 'a'.val)).toNat = c.toNat - 32
    have shift : ('A'.val - 'a'.val).toNat = 4294967264 := by decide
    have value : c.val.toNat = c.toNat := rfl
    rw [UInt32.toNat_add, shift, value]
    omega
  · rw [dif_neg (fun h => lower (small.1 h)), if_neg lower]

theorem to_nat_lower (c : Char) :
    c.toLower.toNat = if 65 ≤ c.toNat ∧ c.toNat ≤ 90 then c.toNat + 32 else c.toNat := by
  have capital : (c.val ≥ 'A'.val ∧ c.val ≤ 'Z'.val) ↔ (65 ≤ c.toNat ∧ c.toNat ≤ 90) := by
    simp only [ge_iff_le, UInt32.le_iff_toNat_le]
    exact Iff.rfl
  unfold Char.toLower
  by_cases upper : 65 ≤ c.toNat ∧ c.toNat ≤ 90
  · rw [dif_pos (capital.2 upper), if_pos upper]
    change (c.val + ('a'.val - 'A'.val)).toNat = c.toNat + 32
    have shift : ('a'.val - 'A'.val).toNat = 32 := by decide
    have value : c.val.toNat = c.toNat := rfl
    rw [UInt32.toNat_add, shift, value]
    omega
  · rw [dif_neg (fun h => upper (capital.1 h)), if_neg upper]

theorem is_upper_iff (c : Char) : c.isUpper = true ↔ 65 ≤ c.toNat ∧ c.toNat ≤ 90 := by
  have bounds : c.isUpper = decide (c.val ≥ 'A'.val ∧ c.val ≤ 'Z'.val) := rfl
  rw [bounds, decide_eq_true_eq, ge_iff_le, UInt32.le_iff_toNat_le, UInt32.le_iff_toNat_le]
  exact Iff.rfl

theorem same_upper_iff (a b : Char) : a.toUpper = b.toUpper ↔ SameLetter a b := by
  have equal (c d : Char) : c = d ↔ c.toNat = d.toNat := Char.toNat_inj.symm
  unfold SameLetter
  simp only [equal, to_nat_upper, to_nat_lower, is_upper_iff]
  split_ifs <;> omega

theorem same_ignoring_case_iff (s t : String) : sameIgnoringCase s t = true ↔ Alike s t := by
  unfold sameIgnoringCase Alike
  rw [beq_iff_eq, ← List.forall₂_eq_eq_eq, List.forall₂_map_left_iff, List.forall₂_map_right_iff]
  simp only [same_upper_iff]

theorem find_keyword_exists_iff (spelling : α → String) (values : List α) (name : String) :
    (∃ value, findKeyword spelling values name = some value) ↔
      ∃ value ∈ values, Alike (spelling value) name := by
  unfold findKeyword
  rw [← Option.isSome_iff_exists, List.find?_isSome]
  simp only [same_ignoring_case_iff]

theorem alike_symm {s t : String} (alike : Alike s t) : Alike t s := by
  rw [← same_ignoring_case_iff, sameIgnoringCase, beq_iff_eq] at alike ⊢
  exact alike.symm

theorem alike_trans {s t u : String} (first : Alike s t) (second : Alike t u) : Alike s u := by
  rw [← same_ignoring_case_iff, sameIgnoringCase, beq_iff_eq] at first second ⊢
  exact first.trans second

theorem alike_of_find_keyword {spelling : α → String} {values : List α} {name : String} {value : α}
    (found : findKeyword spelling values name = some value) : Alike (spelling value) name := by
  have same := List.find?_some found
  exact (same_ignoring_case_iff _ _).1 same

theorem find_keyword_congr (spelling : α → String) (values : List α) {name other : String}
    (alike : Alike name other) :
    findKeyword spelling values name = findKeyword spelling values other := by
  unfold findKeyword
  congr
  funext value
  rw [Bool.eq_iff_iff, same_ignoring_case_iff, same_ignoring_case_iff]
  exact ⟨fun same => alike_trans same alike, fun same => alike_trans same (alike_symm alike)⟩

/-- Two names that are both found stand for the same value exactly if they are alike. No
two values need to be told apart for it: the value that is found is alike to its name. -/
theorem found_keyword_eq_iff {spelling : α → String} {values : List α} {name other : String}
    {value another : α} (found : findKeyword spelling values name = some value)
    (foundOther : findKeyword spelling values other = some another) :
    value = another ↔ Alike name other := by
  constructor
  · rintro rfl
    exact alike_trans (alike_symm (alike_of_find_keyword found)) (alike_of_find_keyword foundOther)
  · intro alike
    rw [find_keyword_congr spelling values alike, foundOther] at found
    exact (Option.some.inj found).symm

/-- A value that is found under its own spelling is found under all that are alike to it,
and under no others. -/
theorem find_keyword_eq_some_iff {spelling : α → String} {values : List α} {value : α}
    (own : findKeyword spelling values (spelling value) = some value) (name : String) :
    findKeyword spelling values name = some value ↔ Alike (spelling value) name := by
  constructor
  · exact alike_of_find_keyword
  · intro alike
    rw [← find_keyword_congr spelling values alike]
    exact own

theorem is_alpha_iff (c : Char) :
    c.isAlpha = true ↔ 65 ≤ c.toNat ∧ c.toNat ≤ 90 ∨ 97 ≤ c.toNat ∧ c.toNat ≤ 122 := by
  have small : c.isLower = true ↔ 97 ≤ c.toNat ∧ c.toNat ≤ 122 := by
    unfold Char.isLower
    rw [Bool.and_eq_true, decide_eq_true_eq, decide_eq_true_eq, ge_iff_le,
      UInt32.le_iff_toNat_le, UInt32.le_iff_toNat_le]
    exact Iff.rfl
  change (c.isUpper || c.isLower) = true ↔ _
  rw [Bool.or_eq_true, is_upper_iff, small]

/-- Nothing beyond the ASCII letters is taken for one of them. -/
theorem is_alpha_of_same_letter {a b : Char} (same : SameLetter a b) (letter : a.isAlpha = true) :
    b.isAlpha = true := by
  have upper := (same_upper_iff a b).2 same
  rw [← Char.toNat_inj, to_nat_upper, to_nat_upper] at upper
  rw [is_alpha_iff] at letter ⊢
  split_ifs at upper <;> omega

theorem letters_of_alike {s t : String} (alike : Alike s t)
    (letters : ∀ c ∈ s.toList, c.isAlpha = true) : ∀ c ∈ t.toList, c.isAlpha = true := by
  rw [← same_ignoring_case_iff, sameIgnoringCase, beq_iff_eq] at alike
  intro d member
  have upper : d.toUpper ∈ s.toList.map Char.toUpper := alike ▸ List.mem_map_of_mem member
  obtain ⟨c, own, same⟩ := List.mem_map.1 upper
  exact is_alpha_of_same_letter ((same_upper_iff c d).1 same) (letters c own)

/-- The same word, or two spellings of one keyword. -/
def Recased (keywords : List String) (first second : String) : Prop :=
  first = second ∨ Spells keywords first ∧ Alike first second

end MeshRouting.Text

import MeshRouting.Json.Basic

/-!
Free-form JSON, which the library passes on without looking into it. It is kept in
canonical form, so that two values are equal exactly if they say the same. The canonical
form is a fixed point of `Json.normalize`, since inserting a member commutes with
normalizing the members around it.
-/

namespace MeshRouting

namespace Json

theorem lt_of_not_lt_of_ne {a b : String} (h : ¬ a < b) (distinct : a ≠ b) : b < a :=
  Std.lt_of_le_of_ne h fun equal => distinct equal.symm

/-- A member that is there already is kept as it is. -/
theorem insert_absent_head (key : String) (value present : Json) (rest : List (String × Json)) :
    insertAbsent key value ((key, present) :: rest) = (key, present) :: rest := by
  rw [insertAbsent, if_neg (String.lt_irrefl key), if_pos rfl]

theorem insert_absent_same (key : String) (first second : Json) (members : List (String × Json)) :
    insertAbsent key first (insertAbsent key second members) = insertAbsent key second members := by
  induction members with
  | nil => exact insert_absent_head key first second []
  | cons member rest induction =>
      obtain ⟨k, v⟩ := member
      by_cases below : key < k
      · have placed : insertAbsent key second ((k, v) :: rest) = (key, second) :: (k, v) :: rest := by
          rw [insertAbsent, if_pos below]
        rw [placed, insert_absent_head]
      · by_cases equal : key = k
        · subst equal
          rw [insert_absent_head key second, insert_absent_head]
        · simp [insertAbsent, below, equal, induction]

theorem insert_absent_comm {key other : String} (distinct : key ≠ other) (value otherValue : Json)
    (members : List (String × Json)) :
    insertAbsent key value (insertAbsent other otherValue members) =
      insertAbsent other otherValue (insertAbsent key value members) := by
  induction members with
  | nil =>
      by_cases below : key < other
      · have above : ¬ other < key := fun h => String.lt_irrefl key (String.lt_trans below h)
        simp [insertAbsent, below, above, distinct.symm]
      · have above := lt_of_not_lt_of_ne below distinct
        simp [insertAbsent, below, above, distinct]
  | cons member rest induction =>
      obtain ⟨k, v⟩ := member
      by_cases below : key < other
      · have above : ¬ other < key := fun h => String.lt_irrefl key (String.lt_trans below h)
        grind [insertAbsent, String.lt_trans, String.lt_irrefl]
      · have above := lt_of_not_lt_of_ne below distinct
        grind [insertAbsent, String.lt_trans, String.lt_irrefl]

theorem normalize_members_insert_absent (key : String) (value : Json)
    (members : List (String × Json)) :
    normalizeMembers (insertAbsent key value members) =
      insertAbsent key value.normalize (normalizeMembers members) := by
  induction members with
  | nil => simp [insertAbsent, normalizeMembers]
  | cons member rest induction =>
      obtain ⟨k, v⟩ := member
      by_cases below : key < k
      · simp [insertAbsent, below, normalizeMembers]
      · by_cases equal : key = k
        · subst equal
          rw [insert_absent_head, normalizeMembers, insert_absent_same]
        · simp [insertAbsent, below, equal, normalizeMembers, induction]
          exact insert_absent_comm (Ne.symm equal) _ _ _

mutual

theorem normalize_normalize : ∀ tree : Json, tree.normalize.normalize = tree.normalize
  | .null | .bool _ | .number _ | .string _ => by simp [normalize]
  | .array items => by simp [normalize, normalize_items_normalize_items items]
  | .object members => by simp [normalize, normalize_members_normalize_members members]

theorem normalize_items_normalize_items : ∀ items : List Json,
    normalizeItems (normalizeItems items) = normalizeItems items
  | [] => by simp [normalizeItems]
  | item :: rest => by
      simp [normalizeItems, normalize_normalize item, normalize_items_normalize_items rest]

theorem normalize_members_normalize_members : ∀ members : List (String × Json),
    normalizeMembers (normalizeMembers members) = normalizeMembers members
  | [] => by simp [normalizeMembers]
  | (_, value) :: rest => by
      simp [normalizeMembers, normalize_members_insert_absent, normalize_normalize value,
        normalize_members_normalize_members rest]

end

end Json

/-- A JSON value in canonical form. -/
structure FreeForm where
  tree : Json
  canonical : tree.normalize = tree

namespace FreeForm

def ofJson (value : Json) : FreeForm := ⟨value.normalize, Json.normalize_normalize value⟩

end FreeForm

/-- Free-form members, ascending by key and each key once. -/
structure FreeMembers where
  members : List (String × Json)
  canonical : Json.normalizeMembers members = members

namespace FreeMembers

def ofList (members : List (String × Json)) : FreeMembers :=
  ⟨Json.normalizeMembers members, Json.normalize_members_normalize_members members⟩

def empty : FreeMembers := ⟨[], by simp [Json.normalizeMembers]⟩

def keys (m : FreeMembers) : List String := m.members.map (·.1)

def isEmpty (m : FreeMembers) : Bool := m.members.isEmpty

end FreeMembers

end MeshRouting

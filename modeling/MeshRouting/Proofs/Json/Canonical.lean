import MeshRouting.Json.FreeForm
import Mathlib.Data.List.Nodup
import Mathlib.Tactic.SplitIfs

/-!
What canonical form keeps. Putting members in canonical form neither adds nor loses a key;
it orders the keys and leaves each of them once, with the value that the last member of
this key had.
-/

namespace MeshRouting

namespace Json

theorem mem_keys_insert_absent_iff {key other : String} {value : Json}
    {members : List (String × Json)} :
    other ∈ (insertAbsent key value members).map (·.1) ↔
      other = key ∨ other ∈ members.map (·.1) := by
  induction members with
  | nil => simp [insertAbsent]
  | cons member rest induction =>
      rcases member with ⟨first, content⟩
      rw [insertAbsent]
      split_ifs with below equal
      · simp
      · simp [equal]
      · rw [List.map_cons, List.mem_cons, induction, List.map_cons, List.mem_cons]
        exact or_left_comm

theorem insert_absent_ascending {key : String} {value : Json} {members : List (String × Json)}
    (ascending : (members.map (·.1)).Pairwise (· < ·)) :
    ((insertAbsent key value members).map (·.1)).Pairwise (· < ·) := by
  induction members with
  | nil => simp [insertAbsent]
  | cons member rest induction =>
      rcases member with ⟨first, content⟩
      rcases List.pairwise_cons.1 ascending with ⟨above, others⟩
      rw [insertAbsent]
      split_ifs with below equal
      · refine List.pairwise_cons.2 ⟨?_, ascending⟩
        intro other member
        rcases List.mem_cons.1 member with rfl | later
        · exact below
        · exact String.lt_trans below (above other later)
      · exact ascending
      · refine List.pairwise_cons.2 ⟨?_, induction others⟩
        intro other member
        rcases mem_keys_insert_absent_iff.1 member with rfl | later
        · exact lt_of_not_lt_of_ne below equal
        · exact above other later

theorem mem_keys_normalize_members_iff {key : String} {members : List (String × Json)} :
    key ∈ (normalizeMembers members).map (·.1) ↔ key ∈ members.map (·.1) := by
  induction members with
  | nil => simp [normalizeMembers]
  | cons member rest induction =>
      rcases member with ⟨first, value⟩
      rw [normalizeMembers, mem_keys_insert_absent_iff, induction, List.map_cons, List.mem_cons]

theorem normalize_members_ascending (members : List (String × Json)) :
    ((normalizeMembers members).map (·.1)).Pairwise (· < ·) := by
  induction members with
  | nil => simp [normalizeMembers]
  | cons member rest induction =>
      rcases member with ⟨first, value⟩
      rw [normalizeMembers]
      exact insert_absent_ascending induction

theorem mem_insert_absent_of_mem {key : String} {value : Json} {members : List (String × Json)}
    {member : String × Json} (inside : member ∈ members) :
    member ∈ insertAbsent key value members := by
  induction members with
  | nil => cases inside
  | cons first rest induction =>
      rcases first with ⟨other, content⟩
      rw [insertAbsent]
      split_ifs with below equal
      · exact List.mem_cons_of_mem _ inside
      · exact inside
      · rcases List.mem_cons.1 inside with rfl | later
        · exact List.mem_cons_self
        · exact List.mem_cons_of_mem _ (induction later)

theorem mem_insert_absent_self {key : String} {value : Json} {members : List (String × Json)}
    (absent : key ∉ members.map (·.1)) : (key, value) ∈ insertAbsent key value members := by
  induction members with
  | nil => exact List.mem_cons_self
  | cons first rest induction =>
      rcases first with ⟨other, content⟩
      rw [List.map_cons, List.mem_cons, not_or] at absent
      rw [insertAbsent]
      split_ifs with below equal
      · exact List.mem_cons_self
      · exact absurd equal absent.1
      · exact List.mem_cons_of_mem _ (induction absent.2)

mutual

/-- The second value says the same as the first one and repeats no key: of the members of a
key the last one counts. -/
def ResolvesTo : Json → Json → Prop
  | .null, .null => True
  | .bool value, .bool other => value = other
  | .number value, .number other => value = other
  | .string value, .string other => value = other
  | .array items, .array others => ItemsResolveTo items others
  | .object members, .object others =>
      (others.map (·.1)).Pairwise (· < ·) ∧
        (∀ key, key ∈ others.map (·.1) ↔ key ∈ members.map (·.1)) ∧
        MembersResolveTo members others
  | _, _ => False

def ItemsResolveTo : List Json → List Json → Prop
  | [], [] => True
  | item :: rest, other :: others => item.ResolvesTo other ∧ ItemsResolveTo rest others
  | _, _ => False

/-- Every member is there, or a later one with its key is. -/
def MembersResolveTo : List (String × Json) → List (String × Json) → Prop
  | [], _ => True
  | (key, value) :: rest, others =>
      (key ∈ rest.map (·.1) ∨ ∃ other, (key, other) ∈ others ∧ value.ResolvesTo other) ∧
        MembersResolveTo rest others

end

theorem members_resolve_among {members others more : List (String × Json)}
    (among : ∀ member ∈ others, member ∈ more) (resolve : MembersResolveTo members others) :
    MembersResolveTo members more := by
  induction members with
  | nil => trivial
  | cons member rest induction =>
      rcases member with ⟨key, value⟩
      rcases resolve with ⟨first, later⟩
      refine ⟨?_, induction later⟩
      rcases first with repeated | ⟨other, inside, same⟩
      · exact .inl repeated
      · exact .inr ⟨other, among _ inside, same⟩

mutual

theorem resolves_to_normalize : ∀ value : Json, value.ResolvesTo value.normalize
  | .null => trivial
  | .bool _ | .number _ | .string _ => rfl
  | .array items => items_resolve_to_normalize items
  | .object members =>
      ⟨normalize_members_ascending members, fun _ => mem_keys_normalize_members_iff,
        members_resolve_to_normalize members⟩

theorem items_resolve_to_normalize : ∀ items : List Json,
    ItemsResolveTo items (normalizeItems items)
  | [] => trivial
  | item :: rest => ⟨resolves_to_normalize item, items_resolve_to_normalize rest⟩

theorem members_resolve_to_normalize : ∀ members : List (String × Json),
    MembersResolveTo members (normalizeMembers members)
  | [] => trivial
  | (key, value) :: rest => by
      -- The rest is placed first, so a later member with the key keeps its place.
      have later : MembersResolveTo rest (insertAbsent key value.normalize (normalizeMembers rest)) :=
        members_resolve_among (fun _ => mem_insert_absent_of_mem) (members_resolve_to_normalize rest)
      refine ⟨?_, later⟩
      by_cases again : key ∈ rest.map (·.1)
      · exact .inl again
      · have absent : key ∉ (normalizeMembers rest).map (·.1) :=
          fun known => again (mem_keys_normalize_members_iff.1 known)
        exact .inr ⟨value.normalize, mem_insert_absent_self absent, resolves_to_normalize value⟩

end

/-- Ascending members are the same if they have the same keys, and of each key one value. -/
theorem eq_of_members_agree {first second : List (String × Json)}
    (ascending : (first.map (·.1)).Pairwise (· < ·))
    (otherAscending : (second.map (·.1)).Pairwise (· < ·))
    (agree : ∀ key, key ∈ first.map (·.1) ∨ key ∈ second.map (·.1) →
      ∃ value, (key, value) ∈ first ∧ (key, value) ∈ second) : first = second := by
  have distinct {members : List (String × Json)} (ascending : (members.map (·.1)).Pairwise (· < ·)) :
      (members.map (·.1)).Nodup := by
    refine ascending.imp ?_
    rintro key _ below rfl
    exact String.lt_irrefl key below
  have same (member : String × Json) : member ∈ first ↔ member ∈ second := by
    constructor
    · intro inside
      obtain ⟨value, own, other⟩ := agree member.1 (.inl (List.mem_map_of_mem inside))
      rwa [List.inj_on_of_nodup_map (distinct ascending) inside own rfl]
    · intro inside
      obtain ⟨value, own, other⟩ := agree member.1 (.inr (List.mem_map_of_mem inside))
      rwa [List.inj_on_of_nodup_map (distinct otherAscending) inside other rfl]
  have perm := (List.perm_ext_iff_of_nodup (distinct ascending).of_map
    (distinct otherAscending).of_map).2 same
  refine List.Perm.eq_of_pairwise ?_ (List.pairwise_map.1 ascending)
    (List.pairwise_map.1 otherAscending) perm
  intro member other _ _ below above
  exact absurd (String.lt_trans below above) (String.lt_irrefl member.1)

mutual

theorem eq_normalize_of_resolves : ∀ (value other : Json), value.ResolvesTo other →
    other = value.normalize
  | .null, other, resolves => by
      cases other with
      | null => rfl
      | _ => exact resolves.elim
  | .bool value, other, resolves => by
      cases other with
      | bool other => exact congrArg Json.bool resolves.symm
      | _ => exact resolves.elim
  | .number value, other, resolves => by
      cases other with
      | number other => exact congrArg Json.number resolves.symm
      | _ => exact resolves.elim
  | .string value, other, resolves => by
      cases other with
      | string other => exact congrArg Json.string resolves.symm
      | _ => exact resolves.elim
  | .array items, other, resolves => by
      cases other with
      | array others => exact congrArg Json.array (eq_normalize_items_of_resolve items others resolves)
      | _ => exact resolves.elim
  | .object members, other, resolves => by
      cases other with
      | object others =>
          obtain ⟨ascending, sameKeys, resolve⟩ := resolves
          refine congrArg Json.object
            (eq_of_members_agree ascending (normalize_members_ascending members) ?_)
          intro key known
          rw [sameKeys, mem_keys_normalize_members_iff, or_self] at known
          exact members_agree_of_resolve members others resolve key known
      | _ => exact resolves.elim

theorem eq_normalize_items_of_resolve : ∀ items others : List Json, ItemsResolveTo items others →
    others = normalizeItems items
  | [], others, resolve => by
      cases others with
      | nil => rfl
      | cons => exact resolve.elim
  | item :: rest, others, resolve => by
      cases others with
      | nil => exact resolve.elim
      | cons other others =>
          obtain ⟨first, later⟩ := resolve
          rw [eq_normalize_of_resolves item other first,
            eq_normalize_items_of_resolve rest others later, normalizeItems]

theorem members_agree_of_resolve : ∀ members others : List (String × Json),
    MembersResolveTo members others → ∀ key ∈ members.map (·.1),
      ∃ value, (key, value) ∈ others ∧ (key, value) ∈ normalizeMembers members
  | [], _, _, _, known => by cases known
  | (first, value) :: rest, others, resolve, key, known => by
      obtain ⟨own, later⟩ := resolve
      by_cases again : key ∈ rest.map (·.1)
      · obtain ⟨content, inside, kept⟩ := members_agree_of_resolve rest others later key again
        exact ⟨content, inside, mem_insert_absent_of_mem kept⟩
      · have same : key = first := (List.mem_cons.1 known).resolve_right again
        subst same
        obtain ⟨other, inside, resolves⟩ := own.resolve_left again
        rw [eq_normalize_of_resolves value other resolves] at inside
        exact ⟨value.normalize, inside,
          mem_insert_absent_self fun known => again (mem_keys_normalize_members_iff.1 known)⟩

end

/-- There is one value that a value resolves to, its canonical form. -/
theorem resolves_to_iff {value other : Json} : value.ResolvesTo other ↔ other = value.normalize := by
  constructor
  · intro resolves
    exact eq_normalize_of_resolves value other resolves
  · rintro rfl
    exact resolves_to_normalize value

end Json

namespace FreeMembers

theorem mem_keys_of_list_iff {key : String} {members : List (String × Json)} :
    key ∈ (ofList members).keys ↔ key ∈ members.map (·.1) :=
  Json.mem_keys_normalize_members_iff

theorem keys_ascending (m : FreeMembers) : m.keys.Pairwise (· < ·) := by
  rw [keys, ← m.canonical]
  exact Json.normalize_members_ascending m.members

/-- Members in canonical form are kept as they are. -/
theorem of_list_members (m : FreeMembers) : ofList m.members = m := by
  rcases m with ⟨members, canonical⟩
  simp only [ofList, canonical]

/-- What is kept of members is what the object of them resolves to. -/
theorem eq_of_list_iff {m : FreeMembers} {members : List (String × Json)} :
    m = ofList members ↔ (Json.object members).ResolvesTo (.object m.members) := by
  rw [Json.resolves_to_iff, Json.normalize, Json.object.injEq]
  constructor
  · rintro rfl
    rfl
  · intro same
    rcases m with ⟨listed, canonical⟩
    simp only [ofList, mk.injEq]
    exact same

theorem members_eq_nil_iff (m : FreeMembers) : m.members = [] ↔ ∀ key, key ∉ m.keys := by
  rw [keys, ← List.eq_nil_iff_forall_not_mem, List.map_eq_nil_iff]

end FreeMembers

end MeshRouting

import MeshRouting.Decoding.Acceptance
import MeshRouting.Decoding.Whole

/-!
Members that were read whole. A record looks at members in three ways: it picks the ones
of a field, passes over unknown ones, and keeps unknown ones. On the members of a JSON
value each of these is plain filtering by key, since nothing in them can be faulty.
-/

namespace MeshRouting

open Json (Head Source memberSources)

namespace Json

/-- The values of the members with one of the keys, in text order. -/
def valuesOf (keys : List String) (members : List (String × Json)) : List Json :=
  (members.filter fun member => member.1 ∈ keys).map (·.2)

/-- The members with other keys. -/
def without (keys : List String) (members : List (String × Json)) : List (String × Json) :=
  members.filter fun member => member.1 ∉ keys

theorem values_of_append (keys : List String) (first second : List (String × Json)) :
    valuesOf keys (first ++ second) = valuesOf keys first ++ valuesOf keys second := by
  simp [valuesOf]

theorem values_of_eq_nil {keys : List String} {members : List (String × Json)}
    (apart : ∀ member ∈ members, member.1 ∉ keys) : valuesOf keys members = [] := by
  unfold valuesOf
  rw [List.map_eq_nil_iff, List.filter_eq_nil_iff]
  simpa using apart

theorem without_eq_self {keys : List String} {members : List (String × Json)}
    (apart : ∀ member ∈ members, member.1 ∉ keys) : without keys members = members := by
  unfold without
  rw [List.filter_eq_self]
  simpa using apart

theorem values_of_member_if_some (keys : List String) (key : String) (write : α → Json)
    (value : Option α) : valuesOf keys (memberIfSome key write value) =
      if key ∈ keys then (value.map write).toList else [] := by
  cases value with
  | none => simp [valuesOf, memberIfSome]
  | some content => by_cases known : key ∈ keys <;> simp [valuesOf, memberIfSome, known]

theorem without_append (keys : List String) (first second : List (String × Json)) :
    without keys (first ++ second) = without keys first ++ without keys second := by
  simp [without]

theorem without_member_if_some {keys : List String} {key : String} (known : key ∈ keys)
    (write : α → Json) (value : Option α) : without keys (memberIfSome key write value) = [] := by
  cases value <;> simp [without, memberIfSome, known]

theorem without_without (keys others : List String) (members : List (String × Json)) :
    without others (without keys members) = without (keys ++ others) members := by
  unfold without
  rw [List.filter_filter]
  apply List.filter_congr
  intro member _
  simp [Bool.and_comm]

/-- Taking members away does not change what is found under other keys. -/
theorem values_of_without {keys others : List String} (apart : ∀ key ∈ others, key ∉ keys)
    (members : List (String × Json)) :
    valuesOf others (without keys members) = valuesOf others members := by
  unfold valuesOf without
  rw [List.filter_filter]
  congr 1
  apply List.filter_congr
  intro member _
  by_cases own : member.1 ∈ others
  · simp [own, apart member.1 own]
  · simp [own]

theorem mem_without_iff {keys : List String} {members : List (String × Json)}
    {member : String × Json} : member ∈ without keys members ↔ member ∈ members ∧ member.1 ∉ keys := by
  simp [without]

theorem members_nest_iff {room : Nat} {members : List (String × Json)} :
    MembersNestWithin room members ↔ ∀ member ∈ members, member.2.NestsWithin room := by
  induction members with
  | nil => simp [MembersNestWithin]
  | cons member rest induction =>
      rw [List.forall_mem_cons, ← induction]
      exact Iff.rfl

theorem items_nest_iff {room : Nat} {items : List Json} :
    ItemsNestWithin room items ↔ ∀ item ∈ items, item.NestsWithin room := by
  induction items with
  | nil => simp [ItemsNestWithin]
  | cons item rest induction =>
      rw [List.forall_mem_cons, ← induction]
      exact Iff.rfl

theorem written_items_nest_iff {room : Nat} {write : α → Json} {things : List α} :
    ItemsNestWithin room (things.map write) ↔
      ∀ thing ∈ things, (write thing).NestsWithin room := by
  rw [items_nest_iff, List.forall_mem_map]

theorem without_nests {room : Nat} {members : List (String × Json)} (keys : List String)
    (nest : MembersNestWithin room members) : MembersNestWithin room (without keys members) := by
  rw [members_nest_iff] at nest ⊢
  intro member inside
  exact nest member (mem_without_iff.1 inside).1

/-- The one value under some keys is among the values of the members. -/
theorem value_nests {room : Nat} {keys : List String} {members : List (String × Json)}
    (nest : MembersNestWithin room members) {value : Json}
    (single : valuesOf keys members = [value]) : value.NestsWithin room := by
  have own : value ∈ valuesOf keys members := by simp [single]
  obtain ⟨member, inside, rfl⟩ := List.mem_map.1 own
  exact members_nest_iff.1 nest member (List.mem_filter.1 inside).1

/-- Nothing in the tree of a value is faulty, so it can be passed over. -/
theorem fault_to_source (value : Json) : value.toSource.fault = none := by
  cases value <;> rfl

end Json

namespace Members

open Json (valuesOf without)

theorem having_member_sources (keys : List String) (start : Nat) (members : List (String × Json)) :
    (having keys start (memberSources members)).map (·.2) = (valuesOf keys members).map Json.toSource := by
  induction members generalizing start with
  | nil => rfl
  | cons member rest induction =>
      rcases member with ⟨key, value⟩
      by_cases known : key ∈ keys
      · simp [memberSources, having, known, induction, valuesOf]
      · simp [memberSources, having, known, induction, valuesOf]

theorem pass_over_member_sources (keys : List String) (start : Nat)
    (members : List (String × Json)) : passOver keys start (memberSources members) = .ok () := by
  induction members generalizing start with
  | nil => rfl
  | cons member rest induction =>
      rcases member with ⟨key, value⟩
      by_cases known : key ∈ keys
      · simp [memberSources, passOver, known, induction]
      · simp [memberSources, passOver, known, induction, Json.fault_to_source]

theorem keep_member_sources (context : Context) (keys : List String) (start : Nat)
    (members : List (String × Json)) (nests : Json.MembersNestWithin context.room members) :
    keep context keys start (memberSources members) = .ok (without keys members) := by
  induction members generalizing start with
  | nil => rfl
  | cons member rest induction =>
      rcases member with ⟨key, value⟩
      have others := induction (start + 1) nests.2
      by_cases known : key ∈ keys
      · simp [memberSources, keep, known, others, without]
      · have read := Decoder.whole_to_source value context.room nests.1
        simp [memberSources, keep, known, others, without, Decoder.json, read, Problem.within,
          bind, Except.bind]

end Members

namespace Fields

/-- A field takes the one value it has among the members of a JSON value. -/
theorem one_member_sources_iff {field : FieldName} {decoder : Decoder α} {absent : Option α}
    {context : Context} {missing : String → DecodeError} {members : List (String × Json)} {value : α} :
    (one field decoder absent).read context missing (memberSources members) = .ok value ↔
      (Json.valuesOf field.all members = [] ∧ absent = some value) ∨
        ∃ json, Json.valuesOf field.all members = [json] ∧ decoder context json.toSource = .ok value := by
  rw [one_eq_ok_iff]
  have own := Members.having_member_sources field.all 0 members
  constructor
  · intro read
    rcases read with ⟨none, default⟩ | ⟨place, source, single, decoded⟩
    · rw [none] at own
      exact .inl ⟨List.map_eq_nil_iff.1 own.symm, default⟩
    · rw [single] at own
      rcases List.map_eq_singleton_iff.1 own.symm with ⟨json, values, same⟩
      change json.toSource = source at same
      rw [← same] at decoded
      exact .inr ⟨json, values, decoded⟩
  · intro read
    rcases read with ⟨none, default⟩ | ⟨json, single, decoded⟩
    · rw [none] at own
      exact .inl ⟨List.map_eq_nil_iff.1 own, default⟩
    · rw [single] at own
      rcases List.map_eq_singleton_iff.1 own with ⟨⟨place, source⟩, entries, same⟩
      refine .inr ⟨place, source, entries, ?_⟩
      change source = json.toSource at same
      rw [same]
      exact decoded

end Fields

namespace Decoder

/-- A record that keeps other members reads its own and leaves the others as they are. -/
theorem read_and_keep_member_sources_iff {fields : Fields α} {context : Context}
    {members : List (String × Json)} (nests : Json.MembersNestWithin context.room members)
    {value : α} {others : List (String × Json)} :
    readAndKeep fields context (memberSources members) (.ok ()) = .ok (value, others) ↔
      fields.read context missingField (memberSources members) = .ok value ∧
        others = Json.without fields.keys members := by
  rw [read_and_keep_eq_ok_iff, Members.keep_member_sources context fields.keys 0 members nests]
  simp [eq_comm]

end Decoder

end MeshRouting

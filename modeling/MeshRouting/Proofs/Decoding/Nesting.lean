import MeshRouting.Proofs.Decoding.Parts

/-!
How deep a value nests when it is written again. A decoder opens an array or an object for
each one that its value is written with, so what was read within some room is written
within it. Members that were dropped, and other ways to write the same, do not matter: they
only make the source deeper.
-/

namespace MeshRouting

namespace Json

theorem insert_absent_nests {room : Nat} {key : String} {value : Json}
    {members : List (String × Json)} (first : value.NestsWithin room)
    (others : MembersNestWithin room members) :
    MembersNestWithin room (insertAbsent key value members) := by
  induction members with
  | nil => exact ⟨first, trivial⟩
  | cons member rest induction =>
      obtain ⟨other, content⟩ := member
      rw [insertAbsent]
      split_ifs with below equal
      · exact ⟨first, others⟩
      · exact others
      · exact ⟨others.1, induction others.2⟩

mutual

/-- The canonical form of a value nests as deep as the value, or less. -/
theorem normalize_nests : ∀ (value : Json) (room : Nat), value.NestsWithin room →
    value.normalize.NestsWithin room
  | .null, _, _ | .bool _, _, _ | .number _, _, _ | .string _, _, _ => trivial
  | .array _, 0, nests => nests.elim
  | .object _, 0, nests => nests.elim
  | .array items, room + 1, nests => normalize_items_nest items room nests
  | .object members, room + 1, nests => normalize_members_nest members room nests

theorem normalize_items_nest : ∀ (items : List Json) (room : Nat), ItemsNestWithin room items →
    ItemsNestWithin room (normalizeItems items)
  | [], _, _ => trivial
  | item :: rest, room, nest =>
      ⟨normalize_nests item room nest.1, normalize_items_nest rest room nest.2⟩

theorem normalize_members_nest : ∀ (members : List (String × Json)) (room : Nat),
    MembersNestWithin room members → MembersNestWithin room (normalizeMembers members)
  | [], _, _ => trivial
  | (_, value) :: rest, room, nest =>
      insert_absent_nests (normalize_nests value room nest.1)
        (normalize_members_nest rest room nest.2)

end

theorem members_nest_append {room : Nat} {first second : List (String × Json)} :
    MembersNestWithin room (first ++ second) ↔
      MembersNestWithin room first ∧ MembersNestWithin room second := by
  rw [members_nest_iff, members_nest_iff, members_nest_iff, List.forall_mem_append]

theorem member_if_some_nests_iff {room : Nat} {key : String} {write : α → Json}
    {value : Option α} : MembersNestWithin room (memberIfSome key write value) ↔
      ∀ content, value = some content → (write content).NestsWithin room := by
  cases value with
  | none => simp [memberIfSome, MembersNestWithin]
  | some content => simp [memberIfSome, MembersNestWithin]

end Json

namespace Decoder

/-- What was read is written within the room that there was for reading it. -/
def WritesWithin (decoder : Decoder α) (write : α → Json) : Prop :=
  ∀ (context : Context) (source : Json.Source) (value : α), decoder context source = .ok value →
    (write value).NestsWithin context.room

theorem string_writes_within : string.WritesWithin .string := by
  intro context source value _
  trivial

theorem boolean_writes_within : boolean.WritesWithin .bool := by
  intro context source value _
  trivial

theorem word32_writes_within : word32.WritesWithin (.number <| .ofWord ·) := by
  intro context source value _
  trivial

theorem word16_writes_within : word16.WritesWithin (.number <| .ofPort ·) := by
  intro context source value _
  trivial

theorem map_writes_within {decoder : Decoder α} {f : α → β} {write : β → Json}
    (within : decoder.WritesWithin fun value => write (f value)) :
    (map f decoder).WritesWithin write := by
  intro context source value decoded
  obtain ⟨result, read, rfl⟩ := Problem.map_eq_ok_iff.1 decoded
  exact within context source result read

theorem free_form_writes_within : freeForm.WritesWithin FreeForm.tree := by
  intro context source form decoded
  obtain ⟨json, whole, rfl⟩ := Problem.map_eq_ok_iff.1 decoded
  exact Json.normalize_nests json context.room (eq_to_source_of_whole _ _ _ whole).2

theorem source_of_list_item {decoder : Decoder α} {context : Context} {source : Json.Source}
    {values : List α} (decoded : list decoder context source = .ok values) :
    ∃ inner : Context, context = ⟨inner.room + 1, inner.buffered⟩ ∧
      ∀ value ∈ values, ∃ source, decoder inner source = .ok value := by
  obtain ⟨inner, _, room, _, paired⟩ := list_eq_ok_iff.1 decoded
  exact ⟨inner, room, source_of_paired paired⟩

theorem list_writes_within {decoder : Decoder α} {write : α → Json}
    (within : decoder.WritesWithin write) :
    (list decoder).WritesWithin fun values => .array (values.map write) := by
  intro context source values decoded
  obtain ⟨inner, rfl, each⟩ := source_of_list_item decoded
  apply Json.written_items_nest_iff.2
  intro value inside
  obtain ⟨source, read⟩ := each value inside
  exact within inner source value read

theorem choice_writes_within {title : String} {alternatives : List (Decoder α)}
    {write : α → Json} (within : ∀ alternative ∈ alternatives, alternative.WritesWithin write) :
    (choice title alternatives).WritesWithin write := by
  intro context source value decoded
  obtain ⟨tree, _, alternative, member, read⟩ := alternative_of_choice decoded
  exact within alternative member { context with buffered := true } _ value read

end Decoder

namespace Fields

/-- What was read is written within the room that there was for reading it. -/
def WriteWithin (fields : Fields α) (write : α → List (String × Json)) : Prop :=
  ∀ (context : Context) (missing : String → DecodeError) (members : Members) (value : α),
    fields.read context missing members = .ok value →
      Json.MembersNestWithin context.room (write value)

theorem required_writes_within (name : String) (others : List String) {decoder : Decoder α}
    {write : α → Json} (within : decoder.WritesWithin write) :
    (one ⟨name, others⟩ decoder none).WriteWithin fun value => [(name, write value)] := by
  intro context missing members value read
  rcases one_eq_ok_iff.1 read with ⟨_, absent⟩ | ⟨_, source, _, decoded⟩
  · cases absent
  · exact ⟨within context source value decoded, trivial⟩

theorem optional_writes_within (name : String) {decoder : Decoder α} {write : α → Json}
    (within : decoder.WritesWithin write) :
    (optional name decoder).WriteWithin (Json.memberIfSome name write) := by
  intro context missing members value read
  cases value with
  | none => trivial
  | some content =>
      rcases one_eq_ok_iff.1 read with ⟨_, absent⟩ | ⟨_, source, _, decoded⟩
      · cases absent
      · unfold Decoder.optional at decoded
        split at decoded
        case h_1 => cases decoded
        case h_2 =>
          obtain ⟨result, inside, same⟩ := Problem.map_eq_ok_iff.1 decoded
          cases same
          exact ⟨within _ _ content inside, trivial⟩

theorem and_writes_within {first : Fields α} {second : Fields β}
    {write : α → List (String × Json)} {writeOther : β → List (String × Json)}
    (left : first.WriteWithin write) (right : second.WriteWithin writeOther) :
    (first.and second).WriteWithin fun value => write value.1 ++ writeOther value.2 := by
  intro context missing members values read
  rcases values with ⟨value, other⟩
  obtain ⟨readFirst, readSecond⟩ := and_eq_ok_iff.1 read
  exact Json.members_nest_append.2
    ⟨left context missing members value readFirst, right context missing members other readSecond⟩

theorem map_writes_within {fields : Fields α} {f : α → β} {write : β → List (String × Json)}
    (within : fields.WriteWithin fun value => write (f value)) :
    (fields.map f).WriteWithin write := by
  intro context missing members value read
  obtain ⟨source, inside, rfl⟩ := map_eq_ok_iff.1 read
  exact within context missing members source inside

end Fields

namespace Decoder

theorem record_writes_within {title : String} {fields : Fields α}
    {write : α → List (String × Json)} (within : fields.WriteWithin write) :
    (record title fields).WritesWithin fun value => .object (write value) := by
  intro context source value decoded
  obtain ⟨inner, missing, rfl, read⟩ := fields_of_record decoded
  exact within inner missing _ value read

end Decoder

end MeshRouting

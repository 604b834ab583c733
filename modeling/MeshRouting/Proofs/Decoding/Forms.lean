import MeshRouting.Proofs.Decoding.Overlooking
import MeshRouting.Proofs.Decoding.Parts

/-!
The two forms of a record. An array names its items by their places and an object by its keys.
Whether a record is accepted, and what is read, depends only on the values under each name;
so it plays no role in which form and in what order these are given, or what stands between
them under other keys.
-/

namespace MeshRouting

open Json (Fault Head Source)

namespace Members

/-- The values of the members with one of these keys. -/
def under (keys : List String) (members : Members) : List Source :=
  members.filterMap fun member =>
    match member.1 with
    | .leaf (.string key) => if key ∈ keys then some member.2 else none
    | _ => none

/-- Values under names, one by one. -/
def named (names : List String) (values : List Source) : Members :=
  (names.zip values).map fun (name, value) => (.leaf (.string name), value)

/-- A member with another key, and with a value that may be passed over. -/
def Foreign (names : List String) (member : Head × Source) : Prop :=
  ∃ key, member.1 = .leaf (.string key) ∧ key ∉ names ∧ member.2.fault = none

variable {keys names : List String} {member : Head × Source} {members : Members}

theorem under_cons_of_known {key : String} (known : key ∈ keys) (value : Source) :
    under keys ((.leaf (.string key), value) :: members) = value :: under keys members :=
  List.filterMap_cons_some (if_pos known)

theorem under_cons_of_apart (apart : Apart keys member) :
    under keys (member :: members) = under keys members := by
  apply List.filterMap_cons_none
  obtain ⟨head, value⟩ := member
  rcases head with leaf | _ | _
  · cases leaf with
    | string key => exact if_neg fun known => apart key known rfl
    | _ => rfl
  · rfl
  · rfl

theorem having_under (start : Nat) (members : Members) :
    (having keys start members).map (·.2) = under keys members := by
  induction members generalizing start with
  | nil => rfl
  | cons member rest induction =>
      obtain ⟨head, value⟩ := member
      rcases known_or_apart keys (head, value) with ⟨key, known, rfl⟩ | apart
      · rw [having_cons_of_known known, under_cons_of_known known, List.map_cons, induction]
      · rw [having_cons_of_apart apart, under_cons_of_apart apart, induction]

theorem under_append (first second : Members) :
    under keys (first ++ second) = under keys first ++ under keys second :=
  List.filterMap_append

theorem under_perm {first second : Members} (perm : first.Perm second) :
    (under keys first).Perm (under keys second) :=
  perm.filterMap _

theorem under_eq_nil (apart : ∀ member ∈ members, Apart keys member) : under keys members = [] := by
  induction members with
  | nil => rfl
  | cons member rest induction =>
      rw [List.forall_mem_cons] at apart
      rw [under_cons_of_apart apart.1, induction apart.2]

theorem under_eq_nil_of_absent {key : String} {members : Members}
    (absent : ∀ value, (.leaf (.string key), value) ∉ members) : under [key] members = [] := by
  apply under_eq_nil
  rintro ⟨head, value⟩ inside other own same
  rw [List.mem_singleton.1 own] at same
  cases same
  exact absent value inside

theorem apart_of_foreign (foreign : Foreign names member) (known : ∀ key ∈ keys, key ∈ names) :
    Apart keys member := by
  obtain ⟨other, same, unknown, _⟩ := foreign
  intro key inside equal
  rw [same] at equal
  cases equal
  exact unknown (known _ inside)

theorem name_of_named {values : List Source} (inside : member ∈ named names values) :
    ∃ name ∈ names, member.1 = .leaf (.string name) := by
  obtain ⟨⟨name, value⟩, pair, rfl⟩ := List.mem_map.1 inside
  exact ⟨name, (List.of_mem_zip pair).1, rfl⟩

/-- Under each of several different names there is one value at the most. -/
theorem under_named_length (distinct : names.Nodup) (name : String) (values : List Source) :
    (under [name] (named names values)).length ≤ 1 := by
  induction names generalizing values with
  | nil => exact Nat.zero_le 1
  | cons first rest induction =>
      obtain ⟨fresh, distinct⟩ := List.nodup_cons.1 distinct
      cases values with
      | nil => exact Nat.zero_le 1
      | cons value others =>
          change (under [name] ((.leaf (.string first), value) :: named rest others)).length ≤ 1
          by_cases same : first = name
          · subst same
            have nothing : under [first] (named rest others) = [] := by
              apply under_eq_nil
              intro member inside key own same
              obtain ⟨name, later, equal⟩ := name_of_named inside
              rw [List.mem_singleton.1 own, equal] at same
              cases same
              exact fresh later
            rw [under_cons_of_known (List.mem_singleton_self first), nothing]
            exact Nat.le_refl 1
          · rw [under_cons_of_apart]
            · exact induction distinct others
            · intro key own equal
              rw [List.mem_singleton.1 own] at equal
              cases equal
              exact same rfl

/-- Of several different names each has the same values, in whatever order and among whatever
foreign members they stand. -/
theorem under_of_perm (distinct : names.Nodup) {values : List Source} {foreign : Members}
    (foreigners : ∀ member ∈ foreign, Foreign names member)
    (perm : members.Perm (named names values ++ foreign)) {name : String} (known : name ∈ names) :
    under [name] members = under [name] (named names values) := by
  have nothing : under [name] foreign = [] := by
    apply under_eq_nil
    intro member inside
    exact apart_of_foreign (foreigners member inside) (by simpa using known)
  have alike := @under_perm [name] _ _ perm
  rw [under_append, nothing, List.append_nil] at alike
  have single := under_named_length distinct name values
  cases values : under [name] (named names values) with
  | nil => exact (values ▸ alike).eq_nil
  | cons value rest =>
      rw [values, List.length_cons] at single
      rw [values, List.length_eq_zero_iff.1 (show rest.length = 0 by omega)] at alike
      rw [List.perm_singleton.1 alike, List.length_eq_zero_iff.1 (show rest.length = 0 by omega)]

theorem pass_over_eq_ok (passable : ∀ member ∈ members, Passable keys member) (start : Nat) :
    passOver keys start members = .ok () := by
  induction members generalizing start with
  | nil => rfl
  | cons member rest induction =>
      rw [List.forall_mem_cons] at passable
      rw [pass_over_cons passable.1]
      exact induction passable.2 (start + 1)

theorem passable_of_foreign (foreign : Foreign names member) : Passable names member := by
  obtain ⟨key, same, _, faultless⟩ := foreign
  exact ⟨key, same, fun _ => faultless⟩

theorem passable_of_named {values : List Source} (inside : member ∈ named names values) :
    Passable names member := by
  obtain ⟨name, known, same⟩ := name_of_named inside
  exact ⟨name, same, fun unknown => absurd known unknown⟩

end Members

namespace Fields

open Members (under named Foreign)

variable {context : Context} {missing : String → DecodeError} {members : Members}

/-- A field takes the one value under its names, or is left out where it may be. -/
theorem one_under_iff {field : FieldName} {decoder : Decoder α} {absent : Option α} {value : α} :
    (one field decoder absent).read context missing members = .ok value ↔
      (under field.all members = [] ∧ absent = some value) ∨
        ∃ source, under field.all members = [source] ∧ decoder context source = .ok value := by
  rw [one_eq_ok_iff, ← Members.having_under 0 members]
  constructor
  · rintro (⟨nothing, default⟩ | ⟨place, source, single, decoded⟩)
    · exact .inl ⟨List.map_eq_nil_iff.2 nothing, default⟩
    · exact .inr ⟨source, congrArg (List.map Prod.snd) single, decoded⟩
  · rintro (⟨nothing, default⟩ | ⟨source, single, decoded⟩)
    · exact .inl ⟨List.map_eq_nil_iff.1 nothing, default⟩
    · obtain ⟨⟨place, value⟩, entries, same⟩ := List.map_eq_singleton_iff.1 single
      cases same
      exact .inr ⟨place, value, entries, decoded⟩

/-- What is read depends only on the values under each name. -/
def ReadByName (fields : Fields α) : Prop :=
  ∀ (context : Context) (missing other : String → DecodeError) (members alike : Members)
    (content : α), (∀ field ∈ fields.names, under field.all members = under field.all alike) →
      (fields.read context missing members = .ok content ↔
        fields.read context other alike = .ok content)

theorem one_reads_by_name (field : FieldName) (decoder : Decoder α) (absent : Option α) :
    (one field decoder absent).ReadByName := by
  intro context missing other members alike content same
  rw [one_under_iff, one_under_iff, same field (List.mem_singleton_self field)]

theorem and_read_by_name {first : Fields α} {second : Fields β} (left : first.ReadByName)
    (right : second.ReadByName) : (first.and second).ReadByName := by
  rintro context missing other members alike ⟨content, another⟩ same
  rw [and_eq_ok_iff, and_eq_ok_iff,
    left context missing other members alike content
      fun field inside => same field (List.mem_append_left _ inside),
    right context missing other members alike another
      fun field inside => same field (List.mem_append_right _ inside)]

theorem map_read_by_name {fields : Fields α} (f : α → β) (byName : fields.ReadByName) :
    (fields.map f).ReadByName := by
  intro context missing other members alike content same
  simp only [map_eq_ok_iff, byName context missing other members alike _ same]

/-- Where members are accepted, there is at most one under the names of each field. -/
def ReadOnce (fields : Fields α) : Prop :=
  ∀ (context : Context) (missing : String → DecodeError) (members : Members) (content : α),
    fields.read context missing members = .ok content →
      ∀ field ∈ fields.names, (under field.all members).length ≤ 1

theorem one_reads_once (field : FieldName) (decoder : Decoder α) (absent : Option α) :
    (one field decoder absent).ReadOnce := by
  intro context missing members content read other inside
  cases List.mem_singleton.1 inside
  rcases one_under_iff.1 read with ⟨nothing, _⟩ | ⟨source, single, _⟩
  · simp [nothing]
  · simp [single]

theorem and_read_once {first : Fields α} {second : Fields β} (left : first.ReadOnce)
    (right : second.ReadOnce) : (first.and second).ReadOnce := by
  rintro context missing members ⟨content, another⟩ read field inside
  obtain ⟨readFirst, readSecond⟩ := and_eq_ok_iff.1 read
  rcases List.mem_append.1 inside with ofFirst | ofSecond
  · exact left context missing members content readFirst field ofFirst
  · exact right context missing members another readSecond field ofSecond

theorem map_read_once {fields : Fields α} (f : α → β) (once : fields.ReadOnce) :
    (fields.map f).ReadOnce := by
  intro context missing members content read
  obtain ⟨source, read, _⟩ := map_eq_ok_iff.1 read
  exact once context missing members source read

/-- A field that may be left out is read as if left out from a value that stands for that. -/
theorem one_overlooks_default {field : FieldName} {decoder : Decoder α} {content : α}
    {member : Head × Source} {before after : Members} {key : String} (own : key ∈ field.all)
    (named : member.1 = .leaf (.string key)) (stands : decoder context member.2 = .ok content)
    (alone : under field.all (before ++ after) = []) :
    (one field decoder (some content)).Overlook context before after member := by
  intro missing
  obtain ⟨head, value⟩ := member
  cases named
  rw [Members.under_append, List.append_eq_nil_iff] at alone
  have single : under field.all (before ++ (.leaf (.string key), value) :: after) = [value] := by
    rw [Members.under_append, Members.under_cons_of_known own, alone.1, alone.2]
    rfl
  have nothing : under field.all (before ++ after) = [] := by
    rw [Members.under_append, alone.1, alone.2]
    rfl
  rw [one_under_iff.2 (.inr ⟨value, single, stands⟩), one_under_iff.2 (.inl ⟨nothing, rfl⟩)]
  rfl

/-- Fields each of which goes by one name, and looks at nothing but the members with this name. -/
structure Plain (fields : Fields α) (names : List String) : Prop where
  titled : fields.names = names.map fun name => ⟨name, []⟩
  byName : fields.ReadByName
  once : fields.ReadOnce
  overlook : ∀ (context : Context) (before after : Members) (member : Head × Source),
    Members.Apart names member → fields.Overlook context before after member

theorem one_plain (name : String) (decoder : Decoder α) (absent : Option α) :
    (one ⟨name, []⟩ decoder absent).Plain [name] where
  titled := rfl
  byName := one_reads_by_name _ decoder absent
  once := one_reads_once _ decoder absent
  overlook _ _ _ _ apart := one_overlooks_other apart

theorem and_plain {first : Fields α} {second : Fields β} {names more : List String}
    (left : first.Plain names) (right : second.Plain more) :
    (first.and second).Plain (names ++ more) where
  titled := by
    rw [List.map_append, ← left.titled, ← right.titled]
    rfl
  byName := and_read_by_name left.byName right.byName
  once := and_read_once left.once right.once
  overlook context before after member apart := by
    apply and_overlook
    · exact left.overlook context before after member
        fun key inside => apart key (List.mem_append_left more inside)
    · exact right.overlook context before after member
        fun key inside => apart key (List.mem_append_right names inside)

theorem map_plain {fields : Fields α} {names : List String} (f : α → β)
    (plain : fields.Plain names) : (fields.map f).Plain names where
  titled := plain.titled
  byName := map_read_by_name f plain.byName
  once := map_read_once f plain.once
  overlook context before after member apart :=
    map_overlooks f (plain.overlook context before after member apart)

variable {fields : Fields α} {names : List String}

theorem keys_of_plain (plain : fields.Plain names) : fields.keys = names := by
  rw [keys, plain.titled, List.flatMap_map]
  exact List.flatMap_singleton' names

theorem names_of_plain (plain : fields.Plain names) : fields.names.map FieldName.name = names := by
  rw [plain.titled, List.map_map]
  exact List.map_id names

end Fields

namespace Decoder

open Members (Foreign Passable named under)

/-- An array and an object with the same values under the same names are read alike. The
members of the object may come in any order, with any foreign members among them; foreign
members change nothing at all, and no name may be there twice. -/
structure FormsAgree (decoder : Decoder α) (names : List String) : Prop where
  agree : ∀ (context : Context) (values : List Source) (foreign members : Members) (content : α),
    values.length = names.length → (∀ member ∈ foreign, Foreign names member) →
      members.Perm (named names values ++ foreign) →
        (decoder context (.array values none) = .ok content ↔
          decoder context (.object members none) = .ok content)
  inert : ∀ (context : Context) (before after : Members) (member : Head × Source)
    (fault : Option Fault), Foreign names member →
      decoder context (.object (before ++ member :: after) fault) =
        decoder context (.object (before ++ after) fault)
  once : ∀ (context : Context) (before between after : Members) (name : String)
    (first second : Source) (fault : Option Fault), name ∈ names →
      ∃ error, decoder context (.object (before ++ (.leaf (.string name), first) :: between ++
        (.leaf (.string name), second) :: after) fault) = .error error

/-- Leaving out a member with this key is the same as giving this value, where there is room. -/
def DefaultsTo (decoder : Decoder α) (key : String) (default : Source) (room : Nat) : Prop :=
  ∀ (context : Context) (before after : Members) (fault : Option Fault), room ≤ context.room →
    (∀ value, (.leaf (.string key), value) ∉ before ++ after) →
      decoder context (.object (before ++ (.leaf (.string key), default) :: after) fault) =
        decoder context (.object (before ++ after) fault)

variable {title : String} {fields : Fields α} {names : List String}

theorem record_agrees (plain : fields.Plain names) (distinct : names.Nodup) {context : Context}
    {values : List Source} {foreign members : Members} {content : α}
    (length : values.length = names.length) (foreigners : ∀ member ∈ foreign, Foreign names member)
    (perm : members.Perm (named names values ++ foreign)) :
    record title fields context (.array values none) = .ok content ↔
      record title fields context (.object members none) = .ok content := by
  obtain ⟨room, buffered⟩ := context
  cases room with
  | zero =>
      constructor
      · intro decoded
        cases decoded
      · intro decoded
        cases decoded
  | succ room =>
      have ending : arrayEnd ⟨room, buffered⟩ names.length values.length none = .ok () :=
        if_neg (by omega)
      have listed : (named names values).passOver names 0 = .ok () :=
        Members.pass_over_eq_ok (fun _ => Members.passable_of_named) 0
      have keyed : members.passOver names 0 = .ok () := by
        apply Members.pass_over_eq_ok
        intro member inside
        rcases List.mem_append.1 (perm.mem_iff.1 inside) with own | other
        · exact Members.passable_of_named own
        · exact Members.passable_of_foreign (foreigners member other)
      have same : ∀ field ∈ fields.names,
          under field.all (named names values) = under field.all members := by
        intro field inside
        rw [plain.titled] at inside
        obtain ⟨name, known, rfl⟩ := List.mem_map.1 inside
        exact (Members.under_of_perm distinct foreigners perm known).symm
      have read := plain.byName ⟨room, buffered⟩
        (fun name => .mismatch (.tooShort (names.idxOf name) title names.length)) missingField
        (named names values) members content same
      simp only [record, Context.enter, bind, Except.bind, Fields.names_of_plain plain]
      change readMembers fields _ _ (named names values) _ = _ ↔ _
      rw [read_members_eq_ok_iff, read_members_eq_ok_iff, Fields.keys_of_plain plain, listed, keyed,
        ending, read]
      exact Iff.rfl

theorem record_rejects_twice (plain : fields.Plain names) (context : Context)
    (before between after : Members) {name : String} (first second : Source) (fault : Option Fault)
    (known : name ∈ names) : ∃ error, record title fields context
      (.object (before ++ (.leaf (.string name), first) :: between ++
        (.leaf (.string name), second) :: after) fault) = .error error := by
  cases decoded : record title fields context (.object (before ++ (.leaf (.string name), first) ::
      between ++ (.leaf (.string name), second) :: after) fault) with
  | error error => exact ⟨error, rfl⟩
  | ok content =>
      obtain ⟨inner, missing, _, read⟩ := fields_of_record decoded
      have field : ⟨name, []⟩ ∈ fields.names := by
        rw [plain.titled]
        exact List.mem_map_of_mem known
      have once := plain.once inner missing _ content read _ field
      have own := List.mem_singleton_self name
      change (under [name] (_ ++ _)).length ≤ 1 at once
      rw [Members.under_append, Members.under_append, Members.under_cons_of_known own,
        Members.under_cons_of_known own] at once
      simp only [List.length_append, List.length_cons] at once
      omega

theorem record_forms_agree (plain : fields.Plain names) (distinct : names.Nodup) :
    (record title fields).FormsAgree names where
  agree _ _ _ _ _ length foreigners perm := record_agrees plain distinct length foreigners perm
  inert context before after member fault foreign := by
    apply record_overlooks
    · intro inner _
      exact plain.overlook inner before after member
        (Members.apart_of_foreign foreign fun _ => id)
    · rw [Fields.keys_of_plain plain]
      exact Members.passable_of_foreign foreign
  once context before between after name first second fault known :=
    record_rejects_twice plain context before between after first second fault known

end Decoder

end MeshRouting

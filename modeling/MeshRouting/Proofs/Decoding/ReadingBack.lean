import MeshRouting.Proofs.Decoding.Members

/-!
Reading back what was written. A decoder reads a JSON value back as the value it was
written for wherever there is room for it, whatever stands around it. Each way to put
decoders together keeps this, so that it is shown of a record by going through its fields.
-/

namespace MeshRouting

open Json (itemSources memberSources valuesOf)

namespace Decoder

/-- Where the JSON value has room, the decoder reads it as this value. -/
def ReadsBack (decoder : Decoder α) (json : Json) (value : α) : Prop :=
  ∀ context : Context, json.NestsWithin context.room → decoder context json.toSource = .ok value

theorem string_reads_back (text : String) : string.ReadsBack (.string text) text := by
  intro context _
  rfl

theorem boolean_reads_back (value : Bool) : boolean.ReadsBack (.bool value) value := by
  intro context _
  rfl

theorem word_reads_back (bits : Nat) {size number : Nat} (small : number < size)
    (fits : -0x8000000000000000 ≤ (number : Int) ∧ (number : Int) < 0x10000000000000000) :
    (word bits size).ReadsBack (.number (.integer number fits)) number := by
  intro context _
  have inRange : 0 ≤ (number : Int) ∧ (number : Int) < size := by omega
  rw [Json.toSource, word, if_pos inRange, Int.toNat_natCast]

theorem map_reads_back {decoder : Decoder α} {f : α → β} {json : Json} {value : α}
    (back : decoder.ReadsBack json value) : (map f decoder).ReadsBack json (f value) := by
  intro context nests
  apply Problem.map_eq_ok_iff.2
  exact ⟨value, back context nests, rfl⟩

theorem word32_reads_back (word : UInt32) : word32.ReadsBack (.number (.ofWord word)) word := by
  have back := map_reads_back (f := UInt32.ofNat) (word_reads_back 32 word.toNat_lt_size
    (by have := word.toNat_lt; omega))
  rwa [UInt32.ofNat_toNat] at back

theorem word16_reads_back (word : UInt16) : word16.ReadsBack (.number (.ofPort word)) word := by
  have back := map_reads_back (f := UInt16.ofNat) (word_reads_back 16 word.toNat_lt_size
    (by have := word.toNat_lt; omega))
  rwa [UInt16.ofNat_toNat] at back

theorem json_reads_back (value : Json) : json.ReadsBack value value := by
  intro context nests
  exact whole_to_source value context.room nests

/-- A free-form value is kept in canonical form, so nothing is changed by reading it again. -/
theorem free_form_reads_back (form : FreeForm) : freeForm.ReadsBack form.tree form := by
  intro context nests
  obtain ⟨tree, canonical⟩ := form
  apply Problem.map_eq_ok_iff.2
  refine ⟨tree, json_reads_back tree context nests, ?_⟩
  simp only [FreeForm.ofJson, canonical]

/-- Null means that there is no value, so no value may be written as null. -/
theorem optional_reads_back {decoder : Decoder α} {json : Json} {value : α}
    (present : json ≠ .null) (back : decoder.ReadsBack json value) :
    decoder.optional.ReadsBack json (some value) := by
  intro context nests
  unfold optional
  split
  case h_1 absent =>
    cases json <;> simp [Json.toSource] at absent
    exact absurd rfl present
  case h_2 => exact Problem.map_eq_ok_iff.2 ⟨value, back _ nests, rfl⟩

theorem items_read_back {decoder : Decoder α} {write : α → Json} {context : Context}
    {values : List α} (back : ∀ value ∈ values, decoder.ReadsBack (write value) value)
    (nest : Json.ItemsNestWithin context.room (values.map write)) :
    items decoder context (itemSources (values.map write)) = .ok values := by
  induction values with
  | nil => rfl
  | cons value rest induction =>
      rw [List.forall_mem_cons] at back
      have first := back.1 context nest.1
      have others := induction back.2 nest.2
      rw [List.map_cons, itemSources, items, first, others]
      rfl

theorem list_reads_back {decoder : Decoder α} {write : α → Json} {values : List α}
    (back : ∀ value ∈ values, decoder.ReadsBack (write value) value) :
    (list decoder).ReadsBack (.array (values.map write)) values := by
  intro context nest
  rcases context with ⟨room, buffered⟩
  cases room with
  | zero => exact nest.elim
  | succ room =>
      have read := @items_read_back _ decoder write ⟨room, buffered⟩ values back nest
      simp only [Json.toSource, list, Context.enter, read, endOf, bind, Except.bind]

/-- A choice reads what one alternative reads and those before it do not. -/
theorem choice_reads_back {title : String} (before : List (Decoder α)) {after : List (Decoder α)}
    {decoder : Decoder α} {json : Json} {value : α} (back : decoder.ReadsBack json value)
    (others : ∀ other ∈ before, ∀ context, ∃ error, other context json.toSource = .error error) :
    (choice title (before ++ decoder :: after)).ReadsBack json value := by
  intro context nests
  have read := back { context with buffered := true } nests
  have skipped : before.findSome? (fun alternative =>
      (alternative { context with buffered := true } json.toSource).toOption) = none := by
    rw [List.findSome?_eq_none_iff]
    intro other member
    obtain ⟨error, rejected⟩ := others other member { context with buffered := true }
    rw [rejected]
    rfl
  have fitting : (before ++ decoder :: after).findSome? (fun alternative =>
      (alternative { context with buffered := true } json.toSource).toOption) = some value := by
    rw [List.findSome?_append, skipped, List.findSome?_cons, read]
    rfl
  simp only [choice, Decoder.json, whole_to_source json context.room nests, bind, Except.bind, fitting]

end Decoder

namespace Fields

/-- Where the members have room, the fields read them as this value. -/
def ReadBack (fields : Fields α) (members : List (String × Json)) (value : α) : Prop :=
  ∀ (context : Context) (missing : String → DecodeError),
    Json.MembersNestWithin context.room members →
      fields.read context missing (memberSources members) = .ok value

variable {members : List (String × Json)}

theorem one_reads_back {field : FieldName} {decoder : Decoder α} {absent : Option α} {json : Json}
    {value : α} (single : valuesOf field.all members = [json])
    (back : decoder.ReadsBack json value) : (one field decoder absent).ReadBack members value := by
  intro context missing nest
  have nests := Json.value_nests nest single
  exact one_member_sources_iff.2 (.inr ⟨json, single, back context nests⟩)

theorem optional_reads_back {name : String} {decoder : Decoder α} (write : α → Json)
    {value : Option α} (own : valuesOf [name] members = (value.map write).toList)
    (present : ∀ content, value = some content → write content ≠ .null)
    (back : ∀ content, value = some content → decoder.ReadsBack (write content) content) :
    (optional name decoder).ReadBack members value := by
  cases value with
  | none =>
      intro context missing _
      exact one_member_sources_iff.2 (.inl ⟨own, rfl⟩)
  | some content =>
      exact one_reads_back own (Decoder.optional_reads_back (present content rfl) (back content rfl))

theorem and_reads_back {first : Fields α} {second : Fields β} {value : α} {other : β}
    (left : first.ReadBack members value) (right : second.ReadBack members other) :
    (first.and second).ReadBack members (value, other) := by
  intro context missing nest
  apply and_eq_ok_iff.2
  exact ⟨left context missing nest, right context missing nest⟩

theorem map_reads_back {fields : Fields α} {f : α → β} (value : α)
    (back : fields.ReadBack members value) : (fields.map f).ReadBack members (f value) := by
  intro context missing nest
  apply map_eq_ok_iff.2
  exact ⟨value, back context missing nest, rfl⟩

end Fields

namespace Decoder

theorem record_reads_back {title : String} {fields : Fields α} {members : List (String × Json)}
    {value : α} (back : fields.ReadBack members value) :
    (record title fields).ReadsBack (.object members) value := by
  intro context nest
  rcases context with ⟨room, buffered⟩
  cases room with
  | zero => exact nest.elim
  | succ room =>
      have read := back ⟨room, buffered⟩ missingField nest
      have passed := Members.pass_over_member_sources fields.keys 0 members
      simp only [Json.toSource, record, Context.enter, bind, Except.bind]
      apply read_members_eq_ok_iff.2
      exact ⟨read, passed, rfl⟩

end Decoder

end MeshRouting

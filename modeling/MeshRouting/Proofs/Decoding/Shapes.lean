import MeshRouting.Proofs.Decoding.Parts

/-!
Shapes of values. A decoder reads a shape exactly if, where there is room, it accepts the
values of the shape and no others, and reads them as the shape says. The ways to put
decoders together put shapes together, so that the grammar of a type follows its decoder;
what is around a value, and whether it was read before, plays no role in it.
-/

namespace MeshRouting

open Json (itemSources memberSources valuesOf)

namespace Json

def IsText (value : Json) (text : String) : Prop := value = .string text

def IsFlag (value : Json) (flag : Bool) : Prop := value = .bool flag

/-- An integer from nought to the greatest word. -/
def IsWord (value : Json) (word : UInt32) : Prop :=
  ∃ fits, value = .number (.integer word.toNat fits)

/-- An array of values that have the shape, one by one. -/
def IsList (shape : Json → α → Prop) (value : Json) (contents : List α) : Prop :=
  ∃ items, value = .array items ∧ List.Forall₂ shape items contents

/-- An object whose members have the shape. -/
def IsObject (shape : List (String × Json) → α → Prop) (value : Json) (content : α) : Prop :=
  ∃ members, value = .object members ∧ shape members content

theorem is_object_iff {shape : List (String × Json) → α → Prop} {members : List (String × Json)}
    {content : α} : (object members).IsObject shape content ↔ shape members content := by
  constructor
  · rintro ⟨_, same, fits⟩
    cases same
    exact fits
  · intro fits
    exact ⟨members, rfl, fits⟩

/-- There is one value, and it has the shape. -/
def Once (shape : Json → α → Prop) (values : List Json) (content : α) : Prop :=
  ∃ value, values = [value] ∧ shape value content

/-- There is one value or none, and null stands for none. -/
inductive AtMostOnce (shape : Json → α → Prop) : List Json → Option α → Prop
  | absent : AtMostOnce shape [] none
  | null : AtMostOnce shape [.null] none
  | present {value : Json} {content : α} (fits : shape value content) :
      AtMostOnce shape [value] (some content)

/-- The members that make up a record: those of an object, or the items of an array, each
under the name of the field in its place. The last fields may be left out of an array. -/
inductive RecordMembers (names : List String) : Json → List (String × Json) → Prop
  | object (members : List (String × Json)) : RecordMembers names (.object members) members
  | array {items : List Json} (fit : items.length ≤ names.length) :
      RecordMembers names (.array items) (names.zip items)

theorem item_sources_length (items : List Json) : (itemSources items).length = items.length := by
  induction items with
  | nil => rfl
  | cons item rest induction => rw [itemSources, List.length_cons, induction, List.length_cons]

/-- The items of an array under names are the members of an object with these names. -/
theorem zip_item_sources (names : List String) (items : List Json) :
    ((names.zip (itemSources items)).map fun (name, item) => (Head.leaf (.string name), item)) =
      memberSources (names.zip items) := by
  induction items generalizing names with
  | nil => simp [itemSources, memberSources]
  | cons item rest induction =>
      cases names with
      | nil => rfl
      | cons name others =>
          rw [itemSources, List.zip_cons_cons, List.map_cons, induction, List.zip_cons_cons,
            memberSources]

theorem zip_nests {room : Nat} (names : List String) {items : List Json}
    (nest : ItemsNestWithin room items) : MembersNestWithin room (names.zip items) := by
  rw [items_nest_iff] at nest
  rw [members_nest_iff]
  rintro ⟨name, item⟩ inside
  exact nest item (List.of_mem_zip inside).2

end Json

namespace Decoder

variable {shape other : Json → α → Prop}

/-- Where it has room, a value is accepted exactly if it has the shape. -/
def ReadsExactly (decoder : Decoder α) (shape : Json → α → Prop) : Prop :=
  ∀ (context : Context) (value : Json) (content : α), value.NestsWithin context.room →
    (decoder context value.toSource = .ok content ↔ shape value content)

theorem string_reads_exactly : string.ReadsExactly Json.IsText := by
  intro context value content _
  cases value <;> simp [Json.toSource, string, Json.IsText]

theorem boolean_reads_exactly : boolean.ReadsExactly Json.IsFlag := by
  intro context value content _
  cases value <;> simp [Json.toSource, boolean, Json.IsFlag]

theorem word_reads_exactly (bits size : Nat) : (word bits size).ReadsExactly fun value number =>
    number < size ∧ ∃ fits, value = .number (.integer number fits) := by
  intro context value number _
  cases value with
  | number literal =>
      cases literal with
      | float value => simp [Json.toSource, word]
      | integer value fits =>
          rw [Json.toSource, word]
          simp only [Json.number.injEq, Json.Number.integer.injEq]
          split_ifs with inRange
          · rw [Except.ok.injEq]
            constructor
            · rintro rfl
              exact ⟨by omega, by omega, by omega⟩
            · rintro ⟨_, _, same⟩
              omega
          · constructor
            · intro failed
              cases failed
            · rintro ⟨below, _, same⟩
              exact absurd ⟨by omega, by omega⟩ inRange
  | _ => simp [Json.toSource, word]

theorem reads_exactly_congr {decoder : Decoder α} (exact : decoder.ReadsExactly shape)
    (same : ∀ value content, shape value content ↔ other value content) :
    decoder.ReadsExactly other := by
  intro context value content nests
  rw [exact context value content nests, same]

theorem map_reads_exactly {decoder : Decoder α} (f : α → β) (exact : decoder.ReadsExactly shape) :
    (map f decoder).ReadsExactly
      fun value result => ∃ content, shape value content ∧ f content = result := by
  intro context value result nests
  unfold map
  rw [Problem.map_eq_ok_iff]
  simp only [exact context value _ nests]

theorem word32_reads_exactly : word32.ReadsExactly Json.IsWord := by
  apply reads_exactly_congr (map_reads_exactly UInt32.ofNat (word_reads_exactly 32 UInt32.size))
  intro value word
  constructor
  · rintro ⟨number, ⟨below, fits, rfl⟩, rfl⟩
    have same := UInt32.toNat_ofNat_of_lt' below
    rw [Json.IsWord, same]
    exact ⟨fits, rfl⟩
  · rintro ⟨fits, rfl⟩
    exact ⟨word.toNat, ⟨word.toNat_lt_size, fits, rfl⟩, UInt32.ofNat_toNat⟩

/-- Null never has the shape itself, so it can stand for nothing. -/
theorem optional_reads_exactly {decoder : Decoder α} (exact : decoder.ReadsExactly shape)
    (proper : ∀ content, ¬ shape .null content) :
    decoder.optional.ReadsExactly fun value => Json.AtMostOnce shape [value] := by
  intro context value content nests
  by_cases absent : value = .null
  · subst absent
    constructor
    · intro decoded
      cases decoded
      exact .null
    · intro fits
      cases fits with
      | null => rfl
      | present fits => exact absurd fits (proper _)
  · have present : decoder.optional context value.toSource =
        (decoder context value.toSource).map some := by
      cases value with
      | null => exact absurd rfl absent
      | _ => rfl
    rw [present, Problem.map_eq_ok_iff]
    simp only [exact context value _ nests]
    constructor
    · rintro ⟨content, fits, rfl⟩
      exact .present fits
    · intro fits
      cases fits with
      | null => exact absurd rfl absent
      | present fits => exact ⟨_, fits, rfl⟩

theorem items_read_exactly {decoder : Decoder α} (exact : decoder.ReadsExactly shape)
    {context : Context} {items : List Json} (nest : Json.ItemsNestWithin context.room items)
    {contents : List α} :
    List.Forall₂ (fun source content => decoder context source = .ok content) (itemSources items)
      contents ↔ List.Forall₂ shape items contents := by
  induction items generalizing contents with
  | nil => rw [itemSources, List.forall₂_nil_left_iff, List.forall₂_nil_left_iff]
  | cons item rest induction =>
      obtain ⟨first, others⟩ := nest
      simp only [itemSources, List.forall₂_cons_left_iff, exact context item _ first,
        induction others]

theorem list_reads_exactly {decoder : Decoder α} (exact : decoder.ReadsExactly shape) :
    (list decoder).ReadsExactly (Json.IsList shape) := by
  intro context value contents nests
  cases value with
  | array items =>
      obtain ⟨room, buffered⟩ := context
      cases room with
      | zero => exact nests.elim
      | succ room =>
          have each := @items_read_exactly _ _ _ exact ⟨room, buffered⟩ items nests contents
          rw [Json.toSource, list_eq_ok_iff]
          constructor
          · rintro ⟨⟨_, _⟩, sources, same, array, paired⟩
            cases same
            cases array
            exact ⟨items, rfl, each.1 paired⟩
          · rintro ⟨others, same, paired⟩
            cases same
            exact ⟨⟨room, buffered⟩, itemSources items, rfl, rfl, each.2 paired⟩
  | _ => simp [Json.toSource, list, Json.IsList]

/-- Of a value that was read whole a choice says nothing but whether an alternative fits. -/
theorem choice_to_source (title : String) (alternatives : List (Decoder α)) {context : Context}
    {value : Json} (nests : value.NestsWithin context.room) :
    choice title alternatives context value.toSource =
      match alternatives.findSome? fun alternative =>
        (alternative { context with buffered := true } value.toSource).toOption with
      | some result => .ok result
      | none => .error (.mismatch (.noAlternative title)) := by
  have read : json context value.toSource = .ok value := whole_to_source value context.room nests
  unfold choice
  rw [read]
  rfl

theorem choice_rejects {title : String} {alternatives : List (Decoder α)} {context : Context}
    {value : Json} (nests : value.NestsWithin context.room) {error : DecodeError}
    (failed : choice title alternatives context value.toSource = .error error) :
    error = .mismatch (.noAlternative title) := by
  rw [choice_to_source title alternatives nests] at failed
  split at failed
  case h_1 => cases failed
  case h_2 =>
    cases failed
    rfl

/-- Two alternatives that no value fits both put their shapes together. -/
theorem choice_reads_exactly (title : String) {first second : Decoder α}
    (left : first.ReadsExactly shape) (right : second.ReadsExactly other)
    (apart : ∀ value content another, shape value content → ¬ other value another) :
    (choice title [first, second]).ReadsExactly fun value content =>
      shape value content ∨ other value content := by
  intro context value content nests
  have fitsFirst := fun content => left { context with buffered := true } value content nests
  have fitsSecond := fun content => right { context with buffered := true } value content nests
  rw [choice_to_source title _ nests]
  simp only [List.findSome?_cons, List.findSome?_nil, ← fitsFirst, ← fitsSecond]
  cases one : first { context with buffered := true } value.toSource with
  | ok result =>
      have unfit : ¬ second { context with buffered := true } value.toSource = .ok content := by
        intro two
        exact apart value result content ((fitsFirst result).1 one) ((fitsSecond content).1 two)
      simp [Except.toOption, unfit]
  | error _ =>
      cases second { context with buffered := true } value.toSource <;> simp [Except.toOption]

end Decoder

namespace Fields

variable {shape : List (String × Json) → α → Prop}

/-- Where they have room, members are accepted exactly if they have the shape. -/
def ReadExactly (fields : Fields α) (shape : List (String × Json) → α → Prop) : Prop :=
  ∀ (context : Context) (missing : String → DecodeError) (members : List (String × Json))
    (content : α), Json.MembersNestWithin context.room members →
      (fields.read context missing (memberSources members) = .ok content ↔ shape members content)

theorem required_reads_exactly (field : FieldName) {decoder : Decoder α} {shape : Json → α → Prop}
    (exact : decoder.ReadsExactly shape) : (one field decoder none).ReadExactly
      fun members => Json.Once shape (valuesOf field.all members) := by
  intro context missing members content nest
  rw [one_member_sources_iff]
  constructor
  · rintro (⟨_, absent⟩ | ⟨value, single, decoded⟩)
    · cases absent
    · exact ⟨value, single, (exact context value content (Json.value_nests nest single)).1 decoded⟩
  · rintro ⟨value, single, fits⟩
    exact .inr ⟨value, single, (exact context value content (Json.value_nests nest single)).2 fits⟩

theorem optional_reads_exactly (name : String) {decoder : Decoder α} {shape : Json → α → Prop}
    (exact : decoder.ReadsExactly shape) (proper : ∀ content, ¬ shape .null content) :
    (optional name decoder).ReadExactly
      fun members => Json.AtMostOnce shape (valuesOf [name] members) := by
  intro context missing members content nest
  have read := Decoder.optional_reads_exactly exact proper
  unfold optional
  rw [one_member_sources_iff]
  constructor
  · rintro (⟨none, absent⟩ | ⟨value, single, decoded⟩)
    · cases absent
      rw [show valuesOf [name] members = [] from none]
      exact .absent
    · rw [show valuesOf [name] members = [value] from single]
      exact (read context value content (Json.value_nests nest single)).1 decoded
  · intro fits
    change Json.AtMostOnce shape (valuesOf [name] members) content at fits
    generalize own : valuesOf [name] members = values at fits
    cases fits with
    | absent => exact .inl ⟨own, rfl⟩
    | null => exact .inr ⟨.null, own, (read context .null none trivial).2 .null⟩
    | @present value content fits =>
        have nests := Json.value_nests nest own
        exact .inr ⟨value, own, (read context value _ nests).2 (.present fits)⟩

theorem and_reads_exactly {first : Fields α} {second : Fields β}
    {other : List (String × Json) → β → Prop} (left : first.ReadExactly shape)
    (right : second.ReadExactly other) : (first.and second).ReadExactly
      fun members content => shape members content.1 ∧ other members content.2 := by
  rintro context missing members ⟨content, another⟩ nest
  rw [and_eq_ok_iff, left context missing members content nest,
    right context missing members another nest]

theorem read_exactly_congr {fields : Fields α} {other : List (String × Json) → α → Prop}
    (exact : fields.ReadExactly shape)
    (same : ∀ members content, shape members content ↔ other members content) :
    fields.ReadExactly other := by
  intro context missing members content nest
  rw [exact context missing members content nest, same]

theorem map_reads_exactly {fields : Fields α} (f : α → β) (exact : fields.ReadExactly shape) :
    (fields.map f).ReadExactly
      fun members result => ∃ content, shape members content ∧ f content = result := by
  intro context missing members result nest
  rw [map_eq_ok_iff]
  simp only [exact context missing members _ nest]

end Fields

namespace Decoder

/-- A record is read from an object or from an array that stands for it. -/
theorem record_reads_exactly (title : String) {fields : Fields α}
    {shape : List (String × Json) → α → Prop} (exact : fields.ReadExactly shape) :
    (record title fields).ReadsExactly fun value content =>
      ∃ members, Json.RecordMembers (fields.names.map FieldName.name) value members ∧
        shape members content := by
  intro context value content nests
  obtain ⟨room, buffered⟩ := context
  cases value with
  | object members =>
      cases room with
      | zero => exact nests.elim
      | succ room =>
          have read := exact ⟨room, buffered⟩ missingField members content nests
          simp only [Json.toSource, record, Context.enter, bind, Except.bind]
          rw [read_members_eq_ok_iff, read, Members.pass_over_member_sources]
          constructor
          · rintro ⟨fits, _, _⟩
            exact ⟨members, .object members, fits⟩
          · rintro ⟨_, ⟨⟩, fits⟩
            exact ⟨fits, rfl, rfl⟩
  | array items =>
      cases room with
      | zero => exact nests.elim
      | succ room =>
          simp only [Json.toSource, record, Context.enter, bind, Except.bind]
          rw [read_members_eq_ok_iff, Json.zip_item_sources, Members.pass_over_member_sources,
            exact ⟨room, buffered⟩ _ _ content (Json.zip_nests _ nests)]
          unfold arrayEnd
          rw [Json.item_sources_length]
          constructor
          · rintro ⟨fits, _, ending⟩
            split_ifs at ending with long
            exact ⟨_, .array (Nat.le_of_not_lt long), fits⟩
          · rintro ⟨_, listed, fits⟩
            cases listed with
            | array fit => exact ⟨fits, rfl, if_neg (Nat.not_lt_of_le fit)⟩
  | _ =>
      constructor
      · intro decoded
        cases decoded
      · rintro ⟨_, ⟨⟩, _⟩

theorem object_reads_exactly (title : String)
    {read : Context → Members → Except DecodeError Unit → Except DecodeError α}
    {shape : List (String × Json) → α → Prop}
    (exact : ∀ (context : Context) (members : List (String × Json)) (content : α),
      Json.MembersNestWithin context.room members →
        (read context (memberSources members) (.ok ()) = .ok content ↔ shape members content)) :
    (object title read).ReadsExactly (Json.IsObject shape) := by
  intro context value content nests
  obtain ⟨room, buffered⟩ := context
  cases value with
  | object members =>
      cases room with
      | zero => exact nests.elim
      | succ room =>
          simp only [Json.toSource, object, Context.enter, endOf, bind, Except.bind]
          rw [exact ⟨room, buffered⟩ members content nests, Json.is_object_iff]
  | _ =>
      constructor
      · intro decoded
        cases decoded
      · rintro ⟨_, same, _⟩
        cases same

theorem source_of_json_run {text : String} {value : Json} (read : json.run text = .ok value) :
    (Json.Document.ofText text).root = value.toSource ∧
      (Json.Document.ofText text).trailing = false ∧ value.NestsWithin 127 := by
  obtain ⟨root, trailing⟩ := run_eq_ok_iff.1 read
  obtain ⟨same, nests⟩ := eq_to_source_of_whole _ _ _ root
  exact ⟨same, trailing, nests⟩

/-- On the text of a JSON value a decoder says what it says of the value. -/
theorem run_of_json_run (decoder : Decoder α) {text : String} {value : Json}
    (read : json.run text = .ok value) : decoder.run text = decoder .start value.toSource := by
  obtain ⟨root, trailing, _⟩ := source_of_json_run read
  simp only [run, root, trailing]
  cases decoder .start value.toSource <;> rfl

theorem run_eq_ok_iff_of_json_run {decoder : Decoder α} {shape : Json → α → Prop}
    (exact : decoder.ReadsExactly shape) {text : String} {value : Json}
    (read : json.run text = .ok value) {content : α} :
    decoder.run text = .ok content ↔ shape value content := by
  obtain ⟨_, _, nests⟩ := source_of_json_run read
  rw [run_of_json_run decoder read]
  exact exact .start value content nests

theorem run_eq_ok_iff_of_exact {decoder : Decoder α} {shape : Json → α → Prop}
    (exact : decoder.ReadsExactly shape) (whole : decoder.ReadsWhole) {text : String}
    {content : α} :
    decoder.run text = .ok content ↔ ∃ value, json.run text = .ok value ∧ shape value content := by
  constructor
  · intro decoded
    obtain ⟨root, trailing⟩ := run_eq_ok_iff.1 decoded
    obtain ⟨value, same, nests⟩ := whole _ _ _ root
    rw [same] at root
    refine ⟨value, run_eq_ok_iff.2 ⟨?_, trailing⟩, (exact .start value content nests).1 root⟩
    rw [same]
    exact whole_to_source value 127 nests
  · rintro ⟨value, read, fits⟩
    exact (run_eq_ok_iff_of_json_run exact read).2 fits

end Decoder

end MeshRouting

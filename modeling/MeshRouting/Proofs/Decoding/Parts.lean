import MeshRouting.Proofs.Decoding.Wholeness
import Mathlib.Data.List.Forall2

/-!
What a decoder that succeeds has read its value from: of a list the items one by one, of a
record the values under the names of its fields, of a variant the name, of a choice the
alternative that fits. Arrays that stand for records are looked at like objects.
-/

namespace MeshRouting

open Json (Head Source)

namespace Json.Source

/-- The members that the fields of a record are read from: those of an object, or the
items of an array under the names of the fields. -/
def recordMembers (names : List String) : Source → Members
  | .object members _ => members
  | .array items _ => (names.zip items).map fun (name, item) => (.leaf (.string name), item)
  | .leaf _ => []

/-- What a record with these fields has under a name. -/
def under (source : Source) (names : List String) (name : String) : List Source :=
  ((source.recordMembers names).having [name] 0).map (·.2)

/-- A name alone, or as the only key of an object, with null as the value. -/
inductive Names : Source → String → Prop
  | alone (name : String) : Names (.leaf (.string name)) name
  | key (name : String) : Names (.object [(.leaf (.string name), .leaf .null)] none) name

end Json.Source

namespace Fields

/-- A field takes the one value under its name, or is left out where it may be. -/
theorem value_of_one {name : String} {decoder : Decoder α} {absent : Option α} {context : Context}
    {missing : String → DecodeError} {source : Source} {names : List String} {value : α}
    (read : (one ⟨name, []⟩ decoder absent).read context missing (source.recordMembers names) =
      .ok value) :
    (source.under names name = [] ∧ absent = some value) ∨
      ∃ part, source.under names name = [part] ∧ decoder context part = .ok value := by
  rcases one_eq_ok_iff.1 read with ⟨none, default⟩ | ⟨place, part, single, decoded⟩
  · exact .inl ⟨List.map_eq_nil_iff.2 none, default⟩
  · exact .inr ⟨part, congrArg (List.map Prod.snd) single, decoded⟩

theorem value_of_required {name : String} {decoder : Decoder α} {context : Context}
    {missing : String → DecodeError} {source : Source} {names : List String} {value : α}
    (read : (required name decoder).read context missing (source.recordMembers names) =
      .ok value) :
    ∃ part, source.under names name = [part] ∧ decoder context part = .ok value := by
  rcases value_of_one read with ⟨_, absent⟩ | found
  · cases absent
  · exact found

end Fields

namespace Decoder

variable {context : Context} {source : Source}

theorem items_eq_ok_iff {decoder : Decoder α} {sources : List Source} {values : List α} :
    items decoder context sources = .ok values ↔
      List.Forall₂ (fun source value => decoder context source = .ok value) sources values := by
  induction sources generalizing values with
  | nil =>
      rw [List.forall₂_nil_left_iff, items, Except.ok.injEq]
      exact eq_comm
  | cons source rest induction =>
      rw [List.forall₂_cons_left_iff, items, Problem.bind_eq_ok_iff]
      simp only [Problem.bind_eq_ok_iff, induction, Except.ok.injEq]
      constructor
      · rintro ⟨value, first, others, left, rfl⟩
        exact ⟨value, others, first, left, rfl⟩
      · rintro ⟨value, others, first, left, rfl⟩
        exact ⟨value, first, others, left, rfl⟩

/-- The items of an array are read in order, one level below its bracket. -/
theorem list_eq_ok_iff {decoder : Decoder α} {values : List α} :
    list decoder context source = .ok values ↔
      ∃ inner sources, context = ⟨inner.room + 1, inner.buffered⟩ ∧
        source = .array sources none ∧
        List.Forall₂ (fun source value => decoder inner source = .ok value) sources values := by
  constructor
  · intro decoded
    unfold list at decoded
    split at decoded
    case h_1 sources fault =>
      obtain ⟨inner, entered, decoded⟩ := Problem.bind_eq_ok_iff.1 decoded
      obtain ⟨result, read, decoded⟩ := Problem.bind_eq_ok_iff.1 decoded
      obtain ⟨_, ending, same⟩ := Problem.bind_eq_ok_iff.1 decoded
      cases same
      rw [end_of_eq_ok_iff.1 ending]
      exact ⟨inner, sources, Context.enter_eq_ok_iff.1 entered, rfl, items_eq_ok_iff.1 read⟩
    case h_2 => cases decoded
  · rintro ⟨inner, sources, room, rfl, paired⟩
    apply Problem.bind_eq_ok_iff.2
    refine ⟨inner, Context.enter_eq_ok_iff.2 room, ?_⟩
    rw [items_eq_ok_iff.2 paired]
    rfl

/-- Of values that were read one by one each has a source that it was read from. -/
theorem source_of_paired {reads : Source → α → Prop} {sources : List Source} {values : List α}
    (paired : List.Forall₂ reads sources values) : ∀ value ∈ values, ∃ source, reads source value := by
  induction paired with
  | nil => simp
  | cons first _ induction =>
      rw [List.forall_mem_cons]
      exact ⟨⟨_, first⟩, induction⟩

/-- A record is read one level below its bracket, whether it is an object or an array. -/
theorem fields_of_record {title : String} {fields : Fields α} {value : α}
    (decoded : record title fields context source = .ok value) :
    ∃ inner missing, context = ⟨inner.room + 1, inner.buffered⟩ ∧
      fields.read inner missing (source.recordMembers (fields.names.map FieldName.name)) =
        .ok value := by
  unfold record at decoded
  split at decoded
  case h_1 =>
    obtain ⟨inner, entered, read⟩ := Problem.bind_eq_ok_iff.1 decoded
    exact ⟨inner, _, Context.enter_eq_ok_iff.1 entered, (read_members_eq_ok_iff.1 read).1⟩
  case h_2 =>
    obtain ⟨inner, entered, read⟩ := Problem.bind_eq_ok_iff.1 decoded
    exact ⟨inner, _, Context.enter_eq_ok_iff.1 entered, (read_members_eq_ok_iff.1 read).1⟩
  case h_3 => cases decoded

/-- The value is read whole, and one of the alternatives reads it again. -/
theorem alternative_of_choice {title : String} {alternatives : List (Decoder α)} {value : α}
    (decoded : choice title alternatives context source = .ok value) :
    ∃ tree : Json, source = tree.toSource ∧ ∃ alternative ∈ alternatives,
      alternative { context with buffered := true } tree.toSource = .ok value := by
  obtain ⟨tree, whole, chosen⟩ := Problem.bind_eq_ok_iff.1 decoded
  refine ⟨tree, (eq_to_source_of_whole _ _ _ whole).1, ?_⟩
  simp only at chosen
  split at chosen
  case h_1 result fitting =>
    cases chosen
    obtain ⟨alternative, member, fits⟩ := List.exists_of_findSome?_eq_some fitting
    refine ⟨alternative, member, ?_⟩
    cases read : alternative { context with buffered := true } tree.toSource with
    | error error => simp [read, Except.toOption] at fits
    | ok result =>
        simp only [read, Except.toOption, Option.some.injEq] at fits
        rw [fits]
  case h_2 => cases chosen

theorem lookup_of_variant_named {known : List (String × α)} {name : String} {value : α}
    (decoded : variantNamed known name = .ok value) : known.lookup name = some value := by
  unfold variantNamed at decoded
  cases found : known.lookup name with
  | none => simp [found] at decoded
  | some result =>
      rw [found] at decoded
      cases decoded
      rfl

theorem null_of_unit (decoded : unit context source = .ok ()) : source = .leaf .null := by
  unfold unit at decoded
  split at decoded
  case h_1 => rfl
  case h_2 => cases decoded

/-- A variant is known by a name, in one of two forms. -/
theorem name_of_variant {known : List (String × α)} {value : α}
    (decoded : variant known context source = .ok value) :
    ∃ name, source.Names name ∧ known.lookup name = some value := by
  unfold variant at decoded
  split at decoded
  case h_1 name => exact ⟨name, .alone name, lookup_of_variant_named decoded⟩
  case h_2 members fault =>
    obtain ⟨inner, _, decoded⟩ := Problem.bind_eq_ok_iff.1 decoded
    split at decoded
    case h_1 =>
      obtain ⟨_, _, decoded⟩ := Problem.bind_eq_ok_iff.1 decoded
      cases decoded
    case h_2 name content others same =>
      obtain ⟨result, named, decoded⟩ := Problem.bind_eq_ok_iff.1 decoded
      obtain ⟨_, empty, decoded⟩ := Problem.bind_eq_ok_iff.1 decoded
      split at decoded
      case isTrue alone =>
        obtain ⟨_, ending, same⟩ := Problem.bind_eq_ok_iff.1 decoded
        cases same
        rw [List.isEmpty_iff.1 alone, null_of_unit empty, end_of_eq_ok_iff.1 ending]
        exact ⟨name, .key name, lookup_of_variant_named named⟩
      case isFalse => cases decoded
    case h_3 => cases decoded
  case h_3 => cases decoded

/-- Null is read as nothing, and any other value as its canonical form. -/
theorem free_form_of_optional {value : Option FreeForm}
    (decoded : freeForm.optional context source = .ok value) :
    (source = .leaf .null ∧ value = none) ∨
      ∃ json : Json, json ≠ .null ∧ source = json.toSource ∧ value = some (.ofJson json) := by
  unfold optional at decoded
  split at decoded
  case h_1 =>
    cases decoded
    exact .inl ⟨rfl, rfl⟩
  case h_2 present =>
    obtain ⟨form, read, rfl⟩ := Problem.map_eq_ok_iff.1 decoded
    obtain ⟨json, whole, rfl⟩ := Problem.map_eq_ok_iff.1 read
    obtain ⟨rfl, _⟩ := eq_to_source_of_whole _ _ _ whole
    refine .inr ⟨json, ?_, rfl, rfl⟩
    rintro rfl
    exact present rfl

end Decoder

end MeshRouting

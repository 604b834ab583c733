import MeshRouting.Proofs.Decoding.Members
import Mathlib.Tactic.SplitIfs

/-!
Decoders that look at everything. A decoder of this kind accepts nothing but the tree of a
flawless text; and if all fields of a record are of this kind and the record keeps the
members that are not its own, then the members it accepts are those of a JSON value.
-/

namespace MeshRouting

open Json (Head Leaf Source memberSources)

namespace Context

theorem enter_eq_ok_iff {context inner : Context} :
    context.enter = .ok inner ↔ context = ⟨inner.room + 1, inner.buffered⟩ := by
  rcases context with ⟨room, buffered⟩
  rcases inner with ⟨innerRoom, innerBuffered⟩
  cases room with
  | zero => simp [enter]
  | succ room => simp [enter]

end Context

namespace Decoder

theorem run_eq_ok_iff {decoder : Decoder α} {text : String} {value : α} :
    decoder.run text = .ok value ↔
      decoder .start (Json.Document.ofText text).root = .ok value ∧
        (Json.Document.ofText text).trailing = false := by
  unfold run
  simp only
  cases decoder .start (Json.Document.ofText text).root with
  | error error => simp [bind, Except.bind]
  | ok result => cases (Json.Document.ofText text).trailing <;> simp [bind, Except.bind]

/-- What the decoder accepts is the tree of a flawless text that fits the room. -/
def ReadsWhole (decoder : Decoder α) : Prop :=
  ∀ (context : Context) (source : Source) (value : α), decoder context source = .ok value →
    ∃ json : Json, source = json.toSource ∧ json.NestsWithin context.room

theorem reads_whole_json : ReadsWhole json := by
  intro context source value decoded
  exact ⟨value, eq_to_source_of_whole source context.room value decoded⟩

theorem reads_whole_string : ReadsWhole string := by
  intro context source value decoded
  unfold string at decoded
  split at decoded
  case h_1 text => exact ⟨.string text, rfl, trivial⟩
  case h_2 => cases decoded

theorem reads_whole_word (bits size : Nat) : ReadsWhole (word bits size) := by
  intro context source value decoded
  unfold word at decoded
  split at decoded
  case h_1 number fits => exact ⟨.number (.integer number fits), rfl, trivial⟩
  case h_2 => cases decoded

theorem reads_whole_map (f : α → β) {decoder : Decoder α} (whole : ReadsWhole decoder) :
    ReadsWhole (map f decoder) := by
  intro context source value decoded
  rcases Problem.map_eq_ok_iff.1 decoded with ⟨result, read, _⟩
  exact whole context source result read

/-- The value is read whole before any of the alternatives is tried. -/
theorem reads_whole_choice (title : String) (alternatives : List (Decoder α)) :
    ReadsWhole (choice title alternatives) := by
  intro context source value decoded
  rcases Problem.bind_eq_ok_iff.1 decoded with ⟨tree, read, _⟩
  exact reads_whole_json context source tree read

end Decoder

namespace Members

theorem mem_having {keys : List String} {key : String} (known : key ∈ keys) {source : Source}
    (start : Nat) {members : Members} (member : (.leaf (.string key), source) ∈ members) :
    ∃ place, (place, source) ∈ members.having keys start := by
  induction members generalizing start with
  | nil => simp at member
  | cons first rest induction =>
      rcases List.mem_cons.1 member with rfl | later
      · exact ⟨start, by simp [having, known]⟩
      · rcases induction (start + 1) later with ⟨place, found⟩
        refine ⟨place, ?_⟩
        unfold having
        split
        case h_1 => contradiction
        case h_2 same =>
          cases same
          split_ifs
          · exact List.mem_cons_of_mem _ found
          · exact found
        case h_3 same =>
          cases same
          exact found

end Members

namespace Fields

/-- Every member of one of the fields is the tree of a flawless text that fits the room. -/
def ReadWhole (fields : Fields α) : Prop :=
  ∀ (context : Context) (missing : String → DecodeError) (members : Members) (value : α),
    fields.read context missing members = .ok value →
      ∀ key source, (.leaf (.string key), source) ∈ members → key ∈ fields.keys →
        ∃ json : Json, source = json.toSource ∧ json.NestsWithin context.room

theorem keys_one (field : FieldName) (decoder : Decoder α) (absent : Option α) :
    (one field decoder absent).keys = field.all := by
  simp [keys, one]

theorem keys_and (first : Fields α) (second : Fields β) :
    (first.and second).keys = first.keys ++ second.keys := by
  simp [keys, and]

theorem read_whole_one (field : FieldName) {decoder : Decoder α} (absent : Option α)
    (whole : decoder.ReadsWhole) : (one field decoder absent).ReadWhole := by
  intro context missing members value read key source member known
  rw [keys_one] at known
  rcases Members.mem_having known 0 member with ⟨place, own⟩
  rcases one_eq_ok_iff.1 read with ⟨none, _⟩ | ⟨other, single, entries, decoded⟩
  · rw [none] at own
    cases own
  · rw [entries, List.mem_singleton] at own
    cases own
    exact whole context source value decoded

theorem read_whole_and {first : Fields α} {second : Fields β} (left : first.ReadWhole)
    (right : second.ReadWhole) : (first.and second).ReadWhole := by
  intro context missing members values read key source member known
  rcases values with ⟨value, other⟩
  rcases and_eq_ok_iff.1 read with ⟨readFirst, readSecond⟩
  rw [keys_and, List.mem_append] at known
  rcases known with ofFirst | ofSecond
  · exact left context missing members value readFirst key source member ofFirst
  · exact right context missing members other readSecond key source member ofSecond

end Fields

namespace Members

/-- Members that are kept or are known to be whole are all members of a JSON value. -/
theorem eq_member_sources_of_keep {context : Context} {keys : List String} {start : Nat}
    {members : Members} {others : List (String × Json)}
    (kept : members.keep context keys start = .ok others)
    (own : ∀ key source, (.leaf (.string key), source) ∈ members → key ∈ keys →
      ∃ json : Json, source = json.toSource ∧ json.NestsWithin context.room) :
    ∃ values, members = memberSources values ∧ Json.MembersNestWithin context.room values ∧
      others = Json.without keys values := by
  induction members generalizing start others with
  | nil =>
      cases kept
      exact ⟨[], rfl, trivial, rfl⟩
  | cons member rest induction =>
      have ownRest : ∀ key source, (.leaf (.string key), source) ∈ rest → key ∈ keys →
          ∃ json : Json, source = json.toSource ∧ json.NestsWithin context.room :=
        fun key source later => own key source (List.mem_cons_of_mem _ later)
      unfold keep at kept
      split at kept
      case h_1 => contradiction
      case h_2 key source others same =>
        cases same
        split at kept
        case isTrue known =>
          rcases own key source (List.mem_cons_self ..) known with ⟨json, tree, nests⟩
          rcases induction kept ownRest with ⟨values, sources, nestRest, kept⟩
          refine ⟨(key, json) :: values, ?_, ⟨nests, nestRest⟩, ?_⟩
          · rw [memberSources, tree, sources]
          · simp [Json.without, known, kept]
        case isFalse unknown =>
          rcases Problem.bind_eq_ok_iff.1 kept with ⟨json, read, kept⟩
          rcases Problem.bind_eq_ok_iff.1 kept with ⟨left, others, same⟩
          cases same
          have whole := Problem.within_eq_ok_iff.1 read
          rcases Decoder.eq_to_source_of_whole _ _ _ whole with ⟨tree, nests⟩
          rcases induction others ownRest with ⟨values, sources, nestRest, keptRest⟩
          refine ⟨(key, json) :: values, ?_, ⟨nests, nestRest⟩, ?_⟩
          · rw [memberSources, tree, sources]
          · rw [keptRest]
            simp [Json.without, unknown]
      case h_3 => cases kept

end Members

end MeshRouting

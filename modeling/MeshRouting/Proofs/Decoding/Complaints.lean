import MeshRouting.Proofs.Decoding.Shapes

/-!
Complaints about values that were read whole. Nothing in such a value can be faulty, so a
decoder that rejects it complains about its shape. This is asked of values that were read
before, because an array with too many items is a fault where it is met for the first time.
-/

namespace MeshRouting

open Json (itemSources memberSources)

namespace DecodeError

/-- The error is about the shape of a value, and not a fault of its text. -/
def IsMismatch (error : DecodeError) : Prop := ∃ mismatch, error = .mismatch mismatch

end DecodeError

theorem complaint_is_mismatch (expected : Expected) (value : Json) :
    (complaint expected value.toSource.head).IsMismatch := by
  cases value <;> exact ⟨_, rfl⟩

namespace Problem

theorem error_of_map {result : Except ε α} {f : α → β} {error : ε}
    (failed : result.map f = .error error) : result = .error error := by
  cases result with
  | ok value => cases failed
  | error own =>
      cases failed
      rfl

theorem error_of_bind {result : Except ε α} {next : α → Except ε β} {error : ε}
    (failed : (result >>= next) = .error error) :
    result = .error error ∨ ∃ value, result = .ok value ∧ next value = .error error := by
  cases result with
  | ok value => exact .inr ⟨value, rfl, failed⟩
  | error own =>
      cases failed
      exact .inl rfl

theorem error_of_both {left : Except Problem α} {right : Except Problem β} {problem : Problem}
    (failed : both left right = .error problem) : left = .error problem ∨ right = .error problem := by
  cases left with
  | ok value =>
      cases right with
      | ok other => cases failed
      | error other =>
          cases failed
          exact .inr rfl
  | error own =>
      cases right with
      | ok other =>
          cases failed
          exact .inl rfl
      | error other =>
          simp only [both, Except.error.injEq] at failed
          split at failed
          · exact .inr (congrArg Except.error failed)
          · exact .inl (congrArg Except.error failed)

theorem error_of_within {place : Nat} {result : Except DecodeError α} {problem : Problem}
    (failed : within place result = .error problem) : result = .error problem.error := by
  cases result with
  | ok value => cases failed
  | error error =>
      cases failed
      rfl

end Problem

namespace Decoder

/-- A value that was read whole and has room is rejected for its shape only. -/
def MindsShape (decoder : Decoder α) : Prop :=
  ∀ (room : Nat) (value : Json) (error : DecodeError), value.NestsWithin room →
    decoder ⟨room, true⟩ value.toSource = .error error → error.IsMismatch

theorem string_minds_shape : string.MindsShape := by
  intro room value error _ failed
  unfold string at failed
  split at failed
  case h_1 => cases failed
  case h_2 =>
    cases failed
    exact complaint_is_mismatch _ value

theorem boolean_minds_shape : boolean.MindsShape := by
  intro room value error _ failed
  unfold boolean at failed
  split at failed
  case h_1 => cases failed
  case h_2 =>
    cases failed
    exact complaint_is_mismatch _ value

theorem word_minds_shape (bits size : Nat) : (word bits size).MindsShape := by
  intro room value error _ failed
  unfold word at failed
  split at failed
  case h_1 =>
    split at failed
    · cases failed
    · cases failed
      exact ⟨_, rfl⟩
  case h_2 =>
    cases failed
    exact complaint_is_mismatch _ value

theorem map_minds_shape {decoder : Decoder α} (f : α → β) (minds : decoder.MindsShape) :
    (map f decoder).MindsShape := by
  intro room value error nests failed
  exact minds room value error nests (Problem.error_of_map failed)

theorem word32_minds_shape : word32.MindsShape := map_minds_shape _ (word_minds_shape _ _)

theorem optional_minds_shape {decoder : Decoder α} (minds : decoder.MindsShape) :
    decoder.optional.MindsShape := by
  intro room value error nests failed
  unfold optional at failed
  split at failed
  case h_1 => cases failed
  case h_2 => exact minds room value error nests (Problem.error_of_map failed)

theorem choice_minds_shape (title : String) (alternatives : List (Decoder α)) :
    (choice title alternatives).MindsShape := by
  intro room value error nests failed
  exact ⟨_, choice_rejects nests failed⟩

theorem items_mind_shape {decoder : Decoder α} (minds : decoder.MindsShape) {room : Nat}
    {values : List Json} (nest : Json.ItemsNestWithin room values) {error : DecodeError}
    (failed : items decoder ⟨room, true⟩ (itemSources values) = .error error) :
    error.IsMismatch := by
  induction values with
  | nil => cases failed
  | cons value rest induction =>
      rw [itemSources, items] at failed
      rcases Problem.error_of_bind failed with first | ⟨_, _, failed⟩
      · exact minds room value error nest.1 first
      · rcases Problem.error_of_bind failed with others | ⟨_, _, success⟩
        · exact induction nest.2 others
        · cases success

theorem list_minds_shape {decoder : Decoder α} (minds : decoder.MindsShape) :
    (list decoder).MindsShape := by
  intro room value error nests failed
  cases value with
  | array values =>
      cases room with
      | zero => exact nests.elim
      | succ room =>
          rw [Json.toSource, list] at failed
          rcases Problem.error_of_bind failed with entered | ⟨inner, entered, failed⟩
          · cases entered
          · cases entered
            rcases Problem.error_of_bind failed with first | ⟨_, _, success⟩
            · exact items_mind_shape minds nests first
            · cases success
  | _ =>
      cases failed
      exact complaint_is_mismatch .sequence _

end Decoder

namespace Members

/-- Under every key of a JSON value there is a JSON value. -/
theorem value_of_entry {keys : List String} {start room : Nat} {members : List (String × Json)}
    (nest : Json.MembersNestWithin room members) {entry : Nat × Json.Source}
    (own : entry ∈ having keys start (memberSources members)) :
    ∃ value : Json, entry.2 = value.toSource ∧ value.NestsWithin room := by
  have tree : entry.2 ∈ (Json.valuesOf keys members).map Json.toSource := by
    rw [← having_member_sources keys start members]
    exact List.mem_map_of_mem own
  obtain ⟨value, inside, same⟩ := List.mem_map.1 tree
  obtain ⟨member, found, rfl⟩ := List.mem_map.1 inside
  exact ⟨member.2, same.symm, Json.members_nest_iff.1 nest member (List.mem_filter.1 found).1⟩

end Members

namespace Fields

/-- Members that were read whole and have room are rejected for their shape only. -/
def MindShape (fields : Fields α) : Prop :=
  ∀ (room : Nat) (missing : String → DecodeError) (members : List (String × Json))
    (problem : Problem), (∀ name, (missing name).IsMismatch) →
      Json.MembersNestWithin room members →
        fields.read ⟨room, true⟩ missing (memberSources members) = .error problem →
          problem.error.IsMismatch

theorem one_minds_shape (field : FieldName) {decoder : Decoder α} (absent : Option α)
    (minds : decoder.MindsShape) : (one field decoder absent).MindShape := by
  intro room missing members problem shape nest failed
  simp only [one] at failed
  split at failed
  case h_1 =>
    split at failed
    · cases failed
    · cases failed
      exact shape field.name
  case h_2 place source again entries =>
    rcases Problem.error_of_bind failed with first | ⟨_, _, failed⟩
    · have decoded := Problem.error_of_within first
      have own : (place, source) ∈ Members.having field.all 0 (memberSources members) := by
        simp [entries]
      obtain ⟨value, same, nests⟩ := Members.value_of_entry nest own
      change source = value.toSource at same
      rw [same] at decoded
      exact minds room value _ nests decoded
    · split at failed
      · cases failed
      · cases failed
        exact ⟨_, rfl⟩

theorem and_mind_shape {first : Fields α} {second : Fields β} (left : first.MindShape)
    (right : second.MindShape) : (first.and second).MindShape := by
  intro room missing members problem shape nest failed
  rcases Problem.error_of_both failed with ofFirst | ofSecond
  · exact left room missing members problem shape nest ofFirst
  · exact right room missing members problem shape nest ofSecond

theorem map_minds_shape {fields : Fields α} (f : α → β) (minds : fields.MindShape) :
    (fields.map f).MindShape := by
  intro room missing members problem shape nest failed
  exact minds room missing members problem shape nest (Problem.error_of_map failed)

end Fields

namespace Decoder

theorem read_members_mind_shape {fields : Fields α} (minds : fields.MindShape) {room : Nat}
    {missing : String → DecodeError} (shape : ∀ name, (missing name).IsMismatch)
    {members : List (String × Json)} (nest : Json.MembersNestWithin room members)
    {ending : Except DecodeError Unit} (ends : ∀ error, ending = .error error → error.IsMismatch)
    {error : DecodeError}
    (failed : readMembers fields missing ⟨room, true⟩ (memberSources members) ending =
      .error error) : error.IsMismatch := by
  unfold readMembers at failed
  rw [Members.pass_over_member_sources] at failed
  cases both : Problem.both (fields.read ⟨room, true⟩ missing (memberSources members))
      (Problem.both (.ok ()) (endAt (memberSources members) ending)) with
  | ok values =>
      rw [both] at failed
      cases failed
  | error problem =>
      rw [both] at failed
      cases failed
      rcases Problem.error_of_both both with own | others
      · exact minds room missing members problem shape nest own
      · rcases Problem.error_of_both others with passed | ended
        · cases passed
        · exact ends _ (Problem.error_of_within ended)

/-- An array that is too long for a record has the wrong number of items, if it was read before. -/
theorem record_minds_shape (title : String) {fields : Fields α} (minds : fields.MindShape) :
    (record title fields).MindsShape := by
  intro room value error nests failed
  cases value with
  | object members =>
      cases room with
      | zero => exact nests.elim
      | succ room =>
          simp only [Json.toSource, record, Context.enter, bind, Except.bind] at failed
          refine read_members_mind_shape minds ?_ nests ?_ failed
          · intro name
            exact ⟨_, rfl⟩
          · intro error ended
            cases ended
  | array items =>
      cases room with
      | zero => exact nests.elim
      | succ room =>
          simp only [Json.toSource, record, Context.enter, bind, Except.bind] at failed
          rw [Json.zip_item_sources] at failed
          refine read_members_mind_shape minds ?_ (Json.zip_nests _ nests) ?_ failed
          · intro name
            exact ⟨_, rfl⟩
          · intro error ended
            unfold arrayEnd at ended
            split at ended
            · cases ended
              exact ⟨_, rfl⟩
            · cases ended
  | _ =>
      cases failed
      exact complaint_is_mismatch _ _

/-- A value that has room is refused for its shape exactly if it does not have the shape. -/
theorem refused_iff {decoder : Decoder α} {shape : Json → α → Prop} {room : Nat} {value : Json}
    (exact : decoder.ReadsExactly shape) (minds : decoder.MindsShape)
    (nests : value.NestsWithin room) :
    (∃ mismatch, decoder ⟨room, true⟩ value.toSource = .error (.mismatch mismatch)) ↔
      ¬ ∃ content, shape value content := by
  have accepted := exact ⟨room, true⟩ value
  constructor
  · rintro ⟨mismatch, refused⟩ ⟨content, fits⟩
    rw [(accepted content nests).2 fits] at refused
    cases refused
  · intro unshaped
    cases decoded : decoder ⟨room, true⟩ value.toSource with
    | ok content => exact absurd ⟨content, (accepted content nests).1 decoded⟩ unshaped
    | error error =>
        obtain ⟨mismatch, rfl⟩ := minds room value error nests decoded
        exact ⟨mismatch, rfl⟩

/-- All that is said of a value that has room is that it is refused. -/
theorem error_iff_refused {decoder : Decoder α} (minds : decoder.MindsShape) {room : Nat}
    {value : Json} (nests : value.NestsWithin room) {error : DecodeError} :
    decoder ⟨room, true⟩ value.toSource = .error error ↔ ∃ mismatch, error = .mismatch mismatch ∧
      decoder ⟨room, true⟩ value.toSource = .error (.mismatch mismatch) := by
  constructor
  · intro failed
    obtain ⟨mismatch, rfl⟩ := minds room value error nests failed
    exact ⟨mismatch, rfl, failed⟩
  · rintro ⟨mismatch, rfl, failed⟩
    exact failed

/-- Whether the tree was read before plays no role. -/
def ReadsAlike (decoder : Decoder α) : Prop :=
  ∀ (room : Nat) (source : Json.Source), decoder ⟨room, false⟩ source = decoder ⟨room, true⟩ source

theorem string_reads_alike : string.ReadsAlike := by
  intro room source
  rcases source with leaf | _ | _
  · cases leaf <;> rfl
  · rfl
  · rfl

theorem word32_reads_alike : word32.ReadsAlike := by
  intro room source
  rcases source with leaf | _ | _
  · rcases leaf with _ | _ | number | _ | _
    · rfl
    · rfl
    · cases number <;> rfl
    · rfl
    · rfl
  · rfl
  · rfl

theorem choice_reads_alike (title : String) (alternatives : List (Decoder α)) :
    (choice title alternatives).ReadsAlike := by
  intro room source
  rfl

/-- Keeping the other members of an object never fails, so what fails is a field. -/
theorem read_and_keep_error_iff {fields : Fields α} {context : Context}
    {members : List (String × Json)} (nest : Json.MembersNestWithin context.room members)
    {error : DecodeError} :
    readAndKeep fields context (memberSources members) (.ok ()) = .error error ↔
      ∃ problem, fields.read context missingField (memberSources members) = .error problem ∧
        problem.error = error := by
  unfold readAndKeep
  rw [Members.keep_member_sources context fields.keys 0 members nest]
  cases fields.read context missingField (memberSources members) with
  | ok value => simp [Problem.both, endAt, Problem.within, Problem.report, Except.map]
  | error problem => simp [Problem.both, endAt, Problem.within, Problem.report, Except.map]

end Decoder

end MeshRouting

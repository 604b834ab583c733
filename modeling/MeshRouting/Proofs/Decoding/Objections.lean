import MeshRouting.Proofs.Decoding.TextOrder
import Mathlib.Data.List.Find

/-!
What can be said against the members of an object, without regard to how it is found out. A
known key may stand in an object once, and its value must be one that the key takes. A reader
is described by the objections it raises; which of them comes first depends on the members
with known keys alone, and on nothing between them.
-/

namespace MeshRouting

namespace Json

/-- What is said against a member with a known key: that the key has been there before, or
what is said against its value. -/
inductive Objection (refuses : String → Json → Mismatch → Prop) (keys : List String)
    (before : List (String × Json)) : String × Json → Mismatch → Prop
  | unfit {key : String} {value : Json} {mismatch : Mismatch} (known : key ∈ keys)
      (first : key ∉ before.map (·.1)) (refused : refuses key value mismatch) :
      Objection refuses keys before (key, value) mismatch
  | repeated {key : String} {value : Json} (known : key ∈ keys) (again : key ∈ before.map (·.1)) :
      Objection refuses keys before (key, value) (.duplicateField key)

/-- What is said against the first member in text order that something is said against. -/
def FirstObjection (refuses : String → Json → Mismatch → Prop) (keys : List String)
    (members : List (String × Json)) (mismatch : Mismatch) : Prop :=
  ∃ place member, members[place]? = some member ∧
    Objection refuses keys (members.take place) member mismatch ∧
    ∀ earlier < place, ∀ other, members[earlier]? = some other →
      ∀ another, ¬ Objection refuses keys (members.take earlier) other another

/-- What is said about members of which some are required: what is said against the first of
them that something is said against, and only if there is none, what is missing first. -/
inductive Complaint (refuses : String → Json → Mismatch → Prop) (keys required : List String)
    (members : List (String × Json)) : Mismatch → Prop
  | objection {mismatch : Mismatch} (first : FirstObjection refuses keys members mismatch) :
      Complaint refuses keys required members mismatch
  | missing {name : String} (fine : ∀ mismatch, ¬ FirstObjection refuses keys members mismatch)
      (lacking : required.find? (· ∉ members.map (·.1)) = some name) :
      Complaint refuses keys required members (.missingField name)

/-- Where nothing is required, there is nothing to say but what is said against a member. -/
theorem complaint_nil_iff {refuses : String → Json → Mismatch → Prop} {keys : List String}
    {members : List (String × Json)} {mismatch : Mismatch} :
    Complaint refuses keys [] members mismatch ↔ FirstObjection refuses keys members mismatch := by
  constructor
  · intro complaint
    cases complaint with
    | objection first => exact first
    | missing _ lacking => cases lacking
  · exact .objection

/-- The members with these keys. -/
def within (keys : List String) (members : List (String × Json)) : List (String × Json) :=
  members.filter fun member => member.1 ∈ keys

variable {refuses : String → Json → Mismatch → Prop} {keys more : List String} {room : Nat}
  {before : List (String × Json)} {member : String × Json} {mismatch : Mismatch}

theorem known_of_objection (objection : Objection refuses keys before member mismatch) :
    member.1 ∈ keys := by
  cases objection with
  | unfit known _ _ => exact known
  | repeated known _ => exact known

theorem objection_mono (included : ∀ key ∈ keys, key ∈ more)
    (objection : Objection refuses keys before member mismatch) :
    Objection refuses more before member mismatch := by
  cases objection with
  | unfit known first refused => exact .unfit (included _ known) first refused
  | repeated known again => exact .repeated (included _ known) again

theorem objection_append_iff : Objection refuses (keys ++ more) before member mismatch ↔
    Objection refuses keys before member mismatch ∨
      Objection refuses more before member mismatch := by
  constructor
  · intro objection
    cases objection with
    | unfit known first refused =>
        rcases List.mem_append.1 known with left | right
        · exact .inl (.unfit left first refused)
        · exact .inr (.unfit right first refused)
    | repeated known again =>
        rcases List.mem_append.1 known with left | right
        · exact .inl (.repeated left again)
        · exact .inr (.repeated right again)
  · rintro (objection | objection)
    · exact objection_mono (fun _ => List.mem_append_left more) objection
    · exact objection_mono (fun _ => List.mem_append_right keys) objection

theorem key_within_iff {key : String} (known : key ∈ keys) {members : List (String × Json)} :
    key ∈ (within keys members).map (·.1) ↔ key ∈ members.map (·.1) := by
  simp only [within, List.mem_map, List.mem_filter, decide_eq_true_eq]
  constructor
  · rintro ⟨member, ⟨inside, _⟩, rfl⟩
    exact ⟨member, inside, rfl⟩
  · rintro ⟨member, inside, rfl⟩
    exact ⟨member, ⟨inside, known⟩, rfl⟩

/-- Taking away members of other keys does not change which members have these keys. -/
theorem within_without {others : List String} (apart : ∀ key ∈ keys, key ∉ others)
    (members : List (String × Json)) : within keys (without others members) = within keys members := by
  unfold within without
  rw [List.filter_filter]
  apply List.filter_congr
  intro member _
  by_cases known : member.1 ∈ keys
  · simp [known, apart member.1 known]
  · simp [known]

/-- What is said against a member has nothing to do with members of unknown keys before it. -/
theorem objection_within_iff : Objection refuses keys (within keys before) member mismatch ↔
    Objection refuses keys before member mismatch := by
  constructor
  · intro objection
    cases objection with
    | unfit known first refused =>
        exact .unfit known (fun again => first ((key_within_iff known).2 again)) refused
    | repeated known again => exact .repeated known ((key_within_iff known).1 again)
  · intro objection
    cases objection with
    | unfit known first refused =>
        exact .unfit known (fun again => first ((key_within_iff known).1 again)) refused
    | repeated known again => exact .repeated known ((key_within_iff known).2 again)

namespace Objections

variable {objects others : Objections}

/-- The reader says what there is to say against members with these keys, where they have room. -/
def Raise (objects : Objections) (refuses : String → Json → Mismatch → Prop)
    (keys : List String) (room : Nat) : Prop :=
  ∀ (before : List (String × Json)) (member : String × Json) (error : DecodeError),
    member.2.NestsWithin room → (objects before member = some error ↔
      ∃ mismatch, error = .mismatch mismatch ∧ Objection refuses keys before member mismatch)

theorem field_raises {name : String} {decoder : Decoder α} {context : Context}
    (refused : ∀ (value : Json) (error : DecodeError), value.NestsWithin room →
      (decoder context value.toSource = .error error ↔
        ∃ mismatch, error = .mismatch mismatch ∧ refuses name value mismatch)) :
    (Fields.objections name decoder context).Raise refuses [name] room := by
  rintro before ⟨key, value⟩ error nests
  unfold Fields.objections
  by_cases own : key = name
  · subst own
    have known := List.mem_singleton_self key
    by_cases again : key ∈ before.map (·.1)
    · simp only [if_true, if_pos again, Option.some.injEq]
      constructor
      · rintro rfl
        exact ⟨_, rfl, .repeated known again⟩
      · rintro ⟨_, rfl, objection⟩
        cases objection with
        | unfit _ first _ => exact absurd again first
        | repeated => rfl
    · simp only [if_true, if_neg again]
      have ofValue : (∃ mismatch, error = .mismatch mismatch ∧ refuses key value mismatch) ↔
          ∃ mismatch, error = .mismatch mismatch ∧
            Objection refuses [key] before (key, value) mismatch := by
        constructor
        · rintro ⟨mismatch, rfl, refused⟩
          exact ⟨mismatch, rfl, .unfit known again refused⟩
        · rintro ⟨mismatch, rfl, objection⟩
          cases objection with
          | unfit _ _ refused => exact ⟨mismatch, rfl, refused⟩
          | repeated _ repeated => exact absurd repeated again
      rw [← ofValue, ← refused value error nests]
      cases decoder context value.toSource <;> simp
  · simp only [if_neg own, reduceCtorEq, false_iff]
    rintro ⟨_, _, objection⟩
    exact own (List.mem_singleton.1 (known_of_objection objection))

/-- Two readers with keys of their own never speak about the same member. -/
theorem or_raises (left : objects.Raise refuses keys room) (right : others.Raise refuses more room)
    (apart : ∀ key ∈ keys, key ∉ more) : (objects.or others).Raise refuses (keys ++ more) room := by
  intro before member error nests
  have ofLeft := fun error => left before member error nests
  have ofRight := fun error => right before member error nests
  simp only [objection_append_iff]
  rw [Objections.or]
  cases said : objects before member with
  | some own =>
      rw [Option.some_or, ← said, ofLeft error]
      constructor
      · rintro ⟨mismatch, rfl, objection⟩
        exact ⟨mismatch, rfl, .inl objection⟩
      · rintro ⟨mismatch, rfl, objection | another⟩
        · exact ⟨mismatch, rfl, objection⟩
        · obtain ⟨_, _, objection⟩ := (ofLeft own).1 said
          exact absurd (known_of_objection another) (apart _ (known_of_objection objection))
  | none =>
      rw [Option.none_or, ofRight error]
      constructor
      · rintro ⟨mismatch, rfl, objection⟩
        exact ⟨mismatch, rfl, .inr objection⟩
      · rintro ⟨mismatch, rfl, another | objection⟩
        · rw [(ofLeft (.mismatch mismatch)).2 ⟨mismatch, rfl, another⟩] at said
          cases said
        · exact ⟨mismatch, rfl, objection⟩

theorem raised_within (raises : objects.Raise refuses keys room)
    (nests : member.2.NestsWithin room) : objects (within keys before) member = objects before member := by
  apply Option.ext
  intro error
  rw [raises (within keys before) member error nests, raises before member error nests]
  simp only [objection_within_iff]

theorem unknown_not_raised (raises : objects.Raise refuses keys room)
    (nests : member.2.NestsWithin room) (unknown : member.1 ∉ keys) : objects before member = none := by
  apply Option.eq_none_iff_forall_ne_some.2
  intro error said
  obtain ⟨_, _, objection⟩ := (raises before member error nests).1 said
  exact unknown (known_of_objection objection)

/-- What is met first is the same if members of unknown keys are taken away or put in. -/
theorem first_problem_within (raises : objects.Raise refuses keys room)
    (before : List (String × Json)) {members : List (String × Json)}
    (nest : MembersNestWithin room members) :
    (firstProblem objects (within keys before) (within keys members)).map (·.error) =
      (firstProblem objects before members).map (·.error) := by
  induction members generalizing before with
  | nil => rfl
  | cons member rest induction =>
      have others := induction (before ++ [member]) nest.2
      rw [firstProblem]
      by_cases known : member.1 ∈ keys
      · have kept : within keys (member :: rest) = member :: within keys rest := by
          simp [within, known]
        have longer : within keys (before ++ [member]) = within keys before ++ [member] := by
          simp [within, known]
        rw [kept, firstProblem, raised_within raises nest.1]
        cases objects before member with
        | some error => rfl
        | none =>
            rw [longer] at others
            exact others
      · have dropped : within keys (member :: rest) = within keys rest := by
          simp [within, known]
        have same : within keys (before ++ [member]) = within keys before := by
          simp [within, known]
        rw [dropped, unknown_not_raised raises nest.1 known, ← same]
        exact others

/-- The reader meets first what is said against the first member that something is said against. -/
theorem first_objection_iff (raises : objects.Raise refuses keys room)
    {members : List (String × Json)} (nest : MembersNestWithin room members) {error : DecodeError} :
    (∃ problem, firstProblem objects [] members = some problem ∧ problem.error = error) ↔
      ∃ mismatch, error = .mismatch mismatch ∧ FirstObjection refuses keys members mismatch := by
  have inside {place : Nat} {member : String × Json} (found : members[place]? = some member) :
      member.2.NestsWithin room := members_nest_iff.1 nest member (List.mem_of_getElem? found)
  simp only [first_problem_eq_some_iff, List.nil_append]
  constructor
  · rintro ⟨problem, ⟨place, member, found, _, said, silent⟩, rfl⟩
    obtain ⟨mismatch, same, objection⟩ := (raises _ member _ (inside found)).1 said
    refine ⟨mismatch, same, place, member, found, objection, ?_⟩
    intro earlier before other present another objection
    have nothing := silent earlier before other present
    rw [(raises _ other _ (inside present)).2 ⟨another, rfl, objection⟩] at nothing
    cases nothing
  · rintro ⟨mismatch, rfl, place, member, found, objection, silent⟩
    refine ⟨⟨place, .mismatch mismatch⟩, ⟨place, member, found, by simp, ?_, ?_⟩, rfl⟩
    · exact (raises _ member _ (inside found)).2 ⟨mismatch, rfl, objection⟩
    · intro earlier before other present
      apply Option.eq_none_iff_forall_ne_some.2
      intro error said
      obtain ⟨another, _, objection⟩ := (raises _ other _ (inside present)).1 said
      exact silent earlier before other present another objection

variable {members alike : List (String × Json)}

/-- What is said first concerns the members with known keys, wherever they stand. -/
theorem first_objection_of_same (raises : objects.Raise refuses keys room)
    (nest : MembersNestWithin room members) (nestAlike : MembersNestWithin room alike)
    (same : within keys members = within keys alike) :
    FirstObjection refuses keys members mismatch ↔ FirstObjection refuses keys alike mismatch := by
  have known {members : List (String × Json)} (nest : MembersNestWithin room members) :
      FirstObjection refuses keys members mismatch ↔
        (firstProblem objects [] (within keys members)).map (·.error) = some (.mismatch mismatch) := by
    have first := @first_objection_iff _ _ _ _ raises _ nest (.mismatch mismatch)
    have kept := first_problem_within raises [] nest
    rw [show within keys [] = [] from rfl] at kept
    rw [kept, Option.map_eq_some_iff, first]
    simp
  rw [known nest, known nestAlike, same]

theorem complaint_of_same (raises : objects.Raise refuses keys room)
    (nest : MembersNestWithin room members) (nestAlike : MembersNestWithin room alike)
    (same : within keys members = within keys alike) {required : List String}
    (known : ∀ name ∈ required, name ∈ keys)
    (complaint : Complaint refuses keys required members mismatch) :
    Complaint refuses keys required alike mismatch := by
  have first (mismatch : Mismatch) : FirstObjection refuses keys members mismatch ↔
      FirstObjection refuses keys alike mismatch :=
    first_objection_of_same raises nest nestAlike same
  cases complaint with
  | objection objection => exact .objection ((first mismatch).1 objection)
  | missing fine lacking =>
      refine .missing (fun mismatch objection => fine mismatch ((first mismatch).2 objection)) ?_
      rw [← lacking]
      apply List.find?_congr
      intro name required
      have here := @key_within_iff keys name (known name required) members
      have there := @key_within_iff keys name (known name required) alike
      rw [same] at here
      simp only [← here, ← there]

end Objections

end Json

namespace Fields

open Json (Complaint FirstObjection Objections firstMissing firstProblem memberSources)

variable {fields : Fields α} {context : Context} {objects : Objections}
  {refuses : String → Json → Mismatch → Prop} {keys required : List String}
  {members : List (String × Json)}

/-- What is missing is reported only if nothing is said against any member. -/
theorem error_iff_of_order (order : fields.ReportInOrder context objects required)
    {missing : String → DecodeError} {error : DecodeError} :
    (∃ problem, fields.read context missing (memberSources members) = .error problem ∧
      problem.error = error) ↔
        (∃ problem, firstProblem objects [] members = some problem ∧ problem.error = error) ∨
          firstProblem objects [] members = none ∧
            ∃ name, required.find? (· ∉ members.map (·.1)) = some name ∧ missing name = error := by
  simp only [← Problem.of_result_eq_some_iff, order missing members]
  cases first : firstProblem objects [] members with
  | some problem =>
      have inside := (Json.place_of_first_problem first).2
      rw [Problem.earlier_of_le]
      · simp
      · intro later lacking
        obtain ⟨_, _, rfl⟩ := Option.map_eq_some_iff.1 lacking
        simp only [List.length_nil] at inside ⊢
        omega
  | none => simp [Problem.earlier, firstMissing]

/-- Fields that report in order say what there is to say about the members. -/
theorem error_iff_complaint (order : fields.ReportInOrder context objects required) {room : Nat}
    (raises : objects.Raise refuses keys room) (nest : Json.MembersNestWithin room members)
    {error : DecodeError} :
    (∃ problem, fields.read context Decoder.missingField (memberSources members) = .error problem ∧
      problem.error = error) ↔
        ∃ mismatch, error = .mismatch mismatch ∧
          Complaint refuses keys required members mismatch := by
  have first {error : DecodeError} := @Objections.first_objection_iff _ _ _ _ raises _ nest error
  have fine : firstProblem objects [] members = none ↔
      ∀ mismatch, ¬ FirstObjection refuses keys members mismatch := by
    rw [Option.eq_none_iff_forall_ne_some]
    constructor
    · intro nothing mismatch objection
      obtain ⟨problem, found, _⟩ := first.2 ⟨mismatch, rfl, objection⟩
      exact nothing problem found
    · intro nothing problem found
      obtain ⟨mismatch, _, objection⟩ := first.1 ⟨problem, found, rfl⟩
      exact nothing mismatch objection
  rw [error_iff_of_order order, first, fine]
  constructor
  · rintro (⟨mismatch, rfl, objection⟩ | ⟨fine, name, lacking, rfl⟩)
    · exact ⟨mismatch, rfl, .objection objection⟩
    · exact ⟨_, rfl, .missing fine lacking⟩
  · rintro ⟨mismatch, rfl, complaint⟩
    cases complaint with
    | objection objection => exact .inl ⟨mismatch, rfl, objection⟩
    | missing fine lacking => exact .inr ⟨fine, _, lacking, rfl⟩

end Fields

end MeshRouting

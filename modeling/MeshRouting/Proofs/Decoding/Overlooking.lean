import MeshRouting.Proofs.Decoding.Wholeness

/-!
Members that make no difference. With a member that means nothing all members behind it stand
one place further on, and so do the problems found there. The order of the problems stays as
it was, so a record says the same with the member and without it, whether it is read or rejected.
-/

namespace MeshRouting

open Json (Fault Head Source)

namespace Problem

/-- Where the problem is found if there is one more member at `place`. -/
def moved (place : Nat) (problem : Problem) : Problem :=
  if problem.place < place then problem else { problem with place := problem.place + 1 }

variable {place : Nat}

theorem moved_place_lt_iff {first second : Problem} :
    (moved place first).place < (moved place second).place ↔ first.place < second.place := by
  unfold moved
  split_ifs <;> simp only <;> omega

theorem error_of_moved (problem : Problem) : (moved place problem).error = problem.error := by
  unfold moved
  split_ifs <;> rfl

theorem moved_of_le {found : Nat} (behind : place ≤ found) (error : DecodeError) :
    moved place ⟨found, error⟩ = ⟨found + 1, error⟩ :=
  if_neg (Nat.not_lt_of_le behind)

theorem both_moved (left : Except Problem α) (right : Except Problem β) :
    both (left.mapError (moved place)) (right.mapError (moved place)) =
      (both left right).mapError (moved place) := by
  cases left with
  | ok value => cases right <;> rfl
  | error first =>
      cases right with
      | ok value => rfl
      | error second =>
          simp only [Except.mapError, both, moved_place_lt_iff]
          split_ifs <;> rfl

theorem map_moved (result : Except Problem α) (f : α → β) :
    (result.mapError (moved place)).map f = (result.map f).mapError (moved place) := by
  cases result <;> rfl

theorem report_moved (result : Except Problem α) :
    report (result.mapError (moved place)) = report result := by
  cases result with
  | ok value => rfl
  | error problem => simp only [Except.mapError, report, error_of_moved]

end Problem

open Problem (moved)

namespace Members

/-- The member has none of these keys. -/
def Apart (keys : List String) (member : Head × Source) : Prop :=
  ∀ key ∈ keys, member.1 ≠ .leaf (.string key)

/-- Where a place is if there is one more member at `place`. -/
def shift (place : Nat) (entry : Nat × Source) : Nat × Source :=
  if entry.1 < place then entry else (entry.1 + 1, entry.2)

theorem source_of_shift (place : Nat) (entry : Nat × Source) : (shift place entry).2 = entry.2 := by
  unfold shift
  split_ifs <;> rfl

theorem moved_of_shift (place : Nat) (entry : Nat × Source) (error : DecodeError) :
    (⟨(shift place entry).1, error⟩ : Problem) = moved place ⟨entry.1, error⟩ := by
  unfold shift moved
  split_ifs <;> rfl

variable {keys : List String} {member : Head × Source}

theorem known_or_apart (keys : List String) (member : Head × Source) :
    (∃ key ∈ keys, member.1 = .leaf (.string key)) ∨ Apart keys member := by
  by_cases known : ∃ key ∈ keys, member.1 = .leaf (.string key)
  · exact .inl known
  · exact .inr fun key inside same => known ⟨key, inside, same⟩

theorem having_cons_of_known {key : String} (known : key ∈ keys) (value : Source) (start : Nat)
    (rest : Members) : having keys start ((.leaf (.string key), value) :: rest) =
      (start, value) :: having keys (start + 1) rest :=
  if_pos known

theorem having_cons_of_apart (apart : Apart keys member) (start : Nat) (rest : Members) :
    having keys start (member :: rest) = having keys (start + 1) rest := by
  obtain ⟨head, value⟩ := member
  rcases head with leaf | _ | _
  · cases leaf with
    | string key => exact if_neg fun known => apart key known rfl
    | _ => rfl
  · rfl
  · rfl

/-- Members that stand one place further on are found one place further on. -/
theorem having_shift {place start : Nat} (behind : place ≤ start) (members : Members) :
    having keys (start + 1) members = (having keys start members).map (shift place) := by
  induction members generalizing start with
  | nil => rfl
  | cons member rest induction =>
      have later := @induction (start + 1) (by omega)
      obtain ⟨head, value⟩ := member
      rcases known_or_apart keys (head, value) with ⟨key, known, rfl⟩ | apart
      · have moved : shift place (start, value) = (start + 1, value) := if_neg (by simp; omega)
        rw [having_cons_of_known known, having_cons_of_known known, List.map_cons, moved, later]
      · rw [having_cons_of_apart apart, having_cons_of_apart apart, later]

/-- The members with the keys are the same, some of them one place further on. -/
theorem having_insert (apart : Apart keys member) (start : Nat) (before after : Members) :
    having keys start (before ++ member :: after) =
      (having keys start (before ++ after)).map (shift (start + before.length)) := by
  induction before generalizing start with
  | nil =>
      rw [List.nil_append, List.nil_append, having_cons_of_apart apart]
      exact having_shift (Nat.le_refl start) after
  | cons first rest induction =>
      have later := induction (start + 1)
      rw [show start + 1 + rest.length = start + (first :: rest).length by simp; omega] at later
      rw [List.cons_append, List.cons_append]
      obtain ⟨head, value⟩ := first
      rcases known_or_apart keys (head, value) with ⟨key, known, rfl⟩ | other
      · have same : shift (start + ((Head.leaf (.string key), value) :: rest).length) (start, value) =
            (start, value) := if_pos (by simp)
        rw [having_cons_of_known known, having_cons_of_known known, List.map_cons, same, later]
      · rw [having_cons_of_apart other, having_cons_of_apart other, later]

/-- The member may be passed over: it is known, or a value that is not faulty under some key. -/
def Passable (keys : List String) (member : Head × Source) : Prop :=
  ∃ key, member.1 = .leaf (.string key) ∧ (key ∉ keys → member.2.fault = none)

theorem passable_of_known {key : String} (known : key ∈ keys) (value : Source) :
    Passable keys (.leaf (.string key), value) :=
  ⟨key, rfl, fun unknown => absurd known unknown⟩

theorem pass_over_cons (passable : Passable keys member) (start : Nat) (rest : Members) :
    passOver keys start (member :: rest) = passOver keys (start + 1) rest := by
  obtain ⟨head, value⟩ := member
  obtain ⟨key, same, faultless⟩ := passable
  cases same
  by_cases known : key ∈ keys
  · exact if_pos known
  · rw [passOver, if_neg known]
    rw [show value.fault = none from faultless known]

theorem passable_or_faulty (keys : List String) (member : Head × Source) :
    Passable keys member ∨ ∃ fault : Fault, ∀ start rest,
      passOver keys start (member :: rest) = .error ⟨start, .fault fault⟩ := by
  obtain ⟨head, value⟩ := member
  rcases head with leaf | _ | _
  · cases leaf with
    | string key =>
        by_cases known : key ∈ keys
        · exact .inl ⟨key, rfl, fun unknown => absurd known unknown⟩
        · cases faulty : value.fault with
          | none => exact .inl ⟨key, rfl, fun _ => faulty⟩
          | some fault =>
              refine .inr ⟨fault, fun start rest => ?_⟩
              rw [passOver, if_neg known, faulty]
    | _ => exact .inr ⟨_, fun _ _ => rfl⟩
  · exact .inr ⟨_, fun _ _ => rfl⟩
  · exact .inr ⟨_, fun _ _ => rfl⟩

theorem pass_over_shift {place start : Nat} (behind : place ≤ start) (members : Members) :
    passOver keys (start + 1) members = (passOver keys start members).mapError (moved place) := by
  induction members generalizing start with
  | nil => rfl
  | cons member rest induction =>
      rcases passable_or_faulty keys member with passable | ⟨fault, failed⟩
      · rw [pass_over_cons passable, pass_over_cons passable]
        exact induction (by omega)
      · rw [failed, failed, Except.mapError, Problem.moved_of_le behind]

theorem pass_over_insert (passable : Passable keys member) (start : Nat) (before after : Members) :
    passOver keys start (before ++ member :: after) =
      (passOver keys start (before ++ after)).mapError (moved (start + before.length)) := by
  induction before generalizing start with
  | nil =>
      rw [List.nil_append, List.nil_append, pass_over_cons passable]
      exact pass_over_shift (Nat.le_refl start) after
  | cons first rest induction =>
      have later := induction (start + 1)
      rw [show start + 1 + rest.length = start + (first :: rest).length by simp; omega] at later
      rw [List.cons_append, List.cons_append]
      rcases passable_or_faulty keys first with other | ⟨fault, failed⟩
      · rw [pass_over_cons other, pass_over_cons other, later]
      · rw [failed, failed, Except.mapError, moved, if_pos (by simp)]

end Members

namespace Fields

variable {context : Context} {member : Head × Source} {before after : Members}

/-- With the member or without it the fields read the same, or meet the same problem, whose
place is another only as far as the member moves it. -/
def Overlook (fields : Fields α) (context : Context) (before after : Members)
    (member : Head × Source) : Prop :=
  ∀ missing, fields.read context missing (before ++ member :: after) =
    (fields.read context missing (before ++ after)).mapError (moved before.length)

/-- A field does not see members of other keys. -/
theorem one_overlooks_other {field : FieldName} {decoder : Decoder α} {absent : Option α}
    (apart : Members.Apart field.all member) :
    (one field decoder absent).Overlook context before after member := by
  intro missing
  have own := Members.having_insert apart 0 before after
  rw [Nat.zero_add] at own
  simp only [one, own]
  cases Members.having field.all 0 (before ++ after) with
  | nil =>
      cases absent with
      | some value => rfl
      | none =>
          rw [Except.mapError, Problem.moved_of_le (by simp; omega)]
          simp
          omega
  | cons entry again =>
      simp only [List.map_cons, Members.source_of_shift, bind, Except.bind]
      cases decoder context entry.2 with
      | error error => exact congrArg Except.error (Members.moved_of_shift _ _ _)
      | ok value =>
          cases again with
          | nil => rfl
          | cons next rest => exact congrArg Except.error (Members.moved_of_shift _ _ _)

theorem one_overlooks_key {name key : String} {decoder : Decoder α} {absent : Option α}
    {value : Source} (different : key ≠ name) :
    (one ⟨name, []⟩ decoder absent).Overlook context before after (.leaf (.string key), value) := by
  apply one_overlooks_other
  intro other own same
  rw [List.mem_singleton.1 own] at same
  cases same
  exact different rfl

theorem and_overlook {first : Fields α} {second : Fields β}
    (left : first.Overlook context before after member)
    (right : second.Overlook context before after member) :
    (first.and second).Overlook context before after member := by
  intro missing
  change Problem.both (first.read context missing (before ++ member :: after))
    (second.read context missing (before ++ member :: after)) = _
  rw [left missing, right missing, Problem.both_moved]
  rfl

theorem map_overlooks {fields : Fields α} (f : α → β)
    (overlook : fields.Overlook context before after member) :
    (fields.map f).Overlook context before after member := by
  intro missing
  change (fields.read context missing (before ++ member :: after)).map f = _
  rw [overlook missing, Problem.map_moved]
  rfl

end Fields

namespace Decoder

variable {member : Head × Source} {before after : Members}

theorem read_members_overlooks {fields : Fields α} {context : Context}
    (overlook : fields.Overlook context before after member)
    (passable : Members.Passable fields.keys member) (missing : String → DecodeError)
    (ending : Except DecodeError Unit) :
    readMembers fields missing context (before ++ member :: after) ending =
      readMembers fields missing context (before ++ after) ending := by
  have passed := Members.pass_over_insert passable 0 before after
  have ended : endAt (before ++ member :: after) ending =
      (endAt (before ++ after) ending).mapError (moved before.length) := by
    cases ending with
    | ok _ => rfl
    | error error =>
        simp only [endAt, Problem.within, Except.mapError]
        rw [Problem.moved_of_le (by simp)]
        simp
        omega
  rw [Nat.zero_add] at passed
  unfold readMembers
  rw [overlook missing, passed, ended, Problem.both_moved, Problem.both_moved, Problem.map_moved,
    Problem.report_moved]

/-- A record reads the same with a member that its fields overlook, or is rejected for the same. -/
theorem record_overlooks (title : String) {fields : Fields α} {context : Context}
    (overlook : ∀ inner : Context, context = ⟨inner.room + 1, inner.buffered⟩ →
      fields.Overlook inner before after member)
    (passable : Members.Passable fields.keys member) (fault : Option Fault) :
    record title fields context (.object (before ++ member :: after) fault) =
      record title fields context (.object (before ++ after) fault) := by
  cases entered : context.enter with
  | error error => simp only [record, entered, bind, Except.bind]
  | ok inner =>
      have same := read_members_overlooks (overlook inner (Context.enter_eq_ok_iff.1 entered))
        passable missingField (endOf fault)
      simp only [record, entered, bind, Except.bind, same]

end Decoder

end MeshRouting

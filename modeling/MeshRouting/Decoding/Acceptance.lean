import MeshRouting.Decoding.Record

/-!
When a record is accepted. Every part of a record stands for itself: the record is accepted
exactly if each field is, no member in between is faulty, and the members end well. In what
order the problems of a rejected record are reported plays no role here.
-/

namespace MeshRouting

open Json (Head Source)

namespace Problem

theorem both_eq_ok_iff {left : Except Problem α} {right : Except Problem β} {value : α}
    {other : β} : both left right = .ok (value, other) ↔ left = .ok value ∧ right = .ok other := by
  cases left <;> cases right <;> simp [both]

theorem report_eq_ok_iff {result : Except Problem α} {value : α} :
    report result = .ok value ↔ result = .ok value := by
  cases result <;> simp [report]

theorem within_eq_ok_iff {place : Nat} {result : Except DecodeError α} {value : α} :
    within place result = .ok value ↔ result = .ok value := by
  cases result <;> simp [within]

theorem map_eq_ok_iff {result : Except ε α} {f : α → β} {value : β} :
    result.map f = .ok value ↔ ∃ source, result = .ok source ∧ f source = value := by
  cases result <;> simp [Except.map]

theorem bind_eq_ok_iff {result : Except ε α} {next : α → Except ε β} {value : β} :
    (result >>= next) = .ok value ↔ ∃ source, result = .ok source ∧ next source = .ok value := by
  cases result <;> simp [bind, Except.bind]

theorem exists_eq_ok_iff {result : Except ε Unit} :
    (∃ done, result = .ok done) ↔ result = .ok () :=
  ⟨fun ⟨_, same⟩ => same, fun same => ⟨(), same⟩⟩

end Problem

namespace Fields

variable {context : Context} {missing : String → DecodeError} {members : Members}

theorem and_eq_ok_iff {first : Fields α} {second : Fields β} {value : α} {other : β} :
    (first.and second).read context missing members = .ok (value, other) ↔
      first.read context missing members = .ok value ∧
        second.read context missing members = .ok other :=
  Problem.both_eq_ok_iff

theorem map_eq_ok_iff {fields : Fields α} {f : α → β} {value : β} :
    (fields.map f).read context missing members = .ok value ↔
      ∃ source, fields.read context missing members = .ok source ∧ f source = value :=
  Problem.map_eq_ok_iff

/-- A field takes its value from the one member it has, or is left out where it may be. -/
theorem one_eq_ok_iff {field : FieldName} {decoder : Decoder α} {absent : Option α} {value : α} :
    (one field decoder absent).read context missing members = .ok value ↔
      (members.having field.all 0 = [] ∧ absent = some value) ∨
        ∃ place source, members.having field.all 0 = [(place, source)] ∧
          decoder context source = .ok value := by
  simp only [one]
  cases own : members.having field.all 0 with
  | nil => cases absent <;> simp
  | cons entry again =>
      obtain ⟨place, source⟩ := entry
      simp only [bind, Except.bind]
      cases decoded : decoder context source with
      | error problem => simp [Problem.within, decoded]
      | ok result =>
          cases again with
          | nil =>
              simp only [Problem.within, Except.ok.injEq, reduceCtorEq, false_and, false_or]
              constructor
              · rintro rfl
                exact ⟨place, source, rfl, decoded⟩
              · rintro ⟨_, _, same, other⟩
                simp only [List.cons.injEq, Prod.mk.injEq, and_true] at same
                rw [same.2] at decoded
                exact Except.ok.inj (decoded.symm.trans other)
          | cons next rest => simp [Problem.within]

end Fields

namespace Decoder

variable {context : Context} {members : Members} {ending : Except DecodeError Unit}

theorem read_members_eq_ok_iff {fields : Fields α} {missing : String → DecodeError} {value : α} :
    readMembers fields missing context members ending = .ok value ↔
      fields.read context missing members = .ok value ∧
        members.passOver fields.keys 0 = .ok () ∧ ending = .ok () := by
  simp only [readMembers, Problem.report_eq_ok_iff, Problem.map_eq_ok_iff, Prod.exists,
    Problem.both_eq_ok_iff, endAt, Problem.within_eq_ok_iff]
  simp [Problem.exists_eq_ok_iff]

theorem read_and_keep_eq_ok_iff {fields : Fields α} {value : α} {others : List (String × Json)} :
    readAndKeep fields context members ending = .ok (value, others) ↔
      fields.read context missingField members = .ok value ∧
        members.keep context fields.keys 0 = .ok others ∧ ending = .ok () := by
  simp only [readAndKeep, Problem.report_eq_ok_iff, Problem.map_eq_ok_iff, Prod.exists,
    Problem.both_eq_ok_iff, endAt, Problem.within_eq_ok_iff]
  simp [Problem.exists_eq_ok_iff]

end Decoder

end MeshRouting

import MeshRouting.Proofs.Decoding.Complaints
import Mathlib.Data.List.Infix

/-!
The order of complaints about a record. Each field looks for its own members, yet the record
reports what a reader meets first who goes through all members in text order and compares each
one with those before it. What is missing is reported only if there is no such complaint.
-/

namespace MeshRouting

open Json (memberSources)

namespace Json

/-- What a reader has against a member that comes after others. -/
abbrev Objections := List (String × Json) → String × Json → Option DecodeError

/-- What two readers have against a member; where both have something, the first one speaks. -/
def Objections.or (one other : Objections) : Objections :=
  fun before member => (one before member).or (other before member)

/-- What a reader meets first in the members that follow `before`, and its place. -/
def firstProblem (objects : Objections) (before : List (String × Json)) :
    List (String × Json) → Option Problem
  | [] => none
  | member :: rest =>
      match objects before member with
      | some error => some ⟨before.length, error⟩
      | none => firstProblem objects (before ++ [member]) rest

/-- The first of the names that no member has, where a record may complain about it. -/
def firstMissing (missing : String → DecodeError) (required : List String)
    (members : List (String × Json)) : Option Problem :=
  (required.find? (· ∉ members.map (·.1))).map fun name => ⟨members.length + 1, missing name⟩

end Json

namespace Problem

def ofResult : Except Problem α → Option Problem
  | .ok _ => none
  | .error problem => some problem

/-- The problem that comes first; of two in one place, the left one. -/
def earlier : Option Problem → Option Problem → Option Problem
  | none, other => other
  | some problem, none => some problem
  | some problem, some other => some (if other.place < problem.place then other else problem)

theorem of_result_both (left : Except Problem α) (right : Except Problem β) :
    ofResult (both left right) = earlier (ofResult left) (ofResult right) := by
  cases left <;> cases right <;> rfl

theorem of_result_eq_some_iff {result : Except Problem α} {problem : Problem} :
    ofResult result = some problem ↔ result = .error problem := by
  cases result <;> simp [ofResult]

theorem earlier_none (first : Option Problem) : earlier first none = first := by
  cases first <;> rfl

/-- A problem that is not after the other one is the earlier of the two. -/
theorem earlier_of_le {problem : Problem} {other : Option Problem}
    (order : ∀ later, other = some later → problem.place ≤ later.place) :
    earlier (some problem) other = some problem := by
  cases other with
  | none => rfl
  | some later =>
      have after := order later rfl
      rw [earlier, if_neg (by omega)]

theorem earlier_of_lt {problem : Problem} {other : Option Problem}
    (order : ∀ later, other = some later → problem.place < later.place) :
    earlier other (some problem) = some problem := by
  cases other with
  | none => rfl
  | some later => rw [earlier, if_pos (order later rfl)]

theorem earlier_assoc (first second third : Option Problem) :
    earlier (earlier first second) third = earlier first (earlier second third) := by
  cases first <;> cases second <;> cases third <;> try rfl
  simp only [earlier]
  split_ifs <;> first | rfl | omega

/-- The order in which two problems are compared plays a role only in one place. -/
theorem earlier_comm {first second : Option Problem} (apart : ∀ problem other,
    first = some problem → second = some other → problem.place < other.place) :
    earlier second first = earlier first second := by
  cases first with
  | none => cases second <;> rfl
  | some problem =>
      rw [earlier_of_lt fun other found => apart problem other rfl found]
      exact (earlier_of_le fun other found => (apart problem other rfl found).le).symm

end Problem

namespace Json

open Problem (earlier earlier_of_le earlier_of_lt)

theorem member_sources_length (members : List (String × Json)) :
    (memberSources members).length = members.length := by
  induction members with
  | nil => rfl
  | cons member rest induction => rw [memberSources, List.length_cons, induction, List.length_cons]

theorem place_of_first_problem {objects : Objections} {before members : List (String × Json)}
    {problem : Problem} (first : firstProblem objects before members = some problem) :
    before.length ≤ problem.place ∧ problem.place < before.length + members.length := by
  induction members generalizing before with
  | nil => cases first
  | cons member rest induction =>
      rw [firstProblem] at first
      split at first
      · cases first
        simp
      · have later := induction first
        simp only [List.length_append, List.length_cons, List.length_nil] at later ⊢
        omega

/-- Two readers who go through the members together meet first what one of them meets first. -/
theorem first_problem_or (one other : Objections) (before members : List (String × Json)) :
    firstProblem (one.or other) before members =
      earlier (firstProblem one before members) (firstProblem other before members) := by
  induction members generalizing before with
  | nil => rfl
  | cons member rest induction =>
      have later {objects : Objections} {problem : Problem}
          (found : firstProblem objects (before ++ [member]) rest = some problem) :
          before.length < problem.place := by
        have place := (place_of_first_problem found).1
        simp only [List.length_append, List.length_cons, List.length_nil] at place
        omega
      rw [firstProblem, firstProblem, firstProblem, Objections.or]
      cases left : one before member with
      | some error =>
          cases right : other before member with
          | some another => exact (earlier_of_le (by simp)).symm
          | none => exact (earlier_of_le fun _ found => (later found).le).symm
      | none =>
          cases right : other before member with
          | some another => exact (earlier_of_lt fun _ found => later found).symm
          | none => exact induction (before ++ [member])

theorem first_missing_append (missing : String → DecodeError) (first second : List String)
    (members : List (String × Json)) : firstMissing missing (first ++ second) members =
      earlier (firstMissing missing first members) (firstMissing missing second members) := by
  unfold firstMissing
  rw [List.find?_append]
  cases first.find? (· ∉ members.map (·.1)) with
  | none => rfl
  | some name =>
      refine (earlier_of_le ?_).symm
      intro later found
      obtain ⟨_, _, rfl⟩ := Option.map_eq_some_iff.1 found
      exact le_rfl

/-- What is met first is what is said against some member, with nothing against those before. -/
theorem first_problem_eq_some_iff {objects : Objections} {start members : List (String × Json)}
    {problem : Problem} : firstProblem objects start members = some problem ↔
      ∃ place member, members[place]? = some member ∧ problem.place = start.length + place ∧
        objects (start ++ members.take place) member = some problem.error ∧
        ∀ earlier < place, ∀ other, members[earlier]? = some other →
          objects (start ++ members.take earlier) other = none := by
  induction members generalizing start with
  | nil => simp [firstProblem]
  | cons head rest induction =>
      rw [firstProblem]
      cases own : objects start head with
      | some error =>
          constructor
          · intro first
            cases first
            exact ⟨0, head, rfl, rfl, by simpa using own, by simp⟩
          · rintro ⟨place, member, inside, position, said, silent⟩
            cases place with
            | zero =>
                cases inside
                rw [List.take_zero, List.append_nil, own] at said
                cases said
                cases problem
                cases position
                rfl
            | succ place =>
                have none := silent 0 (Nat.succ_pos place) head rfl
                rw [List.take_zero, List.append_nil, own] at none
                cases none
      | none =>
          have shifted (place : Nat) : start ++ (head :: rest).take (place + 1) =
              start ++ [head] ++ rest.take place := by simp
          refine induction.trans ?_
          constructor
          · rintro ⟨place, member, inside, position, said, silent⟩
            refine ⟨place + 1, member, inside, ?_, ?_, ?_⟩
            · rw [position, List.length_append, List.length_singleton]
              omega
            · rw [shifted]
              exact said
            · intro earlier before other found
              cases earlier with
              | zero =>
                  cases found
                  simpa using own
              | succ earlier =>
                  rw [shifted]
                  exact silent earlier (by omega) other found
          · rintro ⟨place, member, inside, position, said, silent⟩
            cases place with
            | zero =>
                cases inside
                rw [List.take_zero, List.append_nil, own] at said
                cases said
            | succ place =>
                refine ⟨place, member, inside, ?_, ?_, ?_⟩
                · rw [position, List.length_append, List.length_singleton]
                  omega
                · rw [← shifted]
                  exact said
                · intro earlier before other found
                  rw [← shifted]
                  exact silent (earlier + 1) (by omega) other found

end Json

namespace Fields

open Json (Objections firstProblem firstMissing)
open Problem (ofResult earlier)

/-- What a field has against a member under its name: that it is not the first one there, or
else what the decoder says of its value. -/
def objections (name : String) (decoder : Decoder α) (context : Context) : Objections :=
  fun before member =>
    if member.1 = name then
      if name ∈ before.map (·.1) then some (.mismatch (.duplicateField name))
      else
        match decoder context member.2.toSource with
        | .ok _ => none
        | .error error => some error
    else none

/-- The fields report what is met first by a reader with these objections, and after the
last member the first of the required names that is missing. -/
def ReportInOrder (fields : Fields α) (context : Context) (objects : Objections)
    (required : List String) : Prop :=
  ∀ (missing : String → DecodeError) (members : List (String × Json)),
    ofResult (fields.read context missing (memberSources members)) =
      earlier (firstProblem objects [] members) (firstMissing missing required members)

variable {name : String} {decoder : Decoder α} {context : Context}

/-- Once the name has been there, the next member under it is one too many. -/
theorem first_problem_of_repeated {before : List (String × Json)}
    (known : name ∈ before.map (·.1)) (members : List (String × Json)) :
    firstProblem (objections name decoder context) before members =
      (Members.having [name] before.length (memberSources members)).head?.map fun entry =>
        ⟨entry.1, .mismatch (.duplicateField name)⟩ := by
  induction members generalizing before with
  | nil => rfl
  | cons member rest induction =>
      obtain ⟨key, value⟩ := member
      rw [firstProblem, objections]
      by_cases own : key = name
      · simp [own, known, memberSources, Members.having]
      · have later := @induction (before ++ [(key, value)]) (by simp [known])
        rw [List.length_append, List.length_singleton] at later
        simpa [own, memberSources, Members.having] using later

/-- The first member under the name is read; after it no other may come. -/
theorem first_problem_of_fresh {before : List (String × Json)}
    (fresh : name ∉ before.map (·.1)) (members : List (String × Json)) :
    firstProblem (objections name decoder context) before members =
      match Members.having [name] before.length (memberSources members) with
      | [] => none
      | (place, source) :: again =>
          match decoder context source with
          | .error error => some ⟨place, error⟩
          | .ok _ => again.head?.map fun entry => ⟨entry.1, .mismatch (.duplicateField name)⟩ := by
  induction members generalizing before with
  | nil => rfl
  | cons member rest induction =>
      obtain ⟨key, value⟩ := member
      rw [firstProblem, objections]
      by_cases own : key = name
      · subst own
        simp only [if_true, if_neg fresh, memberSources, Members.having, List.mem_singleton]
        cases decoder context value.toSource with
        | error error => rfl
        | ok result =>
            have again := @first_problem_of_repeated _ key decoder context
              (before ++ [(key, value)]) (by simp) rest
            rw [List.length_append, List.length_singleton] at again
            exact again
      · have later := @induction (before ++ [(key, value)]) (by simpa [Ne.symm own] using fresh)
        rw [List.length_append, List.length_singleton] at later
        simpa [own, memberSources, Members.having] using later

theorem having_eq_nil_iff {members : List (String × Json)} :
    Members.having [name] 0 (memberSources members) = [] ↔ name ∉ members.map (·.1) := by
  have own := Members.having_member_sources [name] 0 members
  rw [← List.map_eq_nil_iff, own, List.map_eq_nil_iff, Json.valuesOf, List.map_eq_nil_iff,
    List.filter_eq_nil_iff, List.mem_map, not_exists]
  simp only [List.mem_singleton, decide_eq_true_eq, not_and]

theorem one_reports_in_order (name : String) (decoder : Decoder α) (absent : Option α)
    (context : Context) : (one ⟨name, []⟩ decoder absent).ReportInOrder context
      (objections name decoder context) (if absent.isSome then [] else [name]) := by
  intro missing members
  rw [first_problem_of_fresh (by simp)]
  simp only [one, FieldName.all]
  cases entries : Members.having [name] 0 (memberSources members) with
  | nil =>
      have lacking := having_eq_nil_iff.1 entries
      cases absent with
      | none => simp [firstMissing, lacking, earlier, ofResult, Json.member_sources_length]
      | some value => simp [firstMissing, earlier, ofResult]
  | cons entry again =>
      have present : name ∈ members.map (·.1) := by
        by_contra lacking
        rw [having_eq_nil_iff.2 lacking] at entries
        cases entries
      have nothing : firstMissing missing (if absent.isSome then [] else [name]) members = none := by
        cases absent <;> simp [firstMissing, present]
      obtain ⟨place, source⟩ := entry
      rw [nothing, Problem.earlier_none]
      dsimp only
      cases decoder context source with
      | error error => rfl
      | ok value => cases again <;> rfl

/-- What is missing comes after all members, whichever fields it is of. -/
theorem and_report_in_order {first : Fields α} {second : Fields β} {objects others : Objections}
    {required more : List String} (left : first.ReportInOrder context objects required)
    (right : second.ReportInOrder context others more) :
    (first.and second).ReportInOrder context (objects.or others) (required ++ more) := by
  intro missing members
  have apart : ∀ problem other, firstProblem others [] members = some problem →
      firstMissing missing required members = some other → problem.place < other.place := by
    intro problem other found lacking
    have inside := (Json.place_of_first_problem found).2
    obtain ⟨_, _, rfl⟩ := Option.map_eq_some_iff.1 lacking
    simp only [List.length_nil] at inside ⊢
    omega
  change ofResult (Problem.both (first.read context missing (memberSources members))
    (second.read context missing (memberSources members))) = _
  rw [Problem.of_result_both, left missing members, right missing members,
    Json.first_problem_or, Json.first_missing_append, Problem.earlier_assoc,
    Problem.earlier_assoc, ← Problem.earlier_assoc (firstMissing missing required members),
    Problem.earlier_comm apart, Problem.earlier_assoc]

end Fields

end MeshRouting

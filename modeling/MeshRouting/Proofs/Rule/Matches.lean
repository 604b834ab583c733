import MeshRouting.Decoding.Acceptance
import MeshRouting.Match.Building
import MeshRouting.Proofs.Text.Spelling

/-!
Which matches can be built. The conditions are those a caller can check on what was
written: no key that is unknown, one kind of match, and known words where words are
expected. They are stated without reference to how a match is built.
-/

namespace MeshRouting

open Text (Spells Alike find_keyword_exists_iff)

namespace MatchSpec

def methodNames : List String :=
  ["GET", "POST", "PUT", "DELETE", "PATCH", "HEAD", "OPTIONS", "CONNECT", "TRACE"]

def pathTypes : List String := ["exact", "prefix"]

def headerOperators : List String := ["exact", "contains", "prefix"]

/-- How many of the three kinds of match are there. -/
def kindCount (spec : MatchSpec) : Nat :=
  spec.methodMatch.isSome.toNat + spec.pathMatch.isSome.toNat + spec.headerMatches.isSome.toNat

structure WellFormed (spec : MatchSpec) : Prop where
  known : spec.unrecognized.members = []
  single : spec.kindCount = 1
  method : ∀ name, spec.methodMatch = some name → Spells methodNames name
  path : ∀ path, spec.pathMatch = some path → Spells pathTypes path.matchType
  headers : ∀ headers, spec.headerMatches = some headers →
    headers ≠ [] ∧ ∀ header ∈ headers, Spells headerOperators header.operator

end MatchSpec

namespace HttpMethod

theorem of_name_exists_iff (name : String) :
    (∃ method, ofName? name = some method) ↔ Spells MatchSpec.methodNames name := by
  unfold ofName?
  rw [find_keyword_exists_iff]
  simp [all, Spells, MatchSpec.methodNames, HttpMethod.name]

end HttpMethod

namespace PathMatchSpec

theorem build_exists_iff (spec : PathMatchSpec) :
    (∃ path, spec.build = .ok path) ↔ Spells MatchSpec.pathTypes spec.matchType := by
  have known : (∃ comparison, PathComparison.ofName? spec.matchType = some comparison) ↔
      Spells MatchSpec.pathTypes spec.matchType := by
    unfold PathComparison.ofName?
    rw [find_keyword_exists_iff]
    simp [PathComparison.all, Spells, MatchSpec.pathTypes, PathComparison.keyword]
  rw [← known, build]
  cases PathComparison.ofName? spec.matchType <;> simp

end PathMatchSpec

namespace HeaderMatchSpec

theorem build_exists_iff (spec : HeaderMatchSpec) :
    (∃ header, spec.build = .ok header) ↔ Spells MatchSpec.headerOperators spec.operator := by
  have known : (∃ comparison, HeaderComparison.ofName? spec.operator = some comparison) ↔
      Spells MatchSpec.headerOperators spec.operator := by
    unfold HeaderComparison.ofName?
    rw [find_keyword_exists_iff]
    simp [HeaderComparison.all, Spells, MatchSpec.headerOperators, HeaderComparison.keyword]
  rw [← known, build]
  cases HeaderComparison.ofName? spec.operator <;> simp

/-- A list of headers can be built if each header can; none is left out. -/
theorem build_all_exists_iff (specs : List HeaderMatchSpec) :
    (∃ headers, buildAll specs = .ok headers) ↔
      ∀ spec ∈ specs, Spells MatchSpec.headerOperators spec.operator := by
  induction specs with
  | nil => simp [buildAll]
  | cons spec rest induction =>
      rw [List.forall_mem_cons, ← induction, ← build_exists_iff, buildAll]
      cases spec.build with
      | error problem => simp [bind, Except.bind]
      | ok header => cases buildAll rest <;> simp [bind, Except.bind]

theorem build_all_length {specs : List HeaderMatchSpec} {headers : List HeaderMatch}
    (built : buildAll specs = .ok headers) : headers.length = specs.length := by
  induction specs generalizing headers with
  | nil =>
      cases built
      rfl
  | cons spec rest induction =>
      rw [buildAll] at built
      rcases Problem.bind_eq_ok_iff.1 built with ⟨header, _, built⟩
      rcases Problem.bind_eq_ok_iff.1 built with ⟨values, others, same⟩
      cases same
      rw [List.length_cons, List.length_cons, induction others]

/-- The only complaint about the headers of a list is an operator that is not known. -/
theorem build_all_problem {specs : List HeaderMatchSpec} {problem : MatchProblem}
    (failed : buildAll specs = .error problem) :
    ∃ operator header, problem = .unknownOperator operator header := by
  induction specs with
  | nil => cases failed
  | cons spec rest induction =>
      rw [buildAll] at failed
      cases found : HeaderComparison.ofName? spec.operator with
      | none =>
          simp only [build, found, bind, Except.bind, Except.error.injEq] at failed
          exact ⟨spec.operator, spec.headerName, failed.symm⟩
      | some comparison =>
          cases others : buildAll rest with
          | error later =>
              simp only [build, found, others, bind, Except.bind, Except.error.injEq] at failed
              subst failed
              exact induction others
          | ok headers => simp [build, found, others, bind, Except.bind] at failed

end HeaderMatchSpec

namespace MatchSpec

theorem build_method_exists_iff (name : String) :
    (∃ criterion, buildMethod name = .ok criterion) ↔ Spells methodNames name := by
  rw [← HttpMethod.of_name_exists_iff, buildMethod]
  cases HttpMethod.ofName? name <;> simp

theorem build_headers_exists_iff (specs : List HeaderMatchSpec) :
    (∃ criterion, buildHeaders specs = .ok criterion) ↔
      specs ≠ [] ∧ ∀ spec ∈ specs, Spells headerOperators spec.operator := by
  rw [← HeaderMatchSpec.build_all_exists_iff]
  cases specs with
  | nil => simp [buildHeaders]
  | cons spec rest =>
      rw [buildHeaders]
      · cases HeaderMatchSpec.buildAll (spec :: rest) <;> simp [Except.map]
      · simp

theorem build_of_unknown {spec : MatchSpec} (unknown : spec.unrecognized.members ≠ []) :
    spec.build = .error (.unrecognizedFields spec.unrecognized.keys) := by
  have present : spec.unrecognized.isEmpty = false := by
    simpa [FreeMembers.isEmpty] using unknown
  rw [build, present]
  rfl

/-- Without unknown keys it is the kinds that decide. -/
theorem build_of_known {spec : MatchSpec} (known : spec.unrecognized.members = []) :
    spec.build = match spec.methodMatch, spec.pathMatch, spec.headerMatches with
      | some name, none, none => buildMethod name
      | none, some path, none => path.build.map .path
      | none, none, some headers => buildHeaders headers
      | none, none, none => .error .noKind
      | _, _, _ => .error (.severalKinds spec.kinds) := by
  have absent : spec.unrecognized.isEmpty = true := by
    simp [FreeMembers.isEmpty, known]
  rw [build, absent]
  rfl

theorem build_exists_iff (spec : MatchSpec) :
    (∃ criterion, spec.build = .ok criterion) ↔ spec.WellFormed := by
  by_cases known : spec.unrecognized.members = []
  · have path (path : PathMatchSpec) :
        (∃ criterion, path.build.map Criterion.path = .ok criterion) ↔
          Spells pathTypes path.matchType := by
      rw [← PathMatchSpec.build_exists_iff]
      cases path.build <;> simp [Except.map]
    rw [build_of_known known]
    rcases spec with ⟨methodMatch, pathMatch, headerMatches, unrecognized⟩
    constructor
    · intro built
      cases methodMatch <;> cases pathMatch <;> cases headerMatches <;>
        simp only [reduceCtorEq, exists_false, build_method_exists_iff, path,
          build_headers_exists_iff] at built <;>
        refine ⟨known, ?_, ?_, ?_, ?_⟩ <;> simp_all [kindCount]
    · intro wellFormed
      rcases wellFormed with ⟨_, single, method, pathType, headers⟩
      cases methodMatch <;> cases pathMatch <;> cases headerMatches <;>
        simp_all [kindCount, build_method_exists_iff, build_headers_exists_iff]
  · constructor
    · intro success
      rcases success with ⟨criterion, built⟩
      rw [build_of_unknown known] at built
      cases built
    · intro wellFormed
      exact absurd wellFormed.known known

/-- A criterion is built from a match of its kind, with no other kind and no unknown key. -/
inductive BuiltFrom : MatchSpec → Criterion → Prop
  | method {name : String} {method : HttpMethod} (known : HttpMethod.ofName? name = some method) :
      BuiltFrom ⟨some name, none, none, .empty⟩ (.method method)
  | path {spec : PathMatchSpec} {path : PathMatch} (built : spec.build = .ok path) :
      BuiltFrom ⟨none, some spec, none, .empty⟩ (.path path)
  | headers {specs : List HeaderMatchSpec} {headers : List HeaderMatch} (nonempty : specs ≠ [])
      (built : HeaderMatchSpec.buildAll specs = .ok headers) :
      BuiltFrom ⟨none, none, some specs, .empty⟩ (.headers headers)

theorem build_method_eq_ok_iff {name : String} {criterion : Criterion} :
    buildMethod name = .ok criterion ↔
      ∃ method, HttpMethod.ofName? name = some method ∧ criterion = .method method := by
  unfold buildMethod
  cases HttpMethod.ofName? name with
  | none => simp
  | some method => simp [eq_comm]

theorem build_headers_eq_ok_iff {specs : List HeaderMatchSpec} {criterion : Criterion} :
    buildHeaders specs = .ok criterion ↔ specs ≠ [] ∧
      ∃ headers, HeaderMatchSpec.buildAll specs = .ok headers ∧ criterion = .headers headers := by
  cases specs with
  | nil => simp [buildHeaders]
  | cons spec rest =>
      rw [buildHeaders, Problem.map_eq_ok_iff]
      · simp [eq_comm]
      · simp

theorem build_eq_ok_iff {spec : MatchSpec} {criterion : Criterion} :
    spec.build = .ok criterion ↔ BuiltFrom spec criterion := by
  constructor
  · intro built
    have known := ((build_exists_iff spec).1 ⟨criterion, built⟩).known
    rw [build_of_known known] at built
    obtain ⟨methodMatch, pathMatch, headerMatches, members, canonical⟩ := spec
    change members = [] at known
    subst known
    cases methodMatch <;> cases pathMatch <;> cases headerMatches
    case some.none.none name =>
      obtain ⟨method, found, rfl⟩ := build_method_eq_ok_iff.1 built
      exact .method found
    case none.some.none path =>
      obtain ⟨matched, made, rfl⟩ := Problem.map_eq_ok_iff.1 built
      exact .path made
    case none.none.some specs =>
      obtain ⟨nonempty, headers, made, rfl⟩ := build_headers_eq_ok_iff.1 built
      exact .headers nonempty made
    all_goals cases built
  · intro built
    cases built with
    | method known => exact build_method_eq_ok_iff.2 ⟨_, known, rfl⟩
    | path built => exact Problem.map_eq_ok_iff.2 ⟨_, built, rfl⟩
    | headers nonempty built => exact build_headers_eq_ok_iff.2 ⟨nonempty, _, built, rfl⟩

/-- A criterion on headers has a header to compare. -/
theorem built_headers_nonempty {spec : MatchSpec} {headers : List HeaderMatch}
    (built : spec.build = .ok (.headers headers)) : headers ≠ [] := by
  cases build_eq_ok_iff.1 built with
  | headers nonempty all =>
      have size := HeaderMatchSpec.build_all_length all
      rintro rfl
      exact nonempty (List.length_eq_zero_iff.1 size.symm)

end MatchSpec

end MeshRouting

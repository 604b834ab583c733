import MeshRouting.Proofs.Rule.Meaning

/-!
What a match is built into. It says what the match says: the same texts, the same items in
the same order, and for each keyword the comparison that it is a spelling of. A
keyword is its letters, so it can be spelled in capitals and small letters as one likes, and
no other text is taken for it.
-/

namespace MeshRouting

open Text (Spells Alike Recased find_keyword_congr find_keyword_eq_some_iff letters_of_alike)

/-- A comparison regards case only if the caller asked for it. -/
structure PathMatchSpec.Yields (spec : PathMatchSpec) (path : PathMatch) : Prop where
  comparison : Alike path.comparison.keyword spec.matchType
  value : path.value = spec.value
  caseSensitive : path.caseSensitive = spec.caseSensitive.getD false

structure HeaderMatchSpec.Yields (spec : HeaderMatchSpec) (header : HeaderMatch) : Prop where
  name : header.name = spec.headerName
  comparison : Alike header.comparison.keyword spec.operator
  value : header.value = spec.value
  caseSensitive : header.caseSensitive = spec.caseSensitive.getD false

/-- Of the three kinds the one that is there becomes the criterion. -/
inductive MatchSpec.Yields : MatchSpec → Criterion → Prop
  | method {name : String} {method : HttpMethod} {others : FreeMembers}
      (alike : Alike method.name name) : Yields ⟨some name, none, none, others⟩ (.method method)
  | path {spec : PathMatchSpec} {path : PathMatch} {others : FreeMembers} (same : spec.Yields path) :
      Yields ⟨none, some spec, none, others⟩ (.path path)
  | headers {specs : List HeaderMatchSpec} {headers : List HeaderMatch} {others : FreeMembers}
      (nonempty : specs ≠ []) (same : List.Forall₂ HeaderMatchSpec.Yields specs headers) :
      Yields ⟨none, none, some specs, others⟩ (.headers headers)

/-- The same path, but for the case of a match type that is known. -/
structure PathMatchSpec.Recased (first second : PathMatchSpec) : Prop where
  matchType : Text.Recased MatchSpec.pathTypes first.matchType second.matchType
  value : first.value = second.value
  caseSensitive : first.caseSensitive = second.caseSensitive

structure HeaderMatchSpec.Recased (first second : HeaderMatchSpec) : Prop where
  headerName : first.headerName = second.headerName
  operator : Text.Recased MatchSpec.headerOperators first.operator second.operator
  value : first.value = second.value
  caseSensitive : first.caseSensitive = second.caseSensitive

structure MatchSpec.Recased (first second : MatchSpec) : Prop where
  method : Option.Rel (Text.Recased MatchSpec.methodNames) first.methodMatch second.methodMatch
  path : Option.Rel PathMatchSpec.Recased first.pathMatch second.pathMatch
  headers : Option.Rel (List.Forall₂ HeaderMatchSpec.Recased) first.headerMatches
    second.headerMatches
  unrecognized : first.unrecognized = second.unrecognized

namespace HttpMethod

theorem of_name_eq_some_iff {method : HttpMethod} {name : String} :
    ofName? name = some method ↔ Alike method.name name :=
  find_keyword_eq_some_iff method.of_name_name name

end HttpMethod

namespace PathComparison

theorem of_name_eq_some_iff {comparison : PathComparison} {name : String} :
    ofName? name = some comparison ↔ Alike comparison.keyword name := by
  have own : ofName? comparison.keyword = some comparison := by cases comparison <;> rfl
  exact find_keyword_eq_some_iff own name

end PathComparison

namespace HeaderComparison

theorem of_name_eq_some_iff {comparison : HeaderComparison} {name : String} :
    ofName? name = some comparison ↔ Alike comparison.keyword name := by
  have own : ofName? comparison.keyword = some comparison := by cases comparison <;> rfl
  exact find_keyword_eq_some_iff own name

end HeaderComparison

namespace PathMatchSpec

theorem build_iff_yields {spec : PathMatchSpec} {path : PathMatch} :
    spec.build = .ok path ↔ spec.Yields path := by
  rw [build_eq_ok_iff, PathComparison.of_name_eq_some_iff]
  exact ⟨fun built => ⟨built.1, built.2.1, built.2.2⟩, fun same => ⟨same.1, same.2, same.3⟩⟩

theorem build_recased {first second : PathMatchSpec} (recased : first.Recased second) :
    second.build = first.build := by
  obtain ⟨matchType, value, case⟩ := recased
  rcases matchType with same | ⟨known, alike⟩
  · cases first
    cases second
    cases same
    cases value
    cases case
    rfl
  · obtain ⟨path, built⟩ := (build_exists_iff first).2 known
    obtain ⟨found, sameValue, sameCase⟩ := build_eq_ok_iff.1 built
    have foundToo := (find_keyword_congr _ _ alike).symm.trans found
    rw [built, build_eq_ok_iff, ← value, ← case]
    exact ⟨foundToo, sameValue, sameCase⟩

end PathMatchSpec

namespace HeaderMatchSpec

theorem build_iff_yields {spec : HeaderMatchSpec} {header : HeaderMatch} :
    spec.build = .ok header ↔ spec.Yields header := by
  rw [build_eq_ok_iff, HeaderComparison.of_name_eq_some_iff]
  exact ⟨fun built => ⟨built.1, built.2.1, built.2.2.1, built.2.2.2⟩,
    fun same => ⟨same.1, same.2, same.3, same.4⟩⟩

theorem build_recased {first second : HeaderMatchSpec} (recased : first.Recased second) :
    second.build = first.build := by
  obtain ⟨name, operator, value, case⟩ := recased
  rcases operator with same | ⟨known, alike⟩
  · cases first
    cases second
    cases name
    cases same
    cases value
    cases case
    rfl
  · obtain ⟨header, built⟩ := (build_exists_iff first).2 known
    obtain ⟨sameName, found, sameValue, sameCase⟩ := build_eq_ok_iff.1 built
    have foundToo := (find_keyword_congr _ _ alike).symm.trans found
    rw [built, build_eq_ok_iff, ← name, ← value, ← case]
    exact ⟨sameName, foundToo, sameValue, sameCase⟩

theorem build_all_recased {first second : List HeaderMatchSpec}
    (recased : List.Forall₂ Recased first second) : buildAll second = buildAll first := by
  induction recased with
  | nil => rfl
  | cons head _ induction => rw [buildAll, buildAll, build_recased head, induction]

theorem build_eq_error_iff {spec : HeaderMatchSpec} {problem : MatchProblem} :
    spec.build = .error problem ↔ ¬ Spells MatchSpec.headerOperators spec.operator ∧
      problem = .unknownOperator spec.operator spec.headerName := by
  rw [← build_exists_iff]
  unfold build
  cases HeaderComparison.ofName? spec.operator <;> simp [eq_comm]

/-- The headers before the first one that cannot be built do no harm, and those after it
are not looked at. -/
theorem build_all_of_blamed {before after : List HeaderMatchSpec} {header : HeaderMatchSpec}
    {problem : MatchProblem} (built : ∀ earlier ∈ before, ∃ value, earlier.build = .ok value)
    (failed : header.build = .error problem) :
    buildAll (before ++ header :: after) = .error problem := by
  induction before with
  | nil =>
      rw [List.nil_append, buildAll, failed]
      rfl
  | cons earlier rest induction =>
      rw [List.forall_mem_cons] at built
      obtain ⟨⟨value, first⟩, others⟩ := built
      rw [List.cons_append, buildAll, first, induction others]
      rfl

theorem blamed_of_build_all {specs : List HeaderMatchSpec} {problem : MatchProblem}
    (failed : buildAll specs = .error problem) :
    ∃ before header after, specs = before ++ header :: after ∧
      (∀ earlier ∈ before, ∃ value, earlier.build = .ok value) ∧ header.build = .error problem := by
  induction specs with
  | nil => cases failed
  | cons spec rest induction =>
      rw [buildAll] at failed
      cases first : spec.build with
      | error own =>
          rw [first] at failed
          cases failed
          exact ⟨[], spec, rest, rfl, by simp, first⟩
      | ok value =>
          cases others : buildAll rest with
          | ok values =>
              rw [first, others] at failed
              cases failed
          | error later =>
              rw [first, others] at failed
              cases failed
              obtain ⟨before, header, after, rfl, built, blamed⟩ := induction others
              exact ⟨spec :: before, header, after, rfl,
                List.forall_mem_cons.2 ⟨⟨value, first⟩, built⟩, blamed⟩

/-- The operator that is blamed is the first one in the list that is not known. -/
theorem build_all_blames_iff {specs : List HeaderMatchSpec} {problem : MatchProblem} :
    buildAll specs = .error problem ↔ ∃ before header after, specs = before ++ header :: after ∧
      (∀ earlier ∈ before, Spells MatchSpec.headerOperators earlier.operator) ∧
      ¬ Spells MatchSpec.headerOperators header.operator ∧
      problem = .unknownOperator header.operator header.headerName := by
  constructor
  · intro failed
    obtain ⟨before, header, after, rfl, built, blamed⟩ := blamed_of_build_all failed
    refine ⟨before, header, after, rfl, ?_, build_eq_error_iff.1 blamed⟩
    intro earlier member
    exact (build_exists_iff earlier).1 (built earlier member)
  · rintro ⟨before, header, after, rfl, spelled, blamed⟩
    apply build_all_of_blamed _ (build_eq_error_iff.2 blamed)
    intro earlier member
    exact (build_exists_iff earlier).2 (spelled earlier member)

end HeaderMatchSpec

namespace MatchSpec

theorem build_iff_yields {spec : MatchSpec} (known : spec.unrecognized.members = [])
    {criterion : Criterion} : spec.build = .ok criterion ↔ spec.Yields criterion := by
  have headersSame {specs : List HeaderMatchSpec} {headers : List HeaderMatch} :
      HeaderMatchSpec.buildAll specs = .ok headers ↔
        List.Forall₂ HeaderMatchSpec.Yields specs headers := by
    rw [HeaderMatchSpec.build_all_eq_ok_iff]
    simp only [HeaderMatchSpec.build_iff_yields]
  rw [build_eq_ok_iff]
  constructor
  · intro built
    cases built with
    | method found => exact .method (HttpMethod.of_name_eq_some_iff.1 found)
    | path built => exact .path (PathMatchSpec.build_iff_yields.1 built)
    | headers nonempty built => exact .headers nonempty (headersSame.1 built)
  · obtain ⟨_, _, _, members, canonical⟩ := spec
    change members = [] at known
    subst known
    intro yields
    cases yields with
    | method alike => exact .method (HttpMethod.of_name_eq_some_iff.2 alike)
    | path same => exact .path (PathMatchSpec.build_iff_yields.2 same)
    | headers nonempty same => exact .headers nonempty (headersSame.2 same)

/-- Where headers are the only kind, their list decides. -/
theorem build_headers_eq_error_iff {spec : MatchSpec} (known : spec.unrecognized.members = [])
    (noMethod : spec.methodMatch = none) (noPath : spec.pathMatch = none)
    {specs : List HeaderMatchSpec} (headers : spec.headerMatches = some specs)
    (nonempty : specs ≠ []) {problem : MatchProblem} :
    spec.build = .error problem ↔ HeaderMatchSpec.buildAll specs = .error problem := by
  rw [build_of_known known, noMethod, noPath, headers]
  cases specs with
  | nil => exact absurd rfl nonempty
  | cons first rest =>
      simp only [buildHeaders]
      cases HeaderMatchSpec.buildAll (first :: rest) <;> simp [Except.map]

theorem build_headers_recased {first second : List HeaderMatchSpec}
    (recased : List.Forall₂ HeaderMatchSpec.Recased first second) :
    buildHeaders second = buildHeaders first := by
  have all := HeaderMatchSpec.build_all_recased recased
  cases recased with
  | nil => rfl
  | cons _ _ =>
      rw [buildHeaders, buildHeaders, all]
      · simp
      · simp

theorem build_method_recased {first second : String}
    (recased : Text.Recased methodNames first second) : buildMethod second = buildMethod first := by
  rcases recased with rfl | ⟨known, alike⟩
  · rfl
  · obtain ⟨method, found⟩ := (HttpMethod.of_name_exists_iff first).2 known
    have foundToo : HttpMethod.ofName? second = some method :=
      (find_keyword_congr _ _ alike).symm.trans found
    rw [buildMethod, buildMethod, found, foundToo]

/-- Known keywords may be spelled anew; also a match that is rejected for something else is
then rejected as before. -/
theorem build_recased {first second : MatchSpec} (recased : first.Recased second) :
    second.build = first.build := by
  obtain ⟨method, path, headers, same⟩ := recased
  obtain ⟨methodMatch, pathMatch, headerMatches, unrecognized⟩ := first
  obtain ⟨otherMethod, otherPath, otherHeaders, others⟩ := second
  cases same
  unfold build
  cases method <;> cases path <;> cases headers
  case some.none.none recased => simp only [build_method_recased recased]
  case none.some.none recased => simp only [PathMatchSpec.build_recased recased]
  case none.none.some recased => simp only [build_headers_recased recased]
  all_goals rfl

/-- The keywords of each kind of match. -/
def keywordLists : List (List String) := [methodNames, pathTypes, headerOperators]

/-- A keyword is written in ASCII letters only, and is known by them. -/
theorem keyword_of_spelling {keywords : List String} (listed : keywords ∈ keywordLists)
    {name : String} (spelled : Spells keywords name) :
    (∀ c ∈ name.toList, c.isAlpha = true) ∧ ∃! keyword, keyword ∈ keywords ∧ Alike keyword name := by
  have letters : ∀ keywords ∈ keywordLists, ∀ keyword ∈ keywords, ∀ c ∈ keyword.toList,
      c.isAlpha = true := by
    simp [keywordLists, methodNames, pathTypes, headerOperators]
  have distinct : ∀ keywords ∈ keywordLists, ∀ keyword ∈ keywords, ∀ other ∈ keywords,
      Text.sameIgnoringCase keyword other = true → keyword = other := by
    simp [keywordLists, methodNames, pathTypes, headerOperators, Text.sameIgnoringCase]
  obtain ⟨keyword, member, alike⟩ := spelled
  refine ⟨letters_of_alike alike (letters keywords listed keyword member), keyword,
    ⟨member, alike⟩, ?_⟩
  rintro other ⟨otherMember, otherAlike⟩
  apply distinct keywords listed other otherMember keyword member
  rw [Text.same_ignoring_case_iff]
  exact Text.alike_trans otherAlike (Text.alike_symm alike)

end MatchSpec

namespace RuleSpec

theorem build_match_eq_ok_iff {rule : RuleSpec} {criterion : Criterion} :
    rule.buildMatch.outcome = .ok criterion ↔ rule.matchSpec.build = .ok criterion := by
  rw [build_match_outcome]
  cases rule.matchSpec.build <;> simp [Except.mapError]

theorem build_match_eq_error_iff {rule : RuleSpec} {error : RuleError} :
    rule.buildMatch.outcome = .error error ↔
      ∃ problem, rule.matchSpec.build = .error problem ∧ error = .invalidMatch rule.name problem := by
  rw [build_match_outcome]
  cases rule.matchSpec.build <;> simp [Except.mapError, eq_comm]

/-- A match without unknown keys is built exactly if it is well formed, and is built into what
it says. A keyword is told by its ASCII letters in either case, and by nothing else. Of
headers that cannot all be built, the first one with an unknown operator is named. Spelling
known keywords anew changes nothing. -/
theorem matches_built_as_written (rule : RuleSpec)
    (known : rule.matchSpec.unrecognized.members = []) :
    ((∃ criterion, rule.buildMatch.outcome = .ok criterion) ↔ rule.matchSpec.WellFormed) ∧
    (∀ criterion, rule.buildMatch.outcome = .ok criterion ↔ rule.matchSpec.Yields criterion) ∧
    (∀ keywords ∈ MatchSpec.keywordLists, ∀ name, Spells keywords name →
      (∀ c ∈ name.toList, c.isAlpha = true) ∧
        ∃! keyword, keyword ∈ keywords ∧ Alike keyword name) ∧
    (∀ specs, rule.matchSpec.methodMatch = none → rule.matchSpec.pathMatch = none →
      rule.matchSpec.headerMatches = some specs → specs ≠ [] →
      ∀ error, rule.buildMatch.outcome = .error error ↔
        ∃ before header after, specs = before ++ header :: after ∧
          (∀ earlier ∈ before, Spells MatchSpec.headerOperators earlier.operator) ∧
          ¬ Spells MatchSpec.headerOperators header.operator ∧
          error = .invalidMatch rule.name (.unknownOperator header.operator header.headerName) ∧
          error.message = "invalid match in rule '" ++ rule.name ++ "': " ++
            ("unrecognized operator '" ++ header.operator ++ "' for header '" ++
              header.headerName ++ "'")) ∧
    ∀ other : RuleSpec, other.name = rule.name → rule.matchSpec.Recased other.matchSpec →
      other.buildMatch.outcome = rule.buildMatch.outcome := by
  refine ⟨?_, ?_, ?_, ?_, ?_⟩
  · simp only [build_match_eq_ok_iff]
    exact MatchSpec.build_exists_iff rule.matchSpec
  · intro criterion
    exact build_match_eq_ok_iff.trans (MatchSpec.build_iff_yields known)
  · intro keywords listed name spelled
    exact MatchSpec.keyword_of_spelling listed spelled
  · intro specs noMethod noPath headers nonempty error
    rw [build_match_eq_error_iff]
    simp only [MatchSpec.build_headers_eq_error_iff known noMethod noPath headers nonempty,
      HeaderMatchSpec.build_all_blames_iff]
    constructor
    · rintro ⟨_, ⟨before, header, after, split, spelled, unknown, rfl⟩, rfl⟩
      exact ⟨before, header, after, split, spelled, unknown, rfl, rfl⟩
    · rintro ⟨before, header, after, split, spelled, unknown, same, _⟩
      exact ⟨_, ⟨before, header, after, split, spelled, unknown, rfl⟩, same⟩
  · intro other name recased
    rw [build_match_outcome, build_match_outcome, MatchSpec.build_recased recased, name]

/-- The second operator has a dotless i in it, the third one is no operator at all. -/
def strayHeaders : List HeaderMatchSpec :=
  [⟨"X-Beta", "Prefix", "v", none⟩, ⟨"X-Group", "contaıns", "w", some true⟩,
    ⟨"X-Trace", "regex", "", none⟩]

def strayRule : RuleSpec := ⟨"beta", 9, .respond 200, ⟨none, none, some strayHeaders, .empty⟩⟩

def strayRuleRecased : RuleSpec :=
  ⟨"beta", 9, .respond 200, ⟨none, none,
    some (⟨"X-Beta", "pREFIX", "v", none⟩ :: strayHeaders.tail), .empty⟩⟩

/-- The header with the dotless i is named, in whichever case the operator before it is. -/
theorem stray_operator_named :
    strayRule.matchSpec.unrecognized.members = [] ∧
    strayRule.buildMatch.outcome =
      .error (.invalidMatch "beta" (.unknownOperator "contaıns" "X-Group")) ∧
    strayRuleRecased.buildMatch.outcome = strayRule.buildMatch.outcome := by
  have known : strayRule.matchSpec.unrecognized.members = [] := rfl
  obtain ⟨_, _, keywords, blamed, recased⟩ := matches_built_as_written strayRule known
  have spelled : Alike "prefix" "Prefix" := (Text.same_ignoring_case_iff _ _).1 (by decide)
  have spelledToo : Alike "Prefix" "pREFIX" := (Text.same_ignoring_case_iff _ _).1 (by decide)
  have first : Spells MatchSpec.headerOperators "Prefix" := ⟨"prefix", by decide, spelled⟩
  refine ⟨known, ?_, ?_⟩
  · apply (blamed strayHeaders rfl rfl rfl (by simp [strayHeaders]) _).2
    refine ⟨[⟨"X-Beta", "Prefix", "v", none⟩], _, _, rfl, ?_, ?_, rfl, rfl⟩
    · simpa using first
    · intro second
      have letters := (keywords _ (by simp [MatchSpec.keywordLists]) _ second).1
      exact absurd (letters 'ı' (by decide)) (by decide)
  · apply recased strayRuleRecased rfl
    refine ⟨.none, .none, .some (.cons ⟨rfl, .inr ⟨first, spelledToo⟩, rfl, rfl⟩ ?_), rfl⟩
    exact List.forall₂_same.2 fun header _ => ⟨rfl, .inl rfl, rfl, rfl⟩

end RuleSpec

end MeshRouting

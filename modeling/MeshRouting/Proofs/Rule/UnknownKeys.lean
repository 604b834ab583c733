import MeshRouting.Proofs.Json.Canonical
import MeshRouting.Proofs.Listener.Runs
import MeshRouting.Proofs.Rule.Reading
import MeshRouting.Proofs.Text.Utf8
import Mathlib

/-!
Keys that mean nothing. A key that is misspelled would make a rule match more than was
meant, so a rule with a key that is not known is always rejected. The keys survive both
readers of a rule, whatever stands under them, and the match is not looked at before they
have been reported.
-/

namespace MeshRouting

namespace MatchProblem

theorem append_ne_append {first second : String} (place : Nat)
    (inFirst : place < first.toList.length) (inSecond : place < second.toList.length)
    (differ : first.toList[place]? ≠ second.toList[place]?) (rest other : String) :
    first ++ rest ≠ second ++ other := by
  intro same
  apply differ
  have letters := congrArg (fun text => text.toList[place]?) same
  simp only [String.toList_append] at letters
  rwa [List.getElem?_append_left inFirst, List.getElem?_append_left inSecond] at letters

/-- No other report begins like that of unknown keys. The reports about a word that is not
recognized differ from it in the letter after the first blank, all others in the first. -/
theorem message_ne_unknown_keys {problem : MatchProblem}
    (other : ∀ keys, problem ≠ .unrecognizedFields keys) (rest : String) :
    problem.message ≠ "unrecognized field(s) " ++ rest := by
  cases problem with
  | unrecognizedFields keys => exact absurd rfl (other keys)
  | noKind =>
      change "one of methodMatch, pathMatch or headerMatches must be set" ≠ _
      rw [← @String.append_empty "one of methodMatch, pathMatch or headerMatches must be set"]
      exact append_ne_append 0 (by decide) (by decide) (by decide) _ _
  | severalKinds kinds =>
      change "only one of methodMatch, pathMatch or headerMatches may be set, got " ++ _ ≠ _
      exact append_ne_append 0 (by decide) (by decide) (by decide) _ _
  | unknownMethod name =>
      change "unrecognized HTTP method '" ++ name ++ "'" ≠ _
      rw [String.append_assoc]
      exact append_ne_append 13 (by decide) (by decide) (by decide) _ _
  | unknownPathType name =>
      change "unrecognized path match type '" ++ name ++ "'" ≠ _
      rw [String.append_assoc]
      exact append_ne_append 13 (by decide) (by decide) (by decide) _ _
  | noHeaders =>
      change "headerMatches must not be empty" ≠ _
      rw [← @String.append_empty "headerMatches must not be empty"]
      exact append_ne_append 0 (by decide) (by decide) (by decide) _ _
  | unknownOperator operator header =>
      change "unrecognized operator '" ++ operator ++ "' for header '" ++ header ++ "'" ≠ _
      rw [String.append_assoc, String.append_assoc, String.append_assoc]
      exact append_ne_append 13 (by decide) (by decide) (by decide) _ _

end MatchProblem

namespace MatchSpec

/-- Each kind of match has its own complaints, and none of them is about keys. -/
theorem build_problem_of_known {spec : MatchSpec} (known : spec.unrecognized.members = [])
    {problem : MatchProblem} (failed : spec.build = .error problem) (keys : List String) :
    problem ≠ .unrecognizedFields keys := by
  intro same
  subst same
  rw [build_of_known known] at failed
  split at failed
  case h_1 name _ _ _ =>
    unfold buildMethod at failed
    cases found : HttpMethod.ofName? name <;> simp [found] at failed
  case h_2 path _ _ _ =>
    unfold PathMatchSpec.build at failed
    cases found : PathComparison.ofName? path.matchType <;> simp [found, Except.map] at failed
  case h_3 headers _ _ _ =>
    cases headers with
    | nil => simp [buildHeaders] at failed
    | cons header rest =>
        simp only [buildHeaders] at failed
        cases others : HeaderMatchSpec.buildAll (header :: rest) with
        | ok values => simp [others, Except.map] at failed
        | error problem =>
            obtain ⟨operator, name, rfl⟩ := HeaderMatchSpec.build_all_problem others
            simp [others, Except.map] at failed
  all_goals cases failed

end MatchSpec

namespace RuleSpec

/-- The keys that are kept are those of the members that are not known. -/
theorem unrecognized_keys_iff {spec : RuleSpec} {members : List (String × Json)}
    (kept : spec.matchSpec.unrecognized = .ofList (Json.without knownKeys members))
    {key : String} :
    key ∈ spec.matchSpec.unrecognized.keys ↔
      key ∉ knownKeys ∧ ∃ member ∈ members, member.1 = key := by
  rw [kept, FreeMembers.mem_keys_of_list_iff, List.mem_map]
  constructor
  · intro listed
    rcases listed with ⟨member, inside, rfl⟩
    obtain ⟨present, unknown⟩ := Json.mem_without_iff.1 inside
    exact ⟨unknown, member, present, rfl⟩
  · intro strange
    rcases strange with ⟨unknown, member, present, rfl⟩
    exact ⟨member, Json.mem_without_iff.2 ⟨present, unknown⟩, rfl⟩

/-- Nothing is kept exactly if all keys of the members are known. -/
theorem unrecognized_eq_nil_iff {spec : RuleSpec} {members : List (String × Json)}
    (kept : spec.matchSpec.unrecognized = .ofList (Json.without knownKeys members)) :
    spec.matchSpec.unrecognized.members = [] ↔ ∀ member ∈ members, member.1 ∈ knownKeys := by
  rw [FreeMembers.members_eq_nil_iff]
  constructor
  · intro none member present
    by_contra strange
    exact none member.1 ((unrecognized_keys_iff kept).2 ⟨strange, member, present, rfl⟩)
  · intro allKnown key inside
    obtain ⟨strange, member, present, rfl⟩ := (unrecognized_keys_iff kept).1 inside
    exact strange (allKnown member present)

theorem rejected_of_unknown {spec : RuleSpec}
    (unknown : spec.matchSpec.unrecognized.members ≠ []) (set : RuleSet) :
    ∃ error, (spec.compile set).outcome = .error error := by
  cases outcome : (spec.compile set).outcome with
  | error error => exact ⟨error, rfl⟩
  | ok rule =>
      obtain ⟨_, _, wellFormed⟩ := (spec.compile_exists_iff set).1 ⟨rule, outcome⟩
      exact absurd wellFormed.known unknown

/-- An error about the match is the error of building the match. -/
theorem build_problem_of_compile {spec : RuleSpec} {set : RuleSet} {rule : String}
    {problem : MatchProblem} (failed : (spec.compile set).outcome = .error (.invalidMatch rule problem)) :
    spec.matchSpec.build = .error problem := by
  have compiled := spec.compiled_outcome set
  rw [failed] at compiled
  cases compiled with
  | noCriterion free resolvable built => exact built

end RuleSpec

namespace RoutingTable

/-- No key of a rule is ever dropped in silence. A text with a key that is not known is not
accepted by any table. If nothing is wrong with the priority and the action, the error
lists the unknown keys of the text, each once and in the order of their bytes. A text whose
keys are all known is never rejected for its keys. -/
theorem unknown_keys_rejected (text : String) (spec : RuleSpec)
    (decoded : RuleSpec.decoder.run text = .ok spec) :
    ∃ members, Decoder.json.run text = .ok (.object members) ∧ ∀ table : RoutingTable,
      ((∃ member ∈ members, member.1 ∉ RuleSpec.knownKeys) →
        (∃ error, (table.add spec).outcome = .error error) ∧ (table.add spec).table = table ∧
        (table.rules.containsPriority spec.priority = false →
          (∃ action, (spec.action.resolve spec.name).outcome = .ok action) →
          ∃ keys problem, (table.add spec).outcome = .error (.invalidMatch spec.name problem) ∧
            problem.message = "unrecognized field(s) " ++ ", ".intercalate keys ∧
            (keys.map Text.utf8).Pairwise (· < ·) ∧
            ∀ key, key ∈ keys ↔ key ∉ RuleSpec.knownKeys ∧ ∃ member ∈ members, member.1 = key)) ∧
      ((∀ member ∈ members, member.1 ∈ RuleSpec.knownKeys) →
        ∀ rule problem, (table.add spec).outcome = .error (.invalidMatch rule problem) →
          ∀ rest, problem.message ≠ "unrecognized field(s) " ++ rest) := by
  obtain ⟨members, whole, kept⟩ := RuleSpec.object_of_run decoded
  refine ⟨members, whole, ?_⟩
  intro table
  constructor
  · intro misspelled
    rcases misspelled with ⟨member, present, strange⟩
    have unknown : spec.matchSpec.unrecognized.members ≠ [] := by
      intro none
      exact strange ((RuleSpec.unrecognized_eq_nil_iff kept).1 none member present)
    obtain ⟨error, rejected⟩ := RuleSpec.rejected_of_unknown unknown table.rules
    rw [← add_outcome] at rejected
    refine ⟨⟨error, rejected⟩, add_table_of_error rejected, ?_⟩
    intro free resolves
    rcases resolves with ⟨action, resolved⟩
    have resolvable := (ActionSpec.resolve_eq_ok_iff.1 resolved).1
    refine ⟨spec.matchSpec.unrecognized.keys, .unrecognizedFields _, ?_, rfl, ?_, ?_⟩
    · rw [add_outcome]
      exact RuleSpec.compile_of_bad_match free resolvable (MatchSpec.build_of_unknown unknown)
    · rw [List.pairwise_map]
      exact (FreeMembers.keys_ascending _).imp Text.utf8_lt
    · intro key
      exact RuleSpec.unrecognized_keys_iff kept
  · intro allKnown rule problem rejected rest
    have known := (RuleSpec.unrecognized_eq_nil_iff kept).2 allKnown
    rw [add_outcome] at rejected
    have built := RuleSpec.build_problem_of_compile rejected
    exact MatchProblem.message_ne_unknown_keys (MatchSpec.build_problem_of_known known built) rest

/-- Two keys are misspelled, one of them stands in two places, and the values under them are
empty or null. -/
def misspelledText : String :=
  "\x7b\"name\":\"r\",\"pathMach\":null,\"priority\":1,\"action\":200," ++
  "\"methodMatch\":\"GET\",\"headerMach\":[],\"pathMach\":\x7b\x7d\x7d"

def misspelledSpec : RuleSpec :=
  ⟨"r", 1, .respond 200,
    ⟨some "GET", none, none, .ofList [("headerMach", .array []), ("pathMach", .object [])]⟩⟩

/-- A table without rules rejects the text and reports each misspelled key once. -/
theorem misspelled_text_rejected :
    RuleSpec.decoder.run misspelledText = .ok misspelledSpec ∧
    (plainTable.add misspelledSpec).table = plainTable ∧
    ∃ problem, (plainTable.add misspelledSpec).outcome = .error (.invalidMatch "r" problem) ∧
      problem.message = "unrecognized field(s) headerMach, pathMach" := by
  have decoded : RuleSpec.decoder.run misspelledText = .ok misspelledSpec := by cbv
  obtain ⟨members, whole, calls⟩ := unknown_keys_rejected misspelledText misspelledSpec decoded
  have text : Decoder.json.run misspelledText = .ok (.object
      [("name", .string "r"), ("pathMach", .null), ("priority", .number (.ofWord 1)),
        ("action", .number (.ofWord 200)), ("methodMatch", .string "GET"),
        ("headerMach", .array []), ("pathMach", .object [])]) := by cbv
  rw [text, Except.ok.injEq, Json.object.injEq] at whole
  subst whole
  obtain ⟨_, kept, reported⟩ := (calls plainTable).1 ⟨("pathMach", .null), by simp, by decide⟩
  obtain ⟨keys, problem, rejected, _, _, _⟩ := reported rfl ⟨_, rfl⟩
  have outcome : (plainTable.add misspelledSpec).outcome =
      .error (.invalidMatch "r" (.unrecognizedFields ["headerMach", "pathMach"])) := rfl
  refine ⟨decoded, kept, problem, rejected, ?_⟩
  rw [outcome] at rejected
  cases rejected
  rfl

end RoutingTable

end MeshRouting

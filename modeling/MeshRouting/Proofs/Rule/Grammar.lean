import MeshRouting.Proofs.Decoding.Shapes
import MeshRouting.Proofs.Json.Canonical
import MeshRouting.Proofs.Rule.Reading
import Mathlib

/-!
The grammar of rules. Which members a rule and its parts may have, what may stand under
each of them, and what is made of it; the members may come in any order. The decoders accept
this grammar and nothing else.
-/

namespace MeshRouting

open Json (memberSources valuesOf without IsText IsFlag IsWord IsList IsObject Once AtMostOnce
  RecordMembers)

namespace TargetReference

/-- The target has two names, of which one is used. Members of other keys mean nothing. -/
structure ToldBy (reference : TargetReference) (members : List (String × Json)) : Prop where
  target : Once IsText (valuesOf ["target", "targetGroupIdentifier"] members) reference.target
  weight : AtMostOnce IsWord (valuesOf ["weight"] members) reference.weight

def Shape (value : Json) (reference : TargetReference) : Prop :=
  ∃ members, RecordMembers ["target", "weight"] value members ∧ reference.ToldBy members

end TargetReference

/-- A number is a status, and an array lists targets. -/
inductive ActionSpec.Shape : Json → ActionSpec → Prop
  | status {value : Json} {status : UInt32} (number : value.IsWord status) :
      Shape value (.respond status)
  | targets {value : Json} {targets : List TargetReference}
      (references : value.IsList TargetReference.Shape targets) : Shape value (.forward targets)

namespace PathMatchSpec

/-- Members of other keys mean nothing. -/
structure ToldBy (spec : PathMatchSpec) (members : List (String × Json)) : Prop where
  matchType : Once IsText (valuesOf ["matchType"] members) spec.matchType
  value : Once IsText (valuesOf ["value"] members) spec.value
  caseSensitive : AtMostOnce IsFlag (valuesOf ["caseSensitive"] members) spec.caseSensitive

def Shape (value : Json) (spec : PathMatchSpec) : Prop :=
  ∃ members, RecordMembers ["matchType", "value", "caseSensitive"] value members ∧
    spec.ToldBy members

end PathMatchSpec

namespace HeaderMatchSpec

/-- Members of other keys mean nothing. -/
structure ToldBy (spec : HeaderMatchSpec) (members : List (String × Json)) : Prop where
  headerName : Once IsText (valuesOf ["headerName"] members) spec.headerName
  operator : Once IsText (valuesOf ["operator"] members) spec.operator
  value : Once IsText (valuesOf ["value"] members) spec.value
  caseSensitive : AtMostOnce IsFlag (valuesOf ["caseSensitive"] members) spec.caseSensitive

def Shape (value : Json) (spec : HeaderMatchSpec) : Prop :=
  ∃ members, RecordMembers ["headerName", "operator", "value", "caseSensitive"] value members ∧
    spec.ToldBy members

end HeaderMatchSpec

/-- The three kinds of match as members of an object. -/
structure MatchSpec.KindsToldBy (spec : MatchSpec) (members : List (String × Json)) : Prop where
  method : AtMostOnce IsText (valuesOf ["methodMatch"] members) spec.methodMatch
  path : AtMostOnce PathMatchSpec.Shape (valuesOf ["pathMatch"] members) spec.pathMatch
  headers : AtMostOnce (IsList HeaderMatchSpec.Shape) (valuesOf ["headerMatches"] members)
    spec.headerMatches

/-- A match that stands alone. Of the members with other keys the last one of each key is kept. -/
structure MatchSpec.ToldBy (spec : MatchSpec) (members : List (String × Json)) : Prop where
  kinds : spec.KindsToldBy members
  unrecognized :
    (Json.object (without ["methodMatch", "pathMatch", "headerMatches"] members)).ResolvesTo
      (.object spec.unrecognized.members)

/-- The members of a rule, its match among them. Of the members with other keys the last one
of each key is kept. -/
structure RuleSpec.ToldBy (spec : RuleSpec) (members : List (String × Json)) : Prop where
  name : Once IsText (valuesOf ["name"] members) spec.name
  priority : Once IsWord (valuesOf ["priority"] members) spec.priority
  action : Once ActionSpec.Shape (valuesOf ["action"] members) spec.action
  kinds : spec.matchSpec.KindsToldBy members
  unrecognized : (Json.object (without knownKeys members)).ResolvesTo
    (.object spec.matchSpec.unrecognized.members)

namespace TargetReference

theorem fields_read_exactly :
    fields.ReadExactly fun members reference => reference.ToldBy members := by
  have target := Fields.required_reads_exactly ⟨"target", ["targetGroupIdentifier"]⟩
    Decoder.string_reads_exactly
  have weight := Fields.optional_reads_exactly "weight" Decoder.word32_reads_exactly
    (by simp [IsWord])
  apply Fields.read_exactly_congr (Fields.map_reads_exactly _
    (Fields.and_reads_exactly target weight))
  intro members reference
  constructor
  · rintro ⟨parts, ⟨target, weight⟩, rfl⟩
    exact ⟨target, weight⟩
  · intro told
    exact ⟨(reference.target, reference.weight), ⟨told.target, told.weight⟩, rfl⟩

theorem decoder_reads_exactly : decoder.ReadsExactly Shape :=
  Decoder.record_reads_exactly "TargetReference" fields_read_exactly

end TargetReference

namespace ActionSpec

theorem decoder_reads_exactly : decoder.ReadsExactly Shape := by
  have status := Decoder.map_reads_exactly ActionSpec.respond Decoder.word32_reads_exactly
  have targets := Decoder.map_reads_exactly ActionSpec.forward
    (Decoder.list_reads_exactly TargetReference.decoder_reads_exactly)
  refine Decoder.reads_exactly_congr
    (Decoder.choice_reads_exactly "ActionSpec" status targets ?_) ?_
  · rintro value action another ⟨_, ⟨_, rfl⟩, _⟩ ⟨_, ⟨_, array, _⟩, _⟩
    cases array
  · intro value action
    constructor
    · rintro (⟨status, number, rfl⟩ | ⟨targets, references, rfl⟩)
      · exact .status number
      · exact .targets references
    · intro shape
      cases shape with
      | status number => exact .inl ⟨_, number, rfl⟩
      | targets references => exact .inr ⟨_, references, rfl⟩

/-- An action is read from a status or from a list of targets, and from nothing else. No
value can be taken for both, and all that is neither is rejected in the same words. -/
theorem action_texts_follow_grammar (text : String) :
    (∀ action, decoder.run text = .ok action ↔
      ∃ value, Decoder.json.run text = .ok value ∧ Shape value action) ∧
    (∀ context source, ¬ ((∃ status, Decoder.word32 context source = .ok status) ∧
      ∃ targets, Decoder.list TargetReference.decoder context source = .ok targets)) ∧
    ∀ value, Decoder.json.run text = .ok value → (∀ action, ¬ Shape value action) →
      ∃ mismatch, decoder.run text = .error (.mismatch mismatch) ∧
        mismatch.message = "data did not match any variant of untagged enum ActionSpec" := by
  refine ⟨?_, ?_, ?_⟩
  · intro action
    exact Decoder.run_eq_ok_iff_of_exact decoder_reads_exactly (Decoder.reads_whole_choice _ _)
  · rintro context source ⟨⟨status, number⟩, targets, list⟩
    obtain ⟨_, sources, _, rfl, _⟩ := Decoder.list_eq_ok_iff.1 list
    cases number
  · intro value read unshaped
    obtain ⟨_, _, nests⟩ := Decoder.source_of_json_run read
    rw [Decoder.run_of_json_run decoder read]
    cases decoded : decoder .start value.toSource with
    | ok action =>
        exact absurd ((decoder_reads_exactly .start _ _ nests).1 decoded) (unshaped action)
    | error error =>
        rw [Decoder.choice_rejects nests decoded]
        exact ⟨_, rfl, rfl⟩

/-- One target by its place and one by its other name, beside a member that means nothing. -/
def mixedTargetsText : String :=
  "[[\"a\", null], \x7b\"targetGroupIdentifier\": \"b\", \"note\": \"n\", \"weight\": 5\x7d]"

/-- The second target is named twice, once by each of its names. -/
def twiceNamedText : String :=
  "[[\"a\", null], \x7b\"target\": \"b\", \"targetGroupIdentifier\": \"b\"\x7d]"

theorem sample_action_texts_judged :
    decoder.run "404" = .ok (.respond 404) ∧
    decoder.run mixedTargetsText = .ok (.forward [⟨"a", none⟩, ⟨"b", some 5⟩]) ∧
    ∃ mismatch, decoder.run twiceNamedText = .error (.mismatch mismatch) ∧
      mismatch.message = "data did not match any variant of untagged enum ActionSpec" := by
  refine ⟨?_, ?_, ?_⟩
  · have read : Decoder.json.run "404" = .ok (.number (.integer 404 (by decide))) := by cbv
    exact ((action_texts_follow_grammar "404").1 _).2 ⟨_, read, .status ⟨by decide, rfl⟩⟩
  · have read : Decoder.json.run mixedTargetsText = .ok (.array [.array [.string "a", .null],
        .object [("targetGroupIdentifier", .string "b"), ("note", .string "n"),
          ("weight", .number (.integer 5 (by decide)))]]) := by cbv
    have first : TargetReference.Shape (.array [.string "a", .null]) ⟨"a", none⟩ :=
      ⟨_, .array (by decide), ⟨_, rfl, rfl⟩, .null⟩
    have second : TargetReference.Shape (.object [("targetGroupIdentifier", .string "b"),
        ("note", .string "n"), ("weight", .number (.integer 5 (by decide)))]) ⟨"b", some 5⟩ :=
      ⟨_, .object _, ⟨_, rfl, rfl⟩, .present ⟨by decide, rfl⟩⟩
    exact ((action_texts_follow_grammar mixedTargetsText).1 _).2
      ⟨_, read, .targets ⟨_, rfl, .cons first (.cons second .nil)⟩⟩
  · have read : Decoder.json.run twiceNamedText = .ok (.array [.array [.string "a", .null],
        .object [("target", .string "b"), ("targetGroupIdentifier", .string "b")]]) := by cbv
    apply (action_texts_follow_grammar twiceNamedText).2.2 _ read
    intro action shape
    cases shape with
    | status number =>
        obtain ⟨_, same⟩ := number
        cases same
    | targets references =>
        obtain ⟨_, same, paired⟩ := references
        cases same
        obtain ⟨_, _, _, others, _⟩ := List.forall₂_cons_left_iff.1 paired
        obtain ⟨_, _, second, _⟩ := List.forall₂_cons_left_iff.1 others
        obtain ⟨_, ⟨⟩, told⟩ := second
        obtain ⟨_, single, _⟩ := told.target
        simp [valuesOf] at single

end ActionSpec

namespace PathMatchSpec

theorem fields_read_exactly : fields.ReadExactly fun members spec => spec.ToldBy members := by
  have matchType := Fields.required_reads_exactly ⟨"matchType", []⟩ Decoder.string_reads_exactly
  have value := Fields.required_reads_exactly ⟨"value", []⟩ Decoder.string_reads_exactly
  have case := Fields.optional_reads_exactly "caseSensitive" Decoder.boolean_reads_exactly
    (by simp [IsFlag])
  apply Fields.read_exactly_congr (Fields.map_reads_exactly _
    (Fields.and_reads_exactly matchType (Fields.and_reads_exactly value case)))
  intro members spec
  constructor
  · rintro ⟨parts, ⟨matchType, value, case⟩, rfl⟩
    exact ⟨matchType, value, case⟩
  · intro told
    exact ⟨(spec.matchType, spec.value, spec.caseSensitive),
      ⟨told.matchType, told.value, told.caseSensitive⟩, rfl⟩

theorem decoder_reads_exactly : decoder.ReadsExactly Shape :=
  Decoder.record_reads_exactly "PathMatchSpec" fields_read_exactly

end PathMatchSpec

namespace HeaderMatchSpec

theorem fields_read_exactly : fields.ReadExactly fun members spec => spec.ToldBy members := by
  have headerName := Fields.required_reads_exactly ⟨"headerName", []⟩ Decoder.string_reads_exactly
  have operator := Fields.required_reads_exactly ⟨"operator", []⟩ Decoder.string_reads_exactly
  have value := Fields.required_reads_exactly ⟨"value", []⟩ Decoder.string_reads_exactly
  have case := Fields.optional_reads_exactly "caseSensitive" Decoder.boolean_reads_exactly
    (by simp [IsFlag])
  apply Fields.read_exactly_congr (Fields.map_reads_exactly _ (Fields.and_reads_exactly headerName
    (Fields.and_reads_exactly operator (Fields.and_reads_exactly value case))))
  intro members spec
  constructor
  · rintro ⟨parts, ⟨headerName, operator, value, case⟩, rfl⟩
    exact ⟨headerName, operator, value, case⟩
  · intro told
    exact ⟨(spec.headerName, spec.operator, spec.value, spec.caseSensitive),
      ⟨told.headerName, told.operator, told.value, told.caseSensitive⟩, rfl⟩

theorem decoder_reads_exactly : decoder.ReadsExactly Shape :=
  Decoder.record_reads_exactly "HeaderMatchSpec" fields_read_exactly

end HeaderMatchSpec

namespace MatchSpec

variable {context : Context} {members others : List (String × Json)} {spec : MatchSpec}

/-- The kinds of a match are told by what stands under their three keys. -/
theorem kinds_told_by_of_same
    (same : ∀ key ∈ fields.keys, valuesOf [key] others = valuesOf [key] members)
    (told : spec.KindsToldBy members) : spec.KindsToldBy others := by
  constructor
  · rw [same "methodMatch" (by decide)]
    exact told.method
  · rw [same "pathMatch" (by decide)]
    exact told.path
  · rw [same "headerMatches" (by decide)]
    exact told.headers

theorem kinds_read_iff {missing : String → DecodeError}
    (nest : Json.MembersNestWithin context.room members) :
    fields.read context missing (memberSources members) =
      .ok (spec.methodMatch, spec.pathMatch, spec.headerMatches) ↔ spec.KindsToldBy members := by
  have method := Fields.optional_reads_exactly MatchKind.method.key Decoder.string_reads_exactly
    (by simp [IsText])
  have path := Fields.optional_reads_exactly MatchKind.path.key
    PathMatchSpec.decoder_reads_exactly (by rintro _ ⟨_, ⟨⟩, _⟩)
  have headers := Fields.optional_reads_exactly MatchKind.headers.key
    (Decoder.list_reads_exactly HeaderMatchSpec.decoder_reads_exactly) (by simp [IsList])
  have kinds := Fields.and_reads_exactly method (Fields.and_reads_exactly path headers)
  refine (kinds context missing members _ nest).trans ?_
  constructor
  · rintro ⟨method, path, headers⟩
    exact ⟨method, path, headers⟩
  · intro told
    exact ⟨told.method, told.path, told.headers⟩

theorem decoder_reads_exactly :
    decoder.ReadsExactly (IsObject fun members spec => spec.ToldBy members) := by
  apply Decoder.object_reads_exactly
  intro context members spec nest
  rw [of_members_eq_ok_iff nest, kinds_read_iff nest, FreeMembers.eq_of_list_iff, keys_fields]
  constructor
  · rintro ⟨kinds, unrecognized⟩
    exact ⟨kinds, unrecognized⟩
  · intro told
    exact ⟨told.kinds, told.unrecognized⟩

end MatchSpec

namespace RuleSpec

variable {context : Context} {members : List (String × Json)} {spec : RuleSpec}

theorem own_read_iff {missing : String → DecodeError} {name : String} {priority : UInt32}
    {action : ActionSpec} (nest : Json.MembersNestWithin context.room members) :
    fields.read context missing (memberSources members) = .ok (name, priority, action) ↔
      Once IsText (valuesOf ["name"] members) name ∧
      Once IsWord (valuesOf ["priority"] members) priority ∧
      Once ActionSpec.Shape (valuesOf ["action"] members) action := by
  have name := Fields.required_reads_exactly ⟨"name", []⟩ Decoder.string_reads_exactly
  have priority := Fields.required_reads_exactly ⟨"priority", []⟩ Decoder.word32_reads_exactly
  have action := Fields.required_reads_exactly ⟨"action", []⟩ ActionSpec.decoder_reads_exactly
  have own := Fields.and_reads_exactly name (Fields.and_reads_exactly priority action)
  exact own context missing members _ nest

/-- The rule's own keys are not those of its match, which therefore sees all its members. -/
theorem read_from_iff (nest : Json.MembersNestWithin context.room members) :
    spec.ReadFrom context members ↔ spec.ToldBy members := by
  have apart : ∀ key ∈ MatchSpec.fields.keys, key ∉ fields.keys := by decide
  have same : ∀ key ∈ MatchSpec.fields.keys,
      valuesOf [key] (without fields.keys members) = valuesOf [key] members := by
    intro key known
    exact Json.values_of_without (by simpa using apart key known) members
  have kinds := @MatchSpec.kinds_read_iff { context with buffered := true } _ spec.matchSpec
    Decoder.missingField (Json.without_nests fields.keys nest)
  constructor
  · rintro ⟨own, kindsRead, kept⟩
    obtain ⟨name, priority, action⟩ := (own_read_iff nest).1 own
    have told := MatchSpec.kinds_told_by_of_same (fun key known => (same key known).symm)
      (kinds.1 kindsRead)
    exact ⟨name, priority, action, told, FreeMembers.eq_of_list_iff.1 kept⟩
  · intro told
    have kindsTold := MatchSpec.kinds_told_by_of_same same told.kinds
    exact ⟨(own_read_iff nest).2 ⟨told.name, told.priority, told.action⟩, kinds.2 kindsTold,
      FreeMembers.eq_of_list_iff.2 told.unrecognized⟩

theorem decoder_reads_exactly :
    decoder.ReadsExactly (IsObject fun members spec => spec.ToldBy members) := by
  apply Decoder.object_reads_exactly
  intro context members spec nest
  rw [of_members_eq_ok_iff nest, read_from_iff nest]

theorem decoder_reads_whole : decoder.ReadsWhole := by
  intro context source spec decoded
  obtain ⟨inner, members, rfl, same, nest, _⟩ := decoder_eq_ok_iff.1 decoded
  exact ⟨.object members, same, nest⟩

/-- A rule is read from the objects of its grammar, and from no other text. -/
theorem rule_texts_follow_grammar (text : String) (spec : RuleSpec) :
    decoder.run text = .ok spec ↔
      ∃ members, Decoder.json.run text = .ok (.object members) ∧ spec.ToldBy members := by
  rw [Decoder.run_eq_ok_iff_of_exact decoder_reads_exactly decoder_reads_whole]
  constructor
  · rintro ⟨value, read, members, rfl, told⟩
    exact ⟨members, read, told⟩
  · rintro ⟨members, read, told⟩
    exact ⟨.object members, read, members, rfl, told⟩

end RuleSpec

end MeshRouting

import MeshRouting.Proofs.Decoding.Wholeness
import MeshRouting.Rule.Spec

/-!
Which trees are read as a rule. The members of a rule are looked at twice, by the rule
itself and by its match; whatever neither of them knows is kept. So nothing in the text of
a rule escapes notice: its tree is that of a JSON object, and every member of the object
is either a field or among the unrecognized ones.
-/

namespace MeshRouting

open Json (Source memberSources without)

namespace Decoder

theorem object_eq_ok_iff {title : String}
    {read : Context → Members → Except DecodeError Unit → Except DecodeError α}
    {context : Context} {source : Source} {value : α} :
    object title read context source = .ok value ↔
      ∃ members fault inner, source = .object members fault ∧
        context = ⟨inner.room + 1, inner.buffered⟩ ∧ read inner members (endOf fault) = .ok value := by
  constructor
  · intro decoded
    unfold object at decoded
    split at decoded
    case h_1 members fault =>
      rcases Problem.bind_eq_ok_iff.1 decoded with ⟨inner, entered, inside⟩
      exact ⟨members, fault, inner, rfl, Context.enter_eq_ok_iff.1 entered, inside⟩
    case h_2 => cases decoded
  · intro inside
    rcases inside with ⟨members, fault, inner, rfl, room, decoded⟩
    apply Problem.bind_eq_ok_iff.2
    exact ⟨inner, Context.enter_eq_ok_iff.2 room, decoded⟩

end Decoder

namespace MatchSpec

theorem keys_fields : fields.keys = ["methodMatch", "pathMatch", "headerMatches"] := rfl

/-- The kinds of a match are read by its fields; all other members are kept. -/
theorem of_members_eq_ok_iff {context : Context} {members : List (String × Json)}
    (nests : Json.MembersNestWithin context.room members) {spec : MatchSpec} :
    ofMembers context (memberSources members) (.ok ()) = .ok spec ↔
      fields.read context Decoder.missingField (memberSources members) =
          .ok (spec.methodMatch, spec.pathMatch, spec.headerMatches) ∧
        spec.unrecognized = .ofList (without fields.keys members) := by
  unfold ofMembers
  rw [Problem.bind_eq_ok_iff]
  constructor
  · intro decoded
    rcases decoded with ⟨⟨⟨method, path, headers⟩, others⟩, result, built⟩
    rcases (Decoder.read_and_keep_member_sources_iff nests).1 result with ⟨read, same⟩
    cases built
    exact ⟨read, by rw [same]⟩
  · intro stated
    rcases stated with ⟨read, unrecognized⟩
    refine ⟨_, (Decoder.read_and_keep_member_sources_iff nests).2 ⟨read, rfl⟩, ?_⟩
    simp only [← unrecognized]

end MatchSpec

namespace RuleSpec

/-- The keys that mean something in a rule. -/
def knownKeys : List String :=
  ["name", "priority", "action", "methodMatch", "pathMatch", "headerMatches"]

theorem keys_fields : fields.keys = ["name", "priority", "action"] := rfl

theorem read_whole_fields : fields.ReadWhole := by
  have name := Fields.read_whole_one ⟨"name", []⟩ none Decoder.reads_whole_string
  have word : Decoder.word32.ReadsWhole := Decoder.reads_whole_map _ (Decoder.reads_whole_word _ _)
  have priority := Fields.read_whole_one ⟨"priority", []⟩ none word
  have choice : ActionSpec.decoder.ReadsWhole := Decoder.reads_whole_choice _ _
  have action := Fields.read_whole_one ⟨"action", []⟩ none choice
  exact Fields.read_whole_and name (Fields.read_whole_and priority action)

/-- The spec is what these members of an object say. -/
structure ReadFrom (spec : RuleSpec) (context : Context) (members : List (String × Json)) : Prop where
  own : fields.read context Decoder.missingField (memberSources members) =
    .ok (spec.name, spec.priority, spec.action)
  kinds : MatchSpec.fields.read { context with buffered := true } Decoder.missingField
    (memberSources (without fields.keys members)) =
      .ok (spec.matchSpec.methodMatch, spec.matchSpec.pathMatch, spec.matchSpec.headerMatches)
  unrecognized : spec.matchSpec.unrecognized = .ofList (without knownKeys members)

theorem of_members_eq_ok_iff {context : Context} {members : List (String × Json)}
    (nests : Json.MembersNestWithin context.room members) {spec : RuleSpec} :
    ofMembers context (memberSources members) (.ok ()) = .ok spec ↔ spec.ReadFrom context members := by
  have known : without MatchSpec.fields.keys (without fields.keys members) =
      without knownKeys members := Json.without_without _ _ _
  have ofOthers {matchSpec : MatchSpec} := @MatchSpec.of_members_eq_ok_iff
    { context with buffered := true } _ (Json.without_nests fields.keys nests) matchSpec
  rw [known] at ofOthers
  unfold ofMembers
  rw [Problem.bind_eq_ok_iff]
  constructor
  · intro decoded
    rcases decoded with ⟨⟨⟨name, priority, action⟩, others⟩, result, decoded⟩
    rcases (Decoder.read_and_keep_member_sources_iff nests).1 result with ⟨read, rfl⟩
    rcases Problem.bind_eq_ok_iff.1 decoded with ⟨matchSpec, matched, same⟩
    cases same
    rcases ofOthers.1 matched with ⟨kinds, unrecognized⟩
    exact ⟨read, kinds, unrecognized⟩
  · intro stated
    rcases stated with ⟨own, kinds, unrecognized⟩
    refine ⟨_, (Decoder.read_and_keep_member_sources_iff nests).2 ⟨own, rfl⟩, ?_⟩
    apply Problem.bind_eq_ok_iff.2
    exact ⟨spec.matchSpec, ofOthers.2 ⟨kinds, unrecognized⟩, rfl⟩

/-- A rule is read from the tree of an object and from nothing else. -/
theorem decoder_eq_ok_iff {context : Context} {source : Source} {spec : RuleSpec} :
    decoder context source = .ok spec ↔
      ∃ inner members, context = ⟨inner.room + 1, inner.buffered⟩ ∧
        source = (Json.object members).toSource ∧ Json.MembersNestWithin inner.room members ∧
        spec.ReadFrom inner members := by
  unfold decoder
  rw [Decoder.object_eq_ok_iff]
  constructor
  · intro inside
    rcases inside with ⟨sources, fault, inner, rfl, room, decoded⟩
    rcases Problem.bind_eq_ok_iff.1 decoded with ⟨⟨own, others⟩, both, _⟩
    rcases Decoder.read_and_keep_eq_ok_iff.1 both with ⟨read, kept, ending⟩
    have whole := read_whole_fields inner _ _ own read
    rcases Members.eq_member_sources_of_keep kept whole with ⟨members, rfl, nests, _⟩
    rw [ending] at decoded
    rw [Decoder.end_of_eq_ok_iff.1 ending]
    exact ⟨inner, members, room, rfl, nests, (of_members_eq_ok_iff nests).1 decoded⟩
  · intro stated
    rcases stated with ⟨inner, members, room, rfl, nests, read⟩
    exact ⟨memberSources members, none, inner, rfl, room, (of_members_eq_ok_iff nests).2 read⟩

/-- The text of a rule is the text of an object, whose members the rule was read from. -/
theorem object_of_run {text : String} {spec : RuleSpec} (decoded : decoder.run text = .ok spec) :
    ∃ members, Decoder.json.run text = .ok (.object members) ∧
      spec.matchSpec.unrecognized = .ofList (without knownKeys members) := by
  rcases Decoder.run_eq_ok_iff.1 decoded with ⟨root, trailing⟩
  rcases decoder_eq_ok_iff.1 root with ⟨inner, members, start, same, nests, read⟩
  refine ⟨members, Decoder.run_eq_ok_iff.2 ⟨?_, trailing⟩, read.unrecognized⟩
  rw [start, same]
  exact Decoder.whole_to_source (.object members) (inner.room + 1) nests

end RuleSpec

end MeshRouting

import MeshRouting.Proofs.Decoding.ReadingBack
import MeshRouting.Proofs.Json.Canonical
import MeshRouting.Proofs.Rule.Reading

/-!
Rules that are written and read again. The match stands among the keys of its rule, and
unknown keys stand among both; the rule comes back if no unknown key is one that means
something. Then each reader finds its own members and leaves the others.
-/

namespace MeshRouting

open Json (valuesOf without memberIfSome)

namespace PathMatchSpec

theorem reads_back (spec : PathMatchSpec) : decoder.ReadsBack spec.toJson spec := by
  obtain ⟨matchType, value, caseSensitive⟩ := spec
  have type := Decoder.string_reads_back matchType
  have text := Decoder.string_reads_back value
  have case := fun content (_ : caseSensitive = some content) => Decoder.boolean_reads_back content
  apply Decoder.record_reads_back
  apply Fields.map_reads_back (matchType, value, caseSensitive)
  refine Fields.and_reads_back (Fields.one_reads_back ?_ type) (Fields.and_reads_back
    (Fields.one_reads_back ?_ text) (Fields.optional_reads_back .bool ?_ (by simp) case))
  all_goals cases caseSensitive <;> simp [valuesOf, memberIfSome, FieldName.all]

end PathMatchSpec

namespace HeaderMatchSpec

theorem reads_back (spec : HeaderMatchSpec) : decoder.ReadsBack spec.toJson spec := by
  obtain ⟨headerName, operator, value, caseSensitive⟩ := spec
  have name := Decoder.string_reads_back headerName
  have comparison := Decoder.string_reads_back operator
  have text := Decoder.string_reads_back value
  have case := fun content (_ : caseSensitive = some content) => Decoder.boolean_reads_back content
  apply Decoder.record_reads_back
  apply Fields.map_reads_back (headerName, operator, value, caseSensitive)
  refine Fields.and_reads_back (Fields.one_reads_back ?_ name) (Fields.and_reads_back
    (Fields.one_reads_back ?_ comparison) (Fields.and_reads_back (Fields.one_reads_back ?_ text)
      (Fields.optional_reads_back .bool ?_ (by simp) case)))
  all_goals cases caseSensitive <;> simp [valuesOf, memberIfSome, FieldName.all]

end HeaderMatchSpec

namespace TargetReference

theorem reads_back (reference : TargetReference) :
    decoder.ReadsBack reference.toJson reference := by
  obtain ⟨target, weight⟩ := reference
  have name := Decoder.string_reads_back target
  have share := fun content (_ : weight = some content) => Decoder.word32_reads_back content
  apply Decoder.record_reads_back
  apply Fields.map_reads_back (target, weight)
  refine Fields.and_reads_back (Fields.one_reads_back ?_ name)
    (Fields.optional_reads_back (.number <| .ofWord ·) ?_ (by simp) share)
  all_goals cases weight <;> simp [valuesOf, memberIfSome, FieldName.all]

end TargetReference

namespace ActionSpec

/-- A status is a number and targets are an array, so that neither is read as the other. -/
theorem reads_back (action : ActionSpec) : decoder.ReadsBack action.toJson action := by
  cases action with
  | respond status =>
      apply Decoder.choice_reads_back []
      · exact Decoder.map_reads_back (Decoder.word32_reads_back status)
      · simp
  | forward targets =>
      apply Decoder.choice_reads_back [Decoder.word32.map ActionSpec.respond]
      · exact Decoder.map_reads_back
          (Decoder.list_reads_back fun reference _ => reference.reads_back)
      · intro other member context
        rw [List.mem_singleton] at member
        subst member
        exact ⟨_, rfl⟩

end ActionSpec

namespace MatchSpec

/-- No unknown key is the key of a kind of match, or of the rule around it. -/
def KeysApart (spec : MatchSpec) : Prop := ∀ key ∈ spec.unrecognized.keys, key ∉ RuleSpec.knownKeys

theorem unrecognized_apart {spec : MatchSpec} (apart : spec.KeysApart) {keys : List String}
    (known : keys ⊆ RuleSpec.knownKeys) : ∀ member ∈ spec.unrecognized.members, member.1 ∉ keys := by
  intro member inside present
  exact apart member.1 (List.mem_map_of_mem inside) (known present)

theorem fields_read_back {spec : MatchSpec} (apart : spec.KeysApart) :
    fields.ReadBack spec.members (spec.methodMatch, spec.pathMatch, spec.headerMatches) := by
  have strange {key : String} (known : key ∈ RuleSpec.knownKeys) :
      valuesOf [key] spec.unrecognized.members = [] :=
    Json.values_of_eq_nil (unrecognized_apart apart (by simpa using known))
  have method := fun name (_ : spec.methodMatch = some name) => Decoder.string_reads_back name
  have path := fun path (_ : spec.pathMatch = some path) => path.reads_back
  have headers := fun headers (_ : spec.headerMatches = some headers) =>
    Decoder.list_reads_back fun header (_ : header ∈ headers) => header.reads_back
  refine Fields.and_reads_back (Fields.optional_reads_back .string ?_ (by simp) method)
    (Fields.and_reads_back (Fields.optional_reads_back PathMatchSpec.toJson ?_
      (by simp [PathMatchSpec.toJson]) path) (Fields.optional_reads_back _ ?_ (by simp) headers))
  all_goals
    rw [members, Json.values_of_append, Json.values_of_append, Json.values_of_append,
      strange (by decide), Json.values_of_member_if_some, Json.values_of_member_if_some,
      Json.values_of_member_if_some]
    simp [MatchKind.key]

theorem without_known_members {spec : MatchSpec} (apart : spec.KeysApart) :
    without RuleSpec.knownKeys spec.members = spec.unrecognized.members := by
  rw [members, Json.without_append, Json.without_append, Json.without_append,
    Json.without_member_if_some (by decide), Json.without_member_if_some (by decide),
    Json.without_member_if_some (by decide),
    Json.without_eq_self (unrecognized_apart apart (List.Subset.refl _))]
  rfl

/-- The rule's own keys are not among those of its match. -/
theorem members_apart {spec : MatchSpec} (apart : spec.KeysApart) :
    ∀ member ∈ spec.members, member.1 ∉ RuleSpec.fields.keys := by
  rw [RuleSpec.keys_fields, members]
  simp only [List.forall_mem_append]
  refine ⟨⟨⟨?_, ?_⟩, ?_⟩, unrecognized_apart apart (by decide)⟩
  · cases spec.methodMatch <;> simp [memberIfSome, MatchKind.key]
  · cases spec.pathMatch <;> simp [memberIfSome, MatchKind.key]
  · cases spec.headerMatches <;> simp [memberIfSome, MatchKind.key]

end MatchSpec

namespace RuleSpec

/-- The members of a rule before those of its match. -/
def ownMembers (spec : RuleSpec) : List (String × Json) :=
  [("name", .string spec.name), ("priority", .number (.ofWord spec.priority)),
    ("action", spec.action.toJson)]

theorem to_json_eq (spec : RuleSpec) :
    spec.toJson = .object (spec.ownMembers ++ spec.matchSpec.members) := rfl

theorem fields_read_back {spec : RuleSpec} (apart : spec.matchSpec.KeysApart) :
    fields.ReadBack (spec.ownMembers ++ spec.matchSpec.members)
      (spec.name, spec.priority, spec.action) := by
  have strange {key : String} (known : key ∈ fields.keys) :
      valuesOf [key] spec.matchSpec.members = [] := by
    apply Json.values_of_eq_nil
    intro member inside same
    rw [List.mem_singleton] at same
    exact MatchSpec.members_apart apart member inside (same ▸ known)
  refine Fields.and_reads_back (Fields.one_reads_back ?_ (Decoder.string_reads_back spec.name))
    (Fields.and_reads_back (Fields.one_reads_back ?_ (Decoder.word32_reads_back spec.priority))
      (Fields.one_reads_back ?_ spec.action.reads_back))
  all_goals
    rw [FieldName.all, Json.values_of_append, strange (by decide)]
    rfl

theorem reads_back {spec : RuleSpec} (apart : spec.matchSpec.KeysApart) :
    decoder.ReadsBack spec.toJson spec := by
  intro context nest
  rcases context with ⟨room, buffered⟩
  rw [to_json_eq] at nest ⊢
  cases room with
  | zero => exact nest.elim
  | succ room =>
      have others : without fields.keys (spec.ownMembers ++ spec.matchSpec.members) =
          spec.matchSpec.members := by
        rw [Json.without_append, Json.without_eq_self (MatchSpec.members_apart apart)]
        rfl
      have unknown : without knownKeys (spec.ownMembers ++ spec.matchSpec.members) =
          spec.matchSpec.unrecognized.members := by
        rw [Json.without_append, MatchSpec.without_known_members apart]
        rfl
      refine decoder_eq_ok_iff.2 ⟨⟨room, buffered⟩, _, rfl, rfl, nest, ?_, ?_, ?_⟩
      · exact fields_read_back apart ⟨room, buffered⟩ _ nest
      · rw [others]
        exact MatchSpec.fields_read_back apart ⟨room, true⟩ _ nest.2.2.2
      · rw [unknown, FreeMembers.of_list_members]

/-- A rule that was decoded keeps no key that means something among its unknown ones. -/
theorem keys_apart_of_decoded {context : Context} {source : Json.Source} {spec : RuleSpec}
    (decoded : decoder context source = .ok spec) : spec.matchSpec.KeysApart := by
  obtain ⟨inner, members, _, _, _, read⟩ := decoder_eq_ok_iff.1 decoded
  intro key inside
  rw [read.unrecognized, FreeMembers.mem_keys_of_list_iff] at inside
  obtain ⟨member, unknown, rfl⟩ := List.mem_map.1 inside
  exact (Json.mem_without_iff.1 unknown).2

end RuleSpec

end MeshRouting

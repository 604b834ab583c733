import MeshRouting.Proofs.Decoding.Texts
import MeshRouting.Proofs.Rule.RoundTrip

/-!
What rules look like when they are written. A rule that was decoded is written no deeper
than it was read; and there are binary64 numbers only in the values under unknown keys.
-/

namespace MeshRouting

namespace PathMatchSpec

theorem writes_within : decoder.WritesWithin toJson := by
  have type := Fields.required_writes_within "matchType" [] Decoder.string_writes_within
  have value := Fields.required_writes_within "value" [] Decoder.string_writes_within
  have case := Fields.optional_writes_within "caseSensitive" Decoder.boolean_writes_within
  apply Decoder.record_writes_within
  apply Fields.map_writes_within
  exact Fields.and_writes_within type (Fields.and_writes_within value case)

theorem float_free (spec : PathMatchSpec) : spec.toJson.FloatFree :=
  ⟨trivial, trivial, Json.member_if_some_float_free _ .bool fun _ _ => trivial⟩

end PathMatchSpec

namespace HeaderMatchSpec

theorem writes_within : decoder.WritesWithin toJson := by
  have name := Fields.required_writes_within "headerName" [] Decoder.string_writes_within
  have operator := Fields.required_writes_within "operator" [] Decoder.string_writes_within
  have value := Fields.required_writes_within "value" [] Decoder.string_writes_within
  have case := Fields.optional_writes_within "caseSensitive" Decoder.boolean_writes_within
  apply Decoder.record_writes_within
  apply Fields.map_writes_within
  exact Fields.and_writes_within name (Fields.and_writes_within operator
    (Fields.and_writes_within value case))

theorem float_free (spec : HeaderMatchSpec) : spec.toJson.FloatFree :=
  ⟨trivial, trivial, trivial, Json.member_if_some_float_free _ .bool fun _ _ => trivial⟩

end HeaderMatchSpec

namespace TargetReference

theorem writes_within : decoder.WritesWithin toJson := by
  have target := Fields.required_writes_within "target" ["targetGroupIdentifier"]
    Decoder.string_writes_within
  have weight := Fields.optional_writes_within "weight" Decoder.word32_writes_within
  apply Decoder.record_writes_within
  apply Fields.map_writes_within
  exact Fields.and_writes_within target weight

theorem float_free (reference : TargetReference) : reference.toJson.FloatFree :=
  ⟨trivial, Json.member_if_some_float_free _ (.number <| .ofWord ·) fun _ _ => trivial⟩

end TargetReference

namespace ActionSpec

theorem writes_within : decoder.WritesWithin toJson := by
  apply Decoder.choice_writes_within
  simp only [List.forall_mem_cons, List.not_mem_nil, false_implies, implies_true, and_true]
  constructor
  · exact Decoder.map_writes_within Decoder.word32_writes_within
  · exact Decoder.map_writes_within (Decoder.list_writes_within TargetReference.writes_within)

theorem float_free (action : ActionSpec) : action.toJson.FloatFree := by
  cases action with
  | respond status => trivial
  | forward targets =>
      apply Json.written_items_float_free_iff.2
      intro reference _
      exact reference.float_free

end ActionSpec

namespace MatchSpec

theorem members_nest {context : Context} {missing : String → DecodeError} {sources : Members}
    {spec : MatchSpec}
    (read : fields.read context missing sources =
      .ok (spec.methodMatch, spec.pathMatch, spec.headerMatches))
    (others : Json.MembersNestWithin context.room spec.unrecognized.members) :
    Json.MembersNestWithin context.room spec.members := by
  have method := Fields.optional_writes_within MatchKind.method.key Decoder.string_writes_within
  have path := Fields.optional_writes_within MatchKind.path.key PathMatchSpec.writes_within
  have headers := Fields.optional_writes_within MatchKind.headers.key
    (Decoder.list_writes_within HeaderMatchSpec.writes_within)
  have kinds := Fields.and_writes_within method (Fields.and_writes_within path headers)
    context missing sources _ read
  rw [Json.members_nest_append, Json.members_nest_append] at kinds
  rw [members, Json.members_nest_append, Json.members_nest_append, Json.members_nest_append]
  exact ⟨⟨⟨kinds.1, kinds.2.1⟩, kinds.2.2⟩, others⟩

theorem members_float_free {spec : MatchSpec}
    (free : Json.FloatFreeMembers spec.unrecognized.members) :
    Json.FloatFreeMembers spec.members := by
  have headers (headers : List HeaderMatchSpec) :
      (Json.array (headers.map HeaderMatchSpec.toJson)).FloatFree := by
    apply Json.written_items_float_free_iff.2
    intro header _
    exact header.float_free
  rw [members, Json.members_float_free_append, Json.members_float_free_append,
    Json.members_float_free_append]
  refine ⟨⟨⟨?_, ?_⟩, ?_⟩, free⟩
  · exact Json.member_if_some_float_free _ .string fun _ _ => trivial
  · exact Json.member_if_some_float_free _ _ fun path _ => path.float_free
  · exact Json.member_if_some_float_free _ _ fun content _ => headers content

end MatchSpec

namespace RuleSpec

theorem writes_within : decoder.WritesWithin toJson := by
  intro context source spec decoded
  rcases decoder_eq_ok_iff.1 decoded with ⟨inner, members, rfl, _, nest, read⟩
  have name := Fields.required_writes_within "name" [] Decoder.string_writes_within
  have priority := Fields.required_writes_within "priority" [] Decoder.word32_writes_within
  have action := Fields.required_writes_within "action" [] ActionSpec.writes_within
  have own := Fields.and_writes_within name (Fields.and_writes_within priority action)
    inner _ _ _ read.own
  have unknown : Json.MembersNestWithin inner.room spec.matchSpec.unrecognized.members := by
    rw [read.unrecognized]
    apply Json.normalize_members_nest
    exact Json.without_nests knownKeys nest
  have kinds := MatchSpec.members_nest read.kinds unknown
  change Json.MembersNestWithin inner.room (spec.ownMembers ++ spec.matchSpec.members)
  rw [Json.members_nest_append]
  exact ⟨own, kinds⟩

theorem float_free {spec : RuleSpec}
    (free : Json.FloatFreeMembers spec.matchSpec.unrecognized.members) : spec.toJson.FloatFree :=
  ⟨trivial, trivial, spec.action.float_free, MatchSpec.members_float_free free⟩

end RuleSpec

end MeshRouting

import MeshRouting.Listener.Config
import MeshRouting.Proofs.Rule.Writing
import Mathlib

/-!
Configurations that are written and read again. Only the six keys that mean something in a
rule can come back as something else, when they stand among the unknown ones; and decoding
never puts them there.
-/

namespace MeshRouting

open Json (valuesOf memberIfSome)

namespace Protocol

theorem reads_back (protocol : Protocol) : decoder.ReadsBack protocol.toJson protocol := by
  intro context _
  cases protocol <;> rfl

theorem writes_within : decoder.WritesWithin toJson := by
  intro context source protocol _
  trivial

end Protocol

namespace Listener

theorem reads_back (listener : Listener) : decoder.ReadsBack listener.toJson listener := by
  obtain ⟨name, protocol, explicitPort, serviceIdentifier, defaultAction⟩ := listener
  have title := Decoder.string_reads_back name
  have port := fun content (_ : explicitPort = some content) => Decoder.word16_reads_back content
  have service := Decoder.string_reads_back serviceIdentifier
  apply Decoder.record_reads_back
  apply Fields.map_reads_back (name, protocol, explicitPort, serviceIdentifier, defaultAction)
  refine Fields.and_reads_back (Fields.one_reads_back ?_ title) (Fields.and_reads_back
    (Fields.one_reads_back ?_ protocol.reads_back) (Fields.and_reads_back
      (Fields.optional_reads_back (.number <| .ofPort ·) ?_ (by simp) port) (Fields.and_reads_back
        (Fields.one_reads_back ?_ service) (Fields.one_reads_back ?_ defaultAction.reads_back))))
  all_goals cases explicitPort <;> simp [valuesOf, memberIfSome, FieldName.all]

theorem writes_within : decoder.WritesWithin toJson := by
  have name := Fields.required_writes_within "name" [] Decoder.string_writes_within
  have protocol := Fields.required_writes_within "protocol" [] Protocol.writes_within
  have port := Fields.optional_writes_within "port" Decoder.word16_writes_within
  have service := Fields.required_writes_within "serviceIdentifier" [] Decoder.string_writes_within
  have action := Fields.required_writes_within "defaultAction" [] ActionSpec.writes_within
  apply Decoder.record_writes_within
  apply Fields.map_writes_within
  exact Fields.and_writes_within name (Fields.and_writes_within protocol
    (Fields.and_writes_within port (Fields.and_writes_within service action)))

theorem float_free (listener : Listener) : listener.toJson.FloatFree := by
  have port : Json.FloatFreeMembers
      (memberIfSome "port" (.number <| .ofPort ·) listener.explicitPort) :=
    Json.member_if_some_float_free _ _ fun _ _ => trivial
  refine ⟨trivial, trivial, Json.members_float_free_append.2 ⟨port, trivial, ?_, trivial⟩⟩
  exact listener.defaultAction.float_free

end Listener

namespace ListenerConfig

/-- No unknown key of a rule is one that means something in a rule. -/
def KeysApart (config : ListenerConfig) : Prop := ∀ spec ∈ config.rules, spec.matchSpec.KeysApart

/-- There is no binary64 number under the unknown keys of the rules. -/
def FloatFree (config : ListenerConfig) : Prop :=
  ∀ spec ∈ config.rules, Json.FloatFreeMembers spec.matchSpec.unrecognized.members

theorem reads_back {config : ListenerConfig} (apart : config.KeysApart) :
    decoder.ReadsBack config.toJson config := by
  obtain ⟨listener, rules⟩ := config
  have all := Decoder.list_reads_back fun spec member => RuleSpec.reads_back (apart spec member)
  apply Decoder.record_reads_back
  apply Fields.map_reads_back (listener, rules)
  refine Fields.and_reads_back (Fields.one_reads_back ?_ listener.reads_back)
    (Fields.one_reads_back ?_ all)
  all_goals simp [valuesOf, FieldName.all]

theorem float_free {config : ListenerConfig} (free : config.FloatFree) :
    config.toJson.FloatFree := by
  have rules : Json.FloatFreeItems (config.rules.map RuleSpec.toJson) := by
    rw [Json.written_items_float_free_iff]
    intro spec inside
    exact RuleSpec.float_free (free spec inside)
  exact ⟨config.listener.float_free, rules, trivial⟩

/-- A configuration is read from a listener and from rules, one level below its bracket. -/
theorem parts_of_decoded {context : Context} {source : Json.Source} {config : ListenerConfig}
    (decoded : decoder context source = .ok config) :
    ∃ inner : Context, context = ⟨inner.room + 1, inner.buffered⟩ ∧
      (∃ part, Listener.decoder inner part = .ok config.listener) ∧
      (config.rules = [] ∨ ∃ part, RuleSpec.decoder.list inner part = .ok config.rules) := by
  obtain ⟨inner, missing, room, read⟩ := Decoder.fields_of_record decoded
  obtain ⟨⟨listener, rules⟩, both, rfl⟩ := Fields.map_eq_ok_iff.1 read
  obtain ⟨first, second⟩ := Fields.and_eq_ok_iff.1 both
  obtain ⟨part, _, ofListener⟩ := Fields.value_of_required first
  refine ⟨inner, room, ⟨part, ofListener⟩, ?_⟩
  rcases Fields.value_of_one second with ⟨_, absent⟩ | ⟨part, _, decoded⟩
  · cases absent
    exact .inl rfl
  · exact .inr ⟨part, decoded⟩

theorem keys_apart_of_decoded {context : Context} {source : Json.Source} {config : ListenerConfig}
    (decoded : decoder context source = .ok config) : config.KeysApart := by
  obtain ⟨_, _, _, none | ⟨part, read⟩⟩ := parts_of_decoded decoded
  · intro spec member
    rw [none] at member
    cases member
  · intro spec member
    obtain ⟨inner, _, each⟩ := Decoder.source_of_list_item read
    obtain ⟨source, inside⟩ := each spec member
    exact RuleSpec.keys_apart_of_decoded inside

/-- Rules that are left out are written as an empty array, for which there is room. -/
theorem nests_of_decoded {source : Json.Source} {config : ListenerConfig}
    (decoded : decoder .start source = .ok config) : config.toJson.NestsWithin 127 := by
  obtain ⟨inner, start, ⟨part, ofListener⟩, ofRules⟩ := parts_of_decoded decoded
  have room : inner.room = 126 := by
    have same : 127 = inner.room + 1 := congrArg Context.room start
    omega
  have listener := Listener.writes_within inner part config.listener ofListener
  have rules : (Json.array (config.rules.map RuleSpec.toJson)).NestsWithin inner.room := by
    rcases ofRules with none | ⟨part, read⟩
    · rw [none, room]
      trivial
    · exact Decoder.list_writes_within RuleSpec.writes_within inner part config.rules read
  rw [room] at listener rules
  exact ⟨listener, rules, trivial⟩

theorem run_write {config : ListenerConfig} {layout : Json.Layout} (blank : layout.Blank)
    (apart : config.KeysApart) (free : config.FloatFree) (nests : config.toJson.NestsWithin 127) :
    decoder.run (String.ofList (config.toJson.write layout 0)) = .ok config :=
  Decoder.run_write blank (reads_back apart) (float_free free) nests

/-- Decoding undoes writing. A configuration whose rules have no known key among their
unknown ones comes back from its text, in every layout. Every decoded configuration is of
this kind; so what was decoded can be written and decoded again, and loading the new text
does the same as loading the old one. -/
theorem decoding_undoes_writing (layout : Json.Layout) (blank : layout.Blank) :
    (∀ config : ListenerConfig, config.KeysApart → config.FloatFree →
      config.toJson.NestsWithin 127 →
        decoder.run (String.ofList (config.toJson.write layout 0)) = .ok config) ∧
    ∀ text config, decoder.run text = .ok config → config.KeysApart ∧
      (config.FloatFree →
        decoder.run (String.ofList (config.toJson.write layout 0)) = .ok config ∧
        RoutingTable.ofText (String.ofList (config.toJson.write layout 0)) =
          RoutingTable.ofText text) := by
  constructor
  · intro config apart free nests
    exact run_write blank apart free nests
  · intro text config decoded
    obtain ⟨root, _⟩ := Decoder.run_eq_ok_iff.1 decoded
    have apart := keys_apart_of_decoded root
    refine ⟨apart, ?_⟩
    intro free
    have again := run_write blank apart free (nests_of_decoded root)
    refine ⟨again, ?_⟩
    rw [RoutingTable.ofText, RoutingTable.ofText, again, decoded]

/-- Spelled in another way than it is written: arrays stand for objects, a member is known by
its other name, what is not set is null, and a key is repeated under an unknown one. -/
def sampleText : String :=
  "[[\"api\",\x7b\"HTTPS\":null\x7d,null,\"svc\",[\x7b\"targetGroupIdentifier\":\"a\"\x7d]]," ++
  "[\x7b\"x\":\x7b\"b\":1,\"a\":[-2],\"b\":null\x7d,\"name\":\"r\",\"priority\":7,\"action\":200," ++
  "\"pathMatch\":[\"EXACT\",\"/a\",true]\x7d]]"

def sampleConfig : ListenerConfig :=
  ⟨⟨"api", .https, none, "svc", .forward [⟨"a", none⟩]⟩,
    [⟨"r", 7, .respond 200, ⟨none, some ⟨"EXACT", "/a", some true⟩, none, .ofList
      [("x", .object [("a", .array [.number (.integer (-2) (by decide))]), ("b", .null)])]⟩⟩]⟩

theorem sample_config_returns :
    decoder.run sampleText = .ok sampleConfig ∧
    decoder.run sampleConfig.toJson.compact = .ok sampleConfig ∧
    decoder.run sampleConfig.toJson.pretty = .ok sampleConfig ∧
    RoutingTable.ofText sampleConfig.toJson.compact = RoutingTable.ofText sampleText := by
  have decoded : decoder.run sampleText = .ok sampleConfig := by cbv
  have free : sampleConfig.FloatFree := by
    intro spec member
    rw [sampleConfig, List.mem_singleton] at member
    subst member
    cbv
  have nests : sampleConfig.toJson.NestsWithin 127 := by cbv
  obtain ⟨_, compact⟩ := decoding_undoes_writing .compact Json.Layout.blank_compact
  obtain ⟨written, _⟩ := decoding_undoes_writing .pretty Json.Layout.blank_pretty
  obtain ⟨apart, returns⟩ := compact sampleText sampleConfig decoded
  obtain ⟨again, same⟩ := returns free
  exact ⟨decoded, again, written sampleConfig apart free nests, same⟩

end ListenerConfig

end MeshRouting

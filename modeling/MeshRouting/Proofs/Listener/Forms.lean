import MeshRouting.Listener.Config
import MeshRouting.Proofs.Decoding.Forms
import Mathlib

/-!
The two forms of a listener and of its configuration. Both may be written as objects or as
arrays. Members with other keys mean nothing, so a misspelled one is as good as left out.
-/

namespace MeshRouting

open Json (Head Source)

namespace Listener

theorem fields_plain :
    fields.Plain ["name", "protocol", "port", "serviceIdentifier", "defaultAction"] := by
  have name := Fields.one_plain "name" Decoder.string none
  have protocol := Fields.one_plain "protocol" Protocol.decoder none
  have port := Fields.one_plain "port" Decoder.word16.optional (some none)
  have service := Fields.one_plain "serviceIdentifier" Decoder.string none
  have action := Fields.one_plain "defaultAction" ActionSpec.decoder none
  exact Fields.map_plain _ (Fields.and_plain name (Fields.and_plain protocol
    (Fields.and_plain port (Fields.and_plain service action))))

/-- To all other fields a port means nothing. -/
theorem port_defaults_to_null : decoder.DefaultsTo "port" (.leaf .null) 0 := by
  intro context before after fault _ absent
  apply Decoder.record_overlooks
  · intro inner _
    have port : (Fields.optional "port" Decoder.word16).Overlook inner before after
        (.leaf (.string "port"), .leaf .null) :=
      Fields.one_overlooks_default (List.mem_singleton_self "port") rfl rfl
        (Members.under_eq_nil_of_absent absent)
    exact Fields.map_overlooks _ (Fields.and_overlook (Fields.one_overlooks_key (by decide))
      (Fields.and_overlook (Fields.one_overlooks_key (by decide))
        (Fields.and_overlook port (Fields.and_overlook (Fields.one_overlooks_key (by decide))
          (Fields.one_overlooks_key (by decide))))))
  · exact Members.passable_of_known (by decide) _

end Listener

namespace ListenerConfig

theorem fields_plain : fields.Plain ["listener", "rules"] := by
  have listener := Fields.one_plain "listener" Listener.decoder none
  have rules := Fields.one_plain "rules" (Decoder.list RuleSpec.decoder) (some [])
  exact Fields.map_plain _ (Fields.and_plain listener rules)

/-- An empty list takes the place of no list where there is room for its brackets. -/
theorem no_rules_overlooked {inner : Context} (room : 1 ≤ inner.room) {before after : Members}
    (absent : ∀ value, (.leaf (.string "rules"), value) ∉ before ++ after) :
    fields.Overlook inner before after (.leaf (.string "rules"), .array [] none) := by
  have stands : Decoder.list RuleSpec.decoder inner (.array [] none) = .ok [] := by
    obtain ⟨_ | room, buffered⟩ := inner
    · cases room
    · rfl
  apply Fields.map_overlooks
  apply Fields.and_overlook
  · exact Fields.one_overlooks_key (by decide)
  · exact Fields.one_overlooks_default (List.mem_singleton_self "rules") rfl stands
      (Members.under_eq_nil_of_absent absent)

theorem rules_default_to_none : decoder.DefaultsTo "rules" (.array [] none) 2 := by
  intro context before after fault room absent
  apply Decoder.record_overlooks
  · intro inner entered
    rw [entered] at room
    exact no_rules_overlooked (Nat.le_of_succ_le_succ room) absent
  · exact Members.passable_of_known (by decide) _

/-- An array may end before the rules. -/
theorem short_array_has_no_rules {context : Context} (fits : 2 ≤ context.room) (listener : Source)
    (fault : Option Json.Fault) :
    decoder context (.array [listener, .array [] none] fault) =
      decoder context (.array [listener] fault) := by
  obtain ⟨_ | room, buffered⟩ := context
  · cases fits
  · have overlook := @no_rules_overlooked ⟨room, buffered⟩ (Nat.le_of_succ_le_succ fits)
      [(.leaf (.string "listener"), listener)] [] (by simp)
    exact Decoder.read_members_overlooks overlook (Members.passable_of_known (by decide) _) _ _

/-- Null is not a list, however it comes under the name. -/
theorem null_is_no_list {context : Context} {source : Source}
    (given : .leaf .null ∈ source.under ["listener", "rules"] "rules") :
    ∃ error, decoder context source = .error error := by
  cases decoded : decoder context source with
  | error error => exact ⟨error, rfl⟩
  | ok config =>
      obtain ⟨inner, missing, _, read⟩ := Decoder.fields_of_record decoded
      obtain ⟨⟨listener, rules⟩, both, _⟩ := Fields.map_eq_ok_iff.1 read
      obtain ⟨_, readRules⟩ := Fields.and_eq_ok_iff.1 both
      rcases Fields.value_of_one readRules with ⟨nothing, _⟩ | ⟨part, single, list⟩
      · have none : source.under ["listener", "rules"] "rules" = [] := nothing
        rw [none] at given
        cases given
      · have one : source.under ["listener", "rules"] "rules" = [part] := single
        rw [one, List.mem_singleton] at given
        cases given
        cases list

/-- A listener and its configuration may be written as objects or as arrays, and what is read
is the same. In an object the members stand in any order; foreign ones mean nothing, and a
name that is there twice is an error. The port defaults to null and the rules to an empty
list, but null is no list of rules. -/
theorem both_forms_agree :
    Listener.decoder.FormsAgree
      ["name", "protocol", "port", "serviceIdentifier", "defaultAction"] ∧
    Listener.decoder.DefaultsTo "port" (.leaf .null) 0 ∧
    decoder.FormsAgree ["listener", "rules"] ∧
    decoder.DefaultsTo "rules" (.array [] none) 2 ∧
    (∀ context listener fault, 2 ≤ context.room →
      decoder context (.array [listener, .array [] none] fault) =
        decoder context (.array [listener] fault)) ∧
    (∀ context listener fault,
      ∃ error, decoder context (.array [listener, .leaf .null] fault) = .error error) ∧
    ∀ context members fault, (.leaf (.string "rules"), .leaf .null) ∈ members →
      ∃ error, decoder context (.object members fault) = .error error := by
  refine ⟨Decoder.record_forms_agree Listener.fields_plain (by decide),
    Listener.port_defaults_to_null, Decoder.record_forms_agree fields_plain (by decide),
    rules_default_to_none, ?_, ?_, ?_⟩
  · intro context listener fault room
    exact short_array_has_no_rules room listener fault
  · intro context listener fault
    apply null_is_no_list
    exact List.mem_singleton_self _
  · intro context members fault inside
    apply null_is_no_list
    obtain ⟨place, own⟩ := Members.mem_having (List.mem_singleton_self "rules") 0 inside
    exact List.mem_map_of_mem own

end ListenerConfig

namespace Listener

def sparse : Listener := ⟨"n", .http, none, "s", .respond 404⟩

def listedText : String := "[\"n\",\"HTTP\",null,\"s\",404]"

/-- The members stand in another order and without a port. The two that are foreign have the
same key, and what stands under it is no text. -/
def keyedText : String :=
  "\x7b\"prot\":0,\"defaultAction\":404,\"serviceIdentifier\":\"s\",\"prot\":[\"\\ud800\"]," ++
  "\"protocol\":\"HTTP\",\"name\":\"n\"\x7d"

/-- The values in their places. -/
def listedValues : List Source :=
  [.leaf (.string "n"), .leaf (.string "HTTP"), .leaf .null, .leaf (.string "s"),
    .leaf (.number (.ofWord 404))]

def garbled : Head × Source :=
  (.leaf (.string "prot"), .array [.leaf (.flawed (.string .malformed none))] none)

/-- Between these the port is left out. -/
def firstKeyed : Members :=
  [(.leaf (.string "defaultAction"), .leaf (.number (.ofWord 404))),
    (.leaf (.string "serviceIdentifier"), .leaf (.string "s")), garbled]

def lastKeyed : Members :=
  [(.leaf (.string "protocol"), .leaf (.string "HTTP")), (.leaf (.string "name"), .leaf (.string "n"))]

/-- The named members are there in reverse, with a foreign one among them. -/
theorem keyed_perm : (firstKeyed ++ (.leaf (.string "port"), .leaf .null) :: lastKeyed).Perm
    (Members.named ["name", "protocol", "port", "serviceIdentifier", "defaultAction"]
      listedValues ++ [garbled]) := by
  have reversed := (List.reverse_perm (Members.named
    ["name", "protocol", "port", "serviceIdentifier", "defaultAction"] listedValues)).cons garbled
  have moved := reversed.trans (List.perm_append_singleton garbled _).symm
  exact (@List.perm_middle _ garbled (firstKeyed.take 2) _).trans moved

theorem keyed_listener_agrees :
    decoder.run listedText = .ok sparse ∧ decoder.run keyedText = .ok sparse := by
  have listed : decoder.run listedText = .ok sparse := by cbv
  have listedRoot : (Json.Document.ofText listedText).root = .array listedValues none := by cbv
  have keyedRoot : Json.Document.ofText keyedText = ⟨.object ((.leaf (.string "prot"),
      .leaf (.number (.ofWord 0))) :: (firstKeyed ++ lastKeyed)) none, false⟩ := by cbv
  obtain ⟨forms, port, _⟩ := ListenerConfig.both_forms_agree
  have read := (Decoder.run_eq_ok_iff.1 listed).1
  rw [listedRoot] at read
  have foreigners : ∀ member ∈ [garbled], Members.Foreign
      ["name", "protocol", "port", "serviceIdentifier", "defaultAction"] member := by
    intro member inside
    cases List.mem_singleton.1 inside
    exact ⟨"prot", rfl, by decide, rfl⟩
  have agreed := (forms.agree .start listedValues [garbled] _ sparse rfl foreigners keyed_perm).1 read
  have unported := port .start firstKeyed lastKeyed none (Nat.zero_le _)
    (by simp [firstKeyed, lastKeyed, garbled])
  have front := forms.inert .start [] (firstKeyed ++ lastKeyed)
    (.leaf (.string "prot"), .leaf (.number (.ofWord 0))) none ⟨"prot", rfl, by decide, rfl⟩
  refine ⟨listed, Decoder.run_eq_ok_iff.2 ?_⟩
  rw [keyedRoot]
  exact ⟨front.trans (unported.symm.trans agreed), rfl⟩

end Listener

end MeshRouting

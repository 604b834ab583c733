import MeshRouting.Policy.Document
import MeshRouting.Proofs.Decoding.Parts

/-!
Which trees are read as an auth statement. An effect has six spellings, resources are read
as they are written, and of a principal or of conditions only the canonical form is kept,
or nothing where they are missing or null.
-/

namespace MeshRouting

open Json (Source)

namespace FreeForm

/-- Null would be read as no value. -/
def NotNull (value : Option FreeForm) : Prop := ∀ form, value = some form → form.tree ≠ .null

/-- What a free-form field becomes of the values under its name. -/
inductive ReadFrom : List Source → Option FreeForm → Prop
  | missing : ReadFrom [] none
  | null : ReadFrom [.leaf .null] none
  | value {json : Json} (present : json ≠ .null) :
      ReadFrom [json.toSource] (some (.ofJson json))

theorem normalize_ne_null {json : Json} (present : json ≠ .null) : json.normalize ≠ .null := by
  cases json with
  | null => exact absurd rfl present
  | _ => simp [Json.normalize]

theorem not_null_of_read_from {sources : List Source} {value : Option FreeForm}
    (read : ReadFrom sources value) : NotNull value := by
  intro form some
  cases read with
  | missing => cases some
  | null => cases some
  | value present =>
      cases some
      exact normalize_ne_null present

end FreeForm

namespace Fields

theorem free_form_of_optional {name : String} {context : Context}
    {missing : String → DecodeError} {source : Source} {names : List String}
    {value : Option FreeForm}
    (read : (optional name Decoder.freeForm).read context missing (source.recordMembers names) =
      .ok value) : FreeForm.ReadFrom (source.under names name) value := by
  rcases value_of_one read with ⟨none, absent⟩ | ⟨part, single, decoded⟩
  · cases absent
    rw [none]
    exact .missing
  · rw [single]
    rcases Decoder.free_form_of_optional decoded with ⟨rfl, rfl⟩ | ⟨json, present, rfl, rfl⟩
    · exact .null
    · exact .value present

end Fields

namespace Decoder

theorem source_of_string {context : Context} {source : Source} {text : String}
    (decoded : string context source = .ok text) : source = .leaf (.string text) := by
  unfold string at decoded
  split at decoded
  case h_1 =>
    cases decoded
    rfl
  case h_2 => cases decoded

theorem sources_of_strings {context : Context} {sources : List Source} {texts : List String}
    (paired : List.Forall₂ (fun source text => string context source = .ok text) sources texts) :
    sources = Json.itemSources (texts.map .string) := by
  induction paired with
  | nil => rfl
  | cons first _ induction =>
      rw [source_of_string first, induction]
      rfl

end Decoder

namespace Effect

/-- The names that an effect has in a text. -/
def spellings : Effect → List String
  | .allow => ["ALLOW", "Allow", "allow"]
  | .deny => ["DENY", "Deny", "deny"]

theorem spelled_of_decoded {context : Context} {source : Source} {effect : Effect}
    (decoded : decoder context source = .ok effect) :
    ∃ name, source.Names name ∧ name ∈ effect.spellings := by
  obtain ⟨name, named, known⟩ := Decoder.name_of_variant decoded
  refine ⟨name, named, ?_⟩
  obtain ⟨before, after, split, _⟩ := List.lookup_eq_some_iff.1 known
  have listed : (name, effect) ∈ before ++ (name, effect) :: after := by simp
  rw [← split] at listed
  cases effect <;> simpa [spellings] using listed

end Effect

namespace Resources

theorem source_of_decoded {context : Context} {source : Source} {resources : Resources}
    (decoded : decoder context source = .ok resources) : source = resources.toJson.toSource := by
  obtain ⟨tree, rfl, alternative, member, read⟩ := Decoder.alternative_of_choice decoded
  simp only [List.mem_cons, List.not_mem_nil, or_false] at member
  rcases member with rfl | rfl
  · obtain ⟨text, one, rfl⟩ := Problem.map_eq_ok_iff.1 read
    exact Decoder.source_of_string one
  · obtain ⟨texts, many, rfl⟩ := Problem.map_eq_ok_iff.1 read
    obtain ⟨_, sources, _, array, paired⟩ := Decoder.list_eq_ok_iff.1 many
    rw [array, Decoder.sources_of_strings paired]
    rfl

end Resources

namespace AuthStatement

def names : List String := ["effect", "principal", "resources", "conditions"]

/-- The statement is what this tree says. -/
structure ReadFrom (statement : AuthStatement) (source : Source) : Prop where
  effect : ∃ part name, source.under names "effect" = [part] ∧ part.Names name ∧
    name ∈ statement.effect.spellings
  principal : FreeForm.ReadFrom (source.under names "principal") statement.principal
  resources : source.under names "resources" = [statement.resources.toJson.toSource]
  conditions : FreeForm.ReadFrom (source.under names "conditions") statement.conditions

theorem read_from_of_decoded {context : Context} {source : Source} {statement : AuthStatement}
    (decoded : decoder context source = .ok statement) : statement.ReadFrom source := by
  obtain ⟨inner, missing, _, read⟩ := Decoder.fields_of_record decoded
  obtain ⟨⟨effect, principal, resources, conditions⟩, all, rfl⟩ := Fields.map_eq_ok_iff.1 read
  obtain ⟨readEffect, others⟩ := Fields.and_eq_ok_iff.1 all
  obtain ⟨readPrincipal, others⟩ := Fields.and_eq_ok_iff.1 others
  obtain ⟨readResources, readConditions⟩ := Fields.and_eq_ok_iff.1 others
  obtain ⟨part, effectPart, decodedEffect⟩ := Fields.value_of_required readEffect
  obtain ⟨name, named, spelled⟩ := Effect.spelled_of_decoded decodedEffect
  obtain ⟨_, resourcesPart, decodedResources⟩ := Fields.value_of_required readResources
  rw [Resources.source_of_decoded decodedResources] at resourcesPart
  exact ⟨⟨part, name, effectPart, named, spelled⟩, Fields.free_form_of_optional readPrincipal,
    resourcesPart, Fields.free_form_of_optional readConditions⟩

end AuthStatement

namespace AuthPolicyConfig

/-- The statements are read one by one from the one array under their name. -/
theorem statements_of_decoded {context : Context} {source : Source} {config : AuthPolicyConfig}
    (decoded : decoder context source = .ok config) :
    ∃ inner sources, context = ⟨inner.room + 2, inner.buffered⟩ ∧
      source.under ["authStatements"] "authStatements" = [.array sources none] ∧
      List.Forall₂ (fun source statement => AuthStatement.decoder inner source = .ok statement)
        sources config.statements := by
  obtain ⟨middle, missing, rfl, read⟩ := Decoder.fields_of_record decoded
  obtain ⟨statements, required, rfl⟩ := Fields.map_eq_ok_iff.1 read
  obtain ⟨part, single, all⟩ := Fields.value_of_required required
  obtain ⟨inner, sources, rfl, rfl, paired⟩ := Decoder.list_eq_ok_iff.1 all
  exact ⟨inner, sources, rfl, single, paired⟩

end AuthPolicyConfig

end MeshRouting

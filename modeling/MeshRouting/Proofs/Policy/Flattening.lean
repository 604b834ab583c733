import MeshRouting.Proofs.Json.Access
import MeshRouting.Proofs.Json.Canonical
import MeshRouting.Proofs.Policy.RoundTrip

/-!
From the text of a policy configuration to the text of its document. Each statement of the
one becomes one statement of the other, in order and whatever stands beside it. Nothing of a
statement is lost on the way, so two configurations have the same document only if they are
the same.
-/

namespace MeshRouting

open Json (Source)

namespace FreeForm

/-- What is passed on of the values under a name: nothing where it is missing or null. -/
inductive PassedOn : List Source → Option Json → Prop
  | missing : PassedOn [] none
  | null : PassedOn [.leaf .null] none
  | value {json passed : Json} (present : json ≠ .null) (same : json.ResolvesTo passed) :
      PassedOn [json.toSource] (some passed)

theorem passed_on_of_read_from {sources : List Source} {value : Option FreeForm}
    (read : ReadFrom sources value) : PassedOn sources (value.map FreeForm.tree) := by
  cases read with
  | missing => exact .missing
  | null => exact .null
  | value present => exact .value present (Json.resolves_to_iff.2 rfl)

theorem tree_ne_null {value : Option FreeForm} (present : NotNull value) :
    value.map FreeForm.tree ≠ some .null := by
  intro null
  obtain ⟨form, same, tree⟩ := Option.map_eq_some_iff.1 null
  exact present form same tree

end FreeForm

namespace PolicyStatement

/-- The keys of a statement, of which the last two may be left out. -/
def knownKeys : List String := ["Effect", "Action", "Resource", "Principal", "Condition"]

/-- The value is what a document says of the auth statement that this tree says. -/
structure Flattens (source : Source) (value : Json) : Prop where
  keys : value.keys = knownKeys.filter fun key => (value.get? key).isSome
  effect : ∃ (effect : Effect) (part : Source) (name : String),
    source.under AuthStatement.names "effect" = [part] ∧ part.Names name ∧
      name ∈ effect.spellings ∧ value.string? "Effect" = some (match effect with
        | .allow => "Allow"
        | .deny => "Deny")
  action : value.string? "Action" = some "vpc-lattice-svcs:Invoke"
  resource : ∃ resources : Resources,
    source.under AuthStatement.names "resources" = [resources.toJson.toSource] ∧
      value.get? "Resource" = some resources.toJson
  principal : FreeForm.PassedOn (source.under AuthStatement.names "principal")
    (value.get? "Principal")
  condition : FreeForm.PassedOn (source.under AuthStatement.names "conditions")
    (value.get? "Condition")
  notNull : value.get? "Principal" ≠ some .null ∧ value.get? "Condition" ≠ some .null

theorem get_principal (statement : PolicyStatement) :
    statement.toJson.get? "Principal" = statement.principal.map FreeForm.tree := by
  obtain ⟨effect, action, resource, principal, condition⟩ := statement
  cases principal <;> cases condition <;> rfl

theorem get_condition (statement : PolicyStatement) :
    statement.toJson.get? "Condition" = statement.condition.map FreeForm.tree := by
  obtain ⟨effect, action, resource, principal, condition⟩ := statement
  cases principal <;> cases condition <;> rfl

theorem keys_to_json (statement : PolicyStatement) :
    statement.toJson.keys = knownKeys.filter fun key => (statement.toJson.get? key).isSome := by
  obtain ⟨effect, action, resource, principal, condition⟩ := statement
  cases principal <;> cases condition <;> rfl

end PolicyStatement

namespace AuthStatement

theorem flattens_of_read_from {statement : AuthStatement} {source : Source}
    (read : statement.ReadFrom source) :
    PolicyStatement.Flattens source statement.flatten.toJson := by
  obtain ⟨part, name, single, named, spelled⟩ := read.effect
  have principal := FreeForm.passed_on_of_read_from read.principal
  have condition := FreeForm.passed_on_of_read_from read.conditions
  have principalPresent := FreeForm.tree_ne_null (FreeForm.not_null_of_read_from read.principal)
  have conditionPresent := FreeForm.tree_ne_null (FreeForm.not_null_of_read_from read.conditions)
  constructor
  case keys => exact PolicyStatement.keys_to_json statement.flatten
  case effect =>
    refine ⟨statement.effect, part, name, single, named, spelled, ?_⟩
    have written : statement.flatten.toJson.string? "Effect" = some statement.effect.name := rfl
    rw [written]
    cases statement.effect <;> rfl
  case action => rfl
  case resource => exact ⟨statement.resources, read.resources, rfl⟩
  case principal => rwa [PolicyStatement.get_principal]
  case condition => rwa [PolicyStatement.get_condition]
  case notNull =>
    rw [PolicyStatement.get_principal, PolicyStatement.get_condition]
    exact ⟨principalPresent, conditionPresent⟩

theorem flatten_injective : Function.Injective flatten := by
  intro statement other same
  obtain ⟨effect, principal, resources, conditions⟩ := statement
  obtain ⟨otherEffect, otherPrincipal, otherResources, otherConditions⟩ := other
  simp only [flatten, PolicyStatement.mk.injEq] at same
  obtain ⟨rfl, _, rfl, rfl, rfl⟩ := same
  rfl

/-- What becomes of a tree that is read as a statement in this context; null of another. -/
def flattened (context : Context) (source : Source) : Json :=
  match decoder context source with
  | .ok statement => statement.flatten.toJson
  | .error _ => .null

theorem flattened_of_decoded {context : Context} {source : Source} {statement : AuthStatement}
    (decoded : decoder context source = .ok statement) :
    flattened context source = statement.flatten.toJson := by
  simp only [flattened, decoded]

theorem map_flattened_of_decoded {context : Context} {sources : List Source}
    {statements : List AuthStatement}
    (paired : List.Forall₂ (fun source statement => decoder context source = .ok statement)
      sources statements) :
    sources.map (flattened context) = statements.map fun statement => statement.flatten.toJson := by
  induction paired with
  | nil => rfl
  | cons first _ induction => rw [List.map_cons, List.map_cons, flattened_of_decoded first, induction]

theorem flattens_of_decoded {context : Context} {sources : List Source}
    {statements : List AuthStatement}
    (paired : List.Forall₂ (fun source statement => decoder context source = .ok statement)
      sources statements) :
    ∀ source ∈ sources, PolicyStatement.Flattens source (flattened context source) := by
  induction paired with
  | nil => simp
  | cons first _ induction =>
      rw [List.forall_mem_cons, flattened_of_decoded first]
      exact ⟨flattens_of_read_from (read_from_of_decoded first), induction⟩

end AuthStatement

namespace PolicyDocument

/-- The value says of each statement of a policy configuration what `object` makes of it. -/
structure Restates (object : Source → Json) (root : Source) (value : Json) : Prop where
  keys : value.keys = ["Version", "Statement"]
  version : value.string? "Version" = some "2012-10-17"
  statements : ∃ statements,
    root.under ["authStatements"] "authStatements" = [.array statements none] ∧
      value.items? "Statement" = some (statements.map object) ∧
      ∀ statement ∈ statements, PolicyStatement.Flattens statement (object statement)

theorem restates_of_decoded {context : Context} {root : Source} {config : AuthPolicyConfig}
    (decoded : AuthPolicyConfig.decoder ⟨context.room + 2, context.buffered⟩ root = .ok config) :
    Restates (AuthStatement.flattened context) root (ofStatements config.statements).toJson := by
  obtain ⟨inner, statements, start, under, paired⟩ :=
    AuthPolicyConfig.statements_of_decoded decoded
  cases inner
  cases context
  cases start
  have listed : (ofStatements config.statements).toJson.items? "Statement" =
      some ((config.statements.map AuthStatement.flatten).map PolicyStatement.toJson) := rfl
  refine ⟨rfl, rfl, statements, under, ?_, AuthStatement.flattens_of_decoded paired⟩
  rw [listed, List.map_map, AuthStatement.map_flattened_of_decoded paired]
  rfl

variable {text : String} {config : AuthPolicyConfig}

theorem of_text_of_decoded (decoded : AuthPolicyConfig.decoder.run text = .ok config) :
    ofText text = .ok (ofStatements config.statements) := by
  rw [ofText, decoded]
  rfl

/-- A document of a decoded configuration is read from its text, as a document and as a value. -/
theorem run_text_of_decoded (decoded : AuthPolicyConfig.decoder.run text = .ok config)
    (free : config.FloatFree) :
    decoder.run (ofStatements config.statements).text = .ok (ofStatements config.statements) ∧
      Decoder.json.run (ofStatements config.statements).text =
        .ok (ofStatements config.statements).toJson := by
  have present := of_statements_null_free (AuthPolicyConfig.null_free_of_run decoded)
  have freeDocument := of_statements_float_free free
  have nests := of_statements_nests (Decoder.nests_of_run AuthPolicyConfig.writes_within decoded)
  exact ⟨run_write Json.Layout.blank_compact present freeDocument nests,
    Decoder.run_write Json.Layout.blank_compact (Decoder.json_reads_back _)
      (float_free freeDocument) nests⟩

/-- The document of a text says statement by statement, by one rule for all texts, what the
text says; and two texts have the same document exactly if they say the same. -/
theorem document_restates_text :
    ∃ object : Source → Json, ∀ text config, AuthPolicyConfig.decoder.run text = .ok config →
      config.FloatFree →
        (∃ document value, ofText text = .ok document ∧
          Decoder.json.run document.text = .ok value ∧
          Restates object (Json.Document.ofText text).root value) ∧
        ∀ other otherConfig, AuthPolicyConfig.decoder.run other = .ok otherConfig →
          otherConfig.FloatFree →
            ((ofText text).map PolicyDocument.text = (ofText other).map PolicyDocument.text ↔
              config = otherConfig) := by
  refine ⟨AuthStatement.flattened ⟨125, false⟩, ?_⟩
  intro text config decoded free
  obtain ⟨root, _⟩ := Decoder.run_eq_ok_iff.1 decoded
  obtain ⟨returned, read⟩ := run_text_of_decoded decoded free
  refine ⟨⟨_, _, of_text_of_decoded decoded, read, restates_of_decoded root⟩, ?_⟩
  intro other otherConfig otherDecoded otherFree
  rw [of_text_of_decoded decoded, of_text_of_decoded otherDecoded]
  constructor
  · intro same
    obtain ⟨otherReturned, _⟩ := run_text_of_decoded otherDecoded otherFree
    rw [← Except.ok.inj same, returned, Except.ok.injEq] at otherReturned
    have flattened : config.statements.map AuthStatement.flatten =
        otherConfig.statements.map AuthStatement.flatten := congrArg statements otherReturned
    have equal := List.map_injective_iff.2 AuthStatement.flatten_injective flattened
    cases config
    cases otherConfig
    cases equal
    rfl
  · rintro rfl
    rfl

/-- The sample text and the text that its configuration is written as have one document. -/
theorem sample_text_restated :
    ∃ object value, Decoder.json.run sampleDocument.text = .ok value ∧
      Restates object (Json.Document.ofText sampleText).root value ∧
      (ofText sampleText).map PolicyDocument.text =
        (ofText sampleConfig.toJson.compact).map PolicyDocument.text := by
  have again : AuthPolicyConfig.decoder.run sampleConfig.toJson.compact = .ok sampleConfig :=
    AuthPolicyConfig.run_write_of_run Json.Layout.blank_compact sample_decoded sample_float_free
  obtain ⟨object, restated⟩ := document_restates_text
  obtain ⟨⟨document, value, given, read, restates⟩, same⟩ :=
    restated sampleText sampleConfig sample_decoded sample_float_free
  rw [of_text_of_decoded sample_decoded, Except.ok.injEq] at given
  subst given
  exact ⟨object, value, read, restates, (same _ _ again sample_float_free).2 rfl⟩

end PolicyDocument

end MeshRouting

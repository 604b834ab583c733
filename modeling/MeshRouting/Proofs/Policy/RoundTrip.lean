import MeshRouting.Proofs.Decoding.Texts
import MeshRouting.Proofs.Policy.Reading
import Mathlib

/-!
Policies that are written and read again. What is set and what is left out are told apart by
whether the member is there, so a bare null is the one principal that does not come back;
and decoding never gives a bare null.
-/

namespace MeshRouting

open Json (valuesOf memberIfSome)

namespace FreeForm

/-- There is no binary64 number in it. -/
def FloatFree (value : Option FreeForm) : Prop := ∀ form, value = some form → form.tree.FloatFree

end FreeForm

namespace Effect

theorem reads_back (effect : Effect) : decoder.ReadsBack effect.toJson effect := by
  intro context _
  cases effect <;> rfl

theorem writes_within : decoder.WritesWithin toJson := by
  intro context source effect _
  trivial

end Effect

namespace Resources

/-- A list is never read as one resource, whatever its length. -/
theorem reads_back (resources : Resources) : decoder.ReadsBack resources.toJson resources := by
  cases resources with
  | one resource =>
      apply Decoder.choice_reads_back []
      · exact Decoder.map_reads_back (Decoder.string_reads_back resource)
      · simp
  | many resources =>
      apply Decoder.choice_reads_back [Decoder.string.map Resources.one]
      · exact Decoder.map_reads_back
          (Decoder.list_reads_back fun resource _ => Decoder.string_reads_back resource)
      · intro other member context
        rw [List.mem_singleton] at member
        subst member
        exact ⟨_, rfl⟩

theorem writes_within : decoder.WritesWithin toJson := by
  apply Decoder.choice_writes_within
  simp only [List.forall_mem_cons, List.not_mem_nil, false_implies, implies_true, and_true]
  constructor
  · exact Decoder.map_writes_within Decoder.string_writes_within
  · exact Decoder.map_writes_within (Decoder.list_writes_within Decoder.string_writes_within)

theorem float_free (resources : Resources) : resources.toJson.FloatFree := by
  cases resources with
  | one resource => trivial
  | many resources => exact Json.written_items_float_free_iff.2 fun _ _ => trivial

end Resources

namespace AuthStatement

/-- Neither the principal nor the conditions are a bare null. -/
def NullFree (statement : AuthStatement) : Prop :=
  FreeForm.NotNull statement.principal ∧ FreeForm.NotNull statement.conditions

def FloatFree (statement : AuthStatement) : Prop :=
  FreeForm.FloatFree statement.principal ∧ FreeForm.FloatFree statement.conditions

theorem reads_back {statement : AuthStatement} (present : statement.NullFree) :
    decoder.ReadsBack statement.toJson statement := by
  obtain ⟨effect, principal, resources, conditions⟩ := statement
  obtain ⟨principalPresent, conditionsPresent⟩ := present
  have form {value : Option FreeForm} (form : FreeForm) (_ : value = some form) :=
    Decoder.free_form_reads_back form
  apply Decoder.record_reads_back
  apply Fields.map_reads_back (effect, principal, resources, conditions)
  refine Fields.and_reads_back (Fields.one_reads_back ?_ effect.reads_back) (Fields.and_reads_back
    (Fields.optional_reads_back FreeForm.tree ?_ principalPresent form) (Fields.and_reads_back
      (Fields.one_reads_back ?_ resources.reads_back)
      (Fields.optional_reads_back FreeForm.tree ?_ conditionsPresent form)))
  all_goals cases principal <;> cases conditions <;> simp [valuesOf, memberIfSome, FieldName.all]

theorem writes_within : decoder.WritesWithin toJson := by
  have effect := Fields.required_writes_within "effect" [] Effect.writes_within
  have principal := Fields.optional_writes_within "principal" Decoder.free_form_writes_within
  have resources := Fields.required_writes_within "resources" [] Resources.writes_within
  have conditions := Fields.optional_writes_within "conditions" Decoder.free_form_writes_within
  apply Decoder.record_writes_within
  apply Fields.map_writes_within
  exact Fields.and_writes_within effect (Fields.and_writes_within principal
    (Fields.and_writes_within resources conditions))

theorem float_free {statement : AuthStatement} (free : statement.FloatFree) :
    statement.toJson.FloatFree := by
  have principal := Json.member_if_some_float_free "principal" FreeForm.tree free.1
  have conditions := Json.member_if_some_float_free "conditions" FreeForm.tree free.2
  exact ⟨trivial, Json.members_float_free_append.2
    ⟨principal, statement.resources.float_free, conditions⟩⟩

theorem null_free_of_decoded {context : Context} {source : Json.Source}
    {statement : AuthStatement} (decoded : decoder context source = .ok statement) :
    statement.NullFree := by
  have read := read_from_of_decoded decoded
  exact ⟨FreeForm.not_null_of_read_from read.principal,
    FreeForm.not_null_of_read_from read.conditions⟩

/-- Flattening renames the members of a statement and adds a string. -/
theorem flatten_nests {statement : AuthStatement} {room : Nat}
    (nests : statement.toJson.NestsWithin room) : statement.flatten.toJson.NestsWithin room := by
  cases room with
  | zero => exact nests.elim
  | succ room =>
      obtain ⟨_, others⟩ := nests
      obtain ⟨principal, resources, conditions⟩ := Json.members_nest_append.1 others
      have renamed {value : Option FreeForm} {key : String} (other : String)
          (nest : Json.MembersNestWithin room (memberIfSome key FreeForm.tree value)) :
          Json.MembersNestWithin room (memberIfSome other FreeForm.tree value) :=
        Json.member_if_some_nests_iff.2 (Json.member_if_some_nests_iff.1 nest)
      exact ⟨trivial, trivial, resources, Json.members_nest_append.2
        ⟨renamed "Principal" principal, renamed "Condition" conditions⟩⟩

end AuthStatement

namespace PolicyStatement

def NullFree (statement : PolicyStatement) : Prop :=
  FreeForm.NotNull statement.principal ∧ FreeForm.NotNull statement.condition

def FloatFree (statement : PolicyStatement) : Prop :=
  FreeForm.FloatFree statement.principal ∧ FreeForm.FloatFree statement.condition

theorem reads_back {statement : PolicyStatement} (present : statement.NullFree) :
    decoder.ReadsBack statement.toJson statement := by
  obtain ⟨effect, action, resource, principal, condition⟩ := statement
  obtain ⟨principalPresent, conditionPresent⟩ := present
  have name := Decoder.string_reads_back action
  have form {value : Option FreeForm} (form : FreeForm) (_ : value = some form) :=
    Decoder.free_form_reads_back form
  apply Decoder.record_reads_back
  apply Fields.map_reads_back (effect, action, resource, principal, condition)
  refine Fields.and_reads_back (Fields.one_reads_back ?_ effect.reads_back) (Fields.and_reads_back
    (Fields.one_reads_back ?_ name) (Fields.and_reads_back
      (Fields.one_reads_back ?_ resource.reads_back) (Fields.and_reads_back
        (Fields.optional_reads_back FreeForm.tree ?_ principalPresent form)
        (Fields.optional_reads_back FreeForm.tree ?_ conditionPresent form))))
  all_goals cases principal <;> cases condition <;> simp [valuesOf, memberIfSome, FieldName.all]

theorem writes_within : decoder.WritesWithin toJson := by
  have effect := Fields.required_writes_within "Effect" [] Effect.writes_within
  have action := Fields.required_writes_within "Action" [] Decoder.string_writes_within
  have resource := Fields.required_writes_within "Resource" [] Resources.writes_within
  have principal := Fields.optional_writes_within "Principal" Decoder.free_form_writes_within
  have condition := Fields.optional_writes_within "Condition" Decoder.free_form_writes_within
  apply Decoder.record_writes_within
  apply Fields.map_writes_within
  exact Fields.and_writes_within effect (Fields.and_writes_within action
    (Fields.and_writes_within resource (Fields.and_writes_within principal condition)))

theorem float_free {statement : PolicyStatement} (free : statement.FloatFree) :
    statement.toJson.FloatFree := by
  have principal := Json.member_if_some_float_free "Principal" FreeForm.tree free.1
  have condition := Json.member_if_some_float_free "Condition" FreeForm.tree free.2
  exact ⟨trivial, trivial, statement.resource.float_free,
    Json.members_float_free_append.2 ⟨principal, condition⟩⟩

theorem null_free_of_decoded {context : Context} {source : Json.Source}
    {statement : PolicyStatement} (decoded : decoder context source = .ok statement) :
    statement.NullFree := by
  obtain ⟨inner, missing, _, read⟩ := Decoder.fields_of_record decoded
  obtain ⟨⟨effect, action, resource, principal, condition⟩, all, rfl⟩ := Fields.map_eq_ok_iff.1 read
  obtain ⟨_, others⟩ := Fields.and_eq_ok_iff.1 all
  obtain ⟨_, others⟩ := Fields.and_eq_ok_iff.1 others
  obtain ⟨_, others⟩ := Fields.and_eq_ok_iff.1 others
  obtain ⟨readPrincipal, readCondition⟩ := Fields.and_eq_ok_iff.1 others
  exact ⟨FreeForm.not_null_of_read_from (Fields.free_form_of_optional readPrincipal),
    FreeForm.not_null_of_read_from (Fields.free_form_of_optional readCondition)⟩

end PolicyStatement

namespace AuthPolicyConfig

def NullFree (config : AuthPolicyConfig) : Prop :=
  ∀ statement ∈ config.statements, statement.NullFree

def FloatFree (config : AuthPolicyConfig) : Prop :=
  ∀ statement ∈ config.statements, statement.FloatFree

theorem reads_back {config : AuthPolicyConfig} (present : config.NullFree) :
    decoder.ReadsBack config.toJson config := by
  obtain ⟨statements⟩ := config
  have all := Decoder.list_reads_back fun statement member =>
    AuthStatement.reads_back (present statement member)
  apply Decoder.record_reads_back
  apply Fields.map_reads_back statements
  exact Fields.one_reads_back (by simp [valuesOf, FieldName.all]) all

theorem writes_within : decoder.WritesWithin toJson := by
  have statements := Fields.required_writes_within "authStatements" []
    (Decoder.list_writes_within AuthStatement.writes_within)
  exact Decoder.record_writes_within (Fields.map_writes_within statements)

theorem float_free {config : AuthPolicyConfig} (free : config.FloatFree) :
    config.toJson.FloatFree := by
  have statements : Json.FloatFreeItems (config.statements.map AuthStatement.toJson) := by
    rw [Json.written_items_float_free_iff]
    intro statement inside
    exact AuthStatement.float_free (free statement inside)
  exact ⟨statements, trivial⟩

theorem null_free_of_run {text : String} {config : AuthPolicyConfig}
    (decoded : decoder.run text = .ok config) : config.NullFree := by
  obtain ⟨root, _⟩ := Decoder.run_eq_ok_iff.1 decoded
  obtain ⟨_, _, _, _, paired⟩ := statements_of_decoded root
  intro statement inside
  obtain ⟨source, one⟩ := Decoder.source_of_paired paired statement inside
  exact AuthStatement.null_free_of_decoded one

theorem run_write {config : AuthPolicyConfig} {layout : Json.Layout} (blank : layout.Blank)
    (present : config.NullFree) (free : config.FloatFree) (nests : config.toJson.NestsWithin 127) :
    decoder.run (String.ofList (config.toJson.write layout 0)) = .ok config :=
  Decoder.run_write blank (reads_back present) (float_free free) nests

/-- What was decoded is decoded again from the text that it is written as. -/
theorem run_write_of_run {text : String} {config : AuthPolicyConfig} {layout : Json.Layout}
    (blank : layout.Blank) (decoded : decoder.run text = .ok config) (free : config.FloatFree) :
    decoder.run (String.ofList (config.toJson.write layout 0)) = .ok config :=
  run_write blank (null_free_of_run decoded) free (Decoder.nests_of_run writes_within decoded)

end AuthPolicyConfig

namespace PolicyDocument

def NullFree (document : PolicyDocument) : Prop :=
  ∀ statement ∈ document.statements, statement.NullFree

def FloatFree (document : PolicyDocument) : Prop :=
  ∀ statement ∈ document.statements, statement.FloatFree

theorem reads_back {document : PolicyDocument} (present : document.NullFree) :
    decoder.ReadsBack document.toJson document := by
  obtain ⟨version, statements⟩ := document
  have name := Decoder.string_reads_back version
  have all := Decoder.list_reads_back fun statement member =>
    PolicyStatement.reads_back (present statement member)
  apply Decoder.record_reads_back
  apply Fields.map_reads_back (version, statements)
  refine Fields.and_reads_back (Fields.one_reads_back ?_ name) (Fields.one_reads_back ?_ all)
  all_goals simp [valuesOf, FieldName.all]

theorem writes_within : decoder.WritesWithin toJson := by
  have version := Fields.required_writes_within "Version" [] Decoder.string_writes_within
  have statements := Fields.required_writes_within "Statement" []
    (Decoder.list_writes_within PolicyStatement.writes_within)
  apply Decoder.record_writes_within
  apply Fields.map_writes_within
  exact Fields.and_writes_within version statements

theorem float_free {document : PolicyDocument} (free : document.FloatFree) :
    document.toJson.FloatFree := by
  have statements : Json.FloatFreeItems (document.statements.map PolicyStatement.toJson) := by
    rw [Json.written_items_float_free_iff]
    intro statement inside
    exact PolicyStatement.float_free (free statement inside)
  exact ⟨trivial, statements, trivial⟩

theorem null_free_of_run {text : String} {document : PolicyDocument}
    (decoded : decoder.run text = .ok document) : document.NullFree := by
  obtain ⟨root, _⟩ := Decoder.run_eq_ok_iff.1 decoded
  obtain ⟨inner, missing, _, read⟩ := Decoder.fields_of_record root
  obtain ⟨⟨version, statements⟩, both, rfl⟩ := Fields.map_eq_ok_iff.1 read
  obtain ⟨_, required⟩ := Fields.and_eq_ok_iff.1 both
  obtain ⟨part, _, all⟩ := Fields.value_of_required required
  obtain ⟨_, _, each⟩ := Decoder.source_of_list_item all
  intro statement inside
  obtain ⟨source, one⟩ := each statement inside
  exact PolicyStatement.null_free_of_decoded one

theorem run_write {document : PolicyDocument} {layout : Json.Layout} (blank : layout.Blank)
    (present : document.NullFree) (free : document.FloatFree)
    (nests : document.toJson.NestsWithin 127) :
    decoder.run (String.ofList (document.toJson.write layout 0)) = .ok document :=
  Decoder.run_write blank (reads_back present) (float_free free) nests

theorem run_write_of_run {text : String} {document : PolicyDocument} {layout : Json.Layout}
    (blank : layout.Blank) (decoded : decoder.run text = .ok document)
    (free : document.FloatFree) :
    decoder.run (String.ofList (document.toJson.write layout 0)) = .ok document :=
  run_write blank (null_free_of_run decoded) free (Decoder.nests_of_run writes_within decoded)

/-- A document has no bare null where its statements have none. -/
theorem of_statements_null_free {config : AuthPolicyConfig} (present : config.NullFree) :
    (ofStatements config.statements).NullFree := by
  intro statement inside
  obtain ⟨source, member, rfl⟩ := List.mem_map.1 inside
  exact present source member

theorem of_statements_float_free {config : AuthPolicyConfig} (free : config.FloatFree) :
    (ofStatements config.statements).FloatFree := by
  intro statement inside
  obtain ⟨source, member, rfl⟩ := List.mem_map.1 inside
  exact free source member

theorem of_statements_nests {config : AuthPolicyConfig} {room : Nat}
    (nests : config.toJson.NestsWithin (room + 2)) :
    (ofStatements config.statements).toJson.NestsWithin (room + 2) := by
  have statements := Json.written_items_nest_iff.1 nests.1
  refine ⟨trivial, Json.written_items_nest_iff.2 ?_, trivial⟩
  intro statement inside
  obtain ⟨source, member, rfl⟩ := List.mem_map.1 inside
  exact AuthStatement.flatten_nests (statements source member)

/-- Decoding undoes writing. Configurations and documents come back from their texts, in
every layout, exactly if they have no bare null. Whatever was decoded has none; so it can be
written and decoded again, and the new text of a configuration gives the same document as
the old one, however that was spelled. -/
theorem policy_texts_return (layout : Json.Layout) (blank : layout.Blank) :
    (∀ config : AuthPolicyConfig, config.FloatFree → config.toJson.NestsWithin 127 →
      (AuthPolicyConfig.decoder.run (String.ofList (config.toJson.write layout 0)) = .ok config ↔
        config.NullFree)) ∧
    (∀ document : PolicyDocument, document.FloatFree → document.toJson.NestsWithin 127 →
      (decoder.run (String.ofList (document.toJson.write layout 0)) = .ok document ↔
        document.NullFree)) ∧
    (∀ text config, AuthPolicyConfig.decoder.run text = .ok config → config.NullFree ∧
      (config.FloatFree →
        AuthPolicyConfig.decoder.run (String.ofList (config.toJson.write layout 0)) =
          .ok config ∧
        ofText (String.ofList (config.toJson.write layout 0)) = ofText text)) ∧
    ∀ text document, decoder.run text = .ok document → document.NullFree ∧
      (document.FloatFree →
        decoder.run (String.ofList (document.toJson.write layout 0)) = .ok document) := by
  refine ⟨?configs, ?documents, ?decodedConfigs, ?decodedDocuments⟩
  case configs =>
    intro config free nests
    constructor
    · exact AuthPolicyConfig.null_free_of_run
    · intro present
      exact AuthPolicyConfig.run_write blank present free nests
  case documents =>
    intro document free nests
    constructor
    · exact null_free_of_run
    · intro present
      exact run_write blank present free nests
  case decodedConfigs =>
    intro text config decoded
    refine ⟨AuthPolicyConfig.null_free_of_run decoded, ?_⟩
    intro free
    have again := AuthPolicyConfig.run_write_of_run blank decoded free
    refine ⟨again, ?_⟩
    rw [ofText, ofText, again, decoded]
  case decodedDocuments =>
    intro text document decoded
    refine ⟨null_free_of_run decoded, ?_⟩
    intro free
    exact run_write_of_run blank decoded free

/-- Spelled in another way than it is written: arrays stand for objects, an effect is known by
other names, what is not set is null, and a key is repeated inside the conditions. -/
def sampleText : String :=
  "[[[\"allow\",null,\"a\"],\x7b\"conditions\":\x7b\"b\":1,\"a\":[true],\"b\":null\x7d," ++
  "\"resources\":[\"b\"],\"principal\":\"*\",\"effect\":\x7b\"DENY\":null\x7d\x7d]]"

def sampleConfig : AuthPolicyConfig :=
  ⟨[⟨.allow, none, .one "a", none⟩,
    ⟨.deny, some (.ofJson (.string "*")), .many ["b"],
      some (.ofJson (.object [("a", .array [.bool true]), ("b", .null)]))⟩]⟩

def sampleDocument : PolicyDocument := ofStatements sampleConfig.statements

theorem sample_decoded : AuthPolicyConfig.decoder.run sampleText = .ok sampleConfig := by cbv

theorem sample_float_free : sampleConfig.FloatFree := by
  intro statement member
  simp only [sampleConfig, List.mem_cons, List.not_mem_nil, or_false] at member
  rcases member with rfl | rfl
  case inl => constructor <;> intro form none <;> cases none
  case inr => constructor <;> intro form some <;> cases some <;> cbv

theorem sample_policy_returns :
    AuthPolicyConfig.decoder.run sampleText = .ok sampleConfig ∧
    AuthPolicyConfig.decoder.run sampleConfig.toJson.compact = .ok sampleConfig ∧
    AuthPolicyConfig.decoder.run sampleConfig.toJson.pretty = .ok sampleConfig ∧
    ofText sampleConfig.toJson.compact = ofText sampleText ∧
    decoder.run sampleDocument.text = .ok sampleDocument ∧
    decoder.run sampleDocument.toJson.pretty = .ok sampleDocument := by
  have nests : sampleConfig.toJson.NestsWithin 127 := by cbv
  have freeDocument : sampleDocument.FloatFree := of_statements_float_free sample_float_free
  obtain ⟨_, documents, configs, _⟩ := policy_texts_return .compact Json.Layout.blank_compact
  obtain ⟨written, _, _, again⟩ := policy_texts_return .pretty Json.Layout.blank_pretty
  obtain ⟨present, returns⟩ := configs sampleText sampleConfig sample_decoded
  obtain ⟨returned, same⟩ := returns sample_float_free
  have compact := (documents sampleDocument freeDocument (of_statements_nests nests)).2
    (of_statements_null_free present)
  obtain ⟨_, pretty⟩ := again _ sampleDocument compact
  exact ⟨sample_decoded, returned, (written sampleConfig sample_float_free nests).2 present, same,
    compact, pretty freeDocument⟩

end PolicyDocument

end MeshRouting

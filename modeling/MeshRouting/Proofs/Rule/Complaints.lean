import MeshRouting.Proofs.Decoding.Objections
import MeshRouting.Proofs.Rule.Grammar

/-!
What is said of a rule that cannot be read. Its own members are gone through first, then what
is missing of them, and only then the members that make up its match. So what is said of the
name, the priority and the action does not depend on anything else in the rule.
-/

namespace MeshRouting

open Json (Complaint FirstObjection IsList IsText IsWord AtMostOnce Objections
  memberSources within without)

theorem ActionSpec.decoder_minds_shape : ActionSpec.decoder.MindsShape :=
  Decoder.choice_minds_shape _ _

namespace PathMatchSpec

theorem decoder_minds_shape : decoder.MindsShape := by
  have matchType := Fields.one_minds_shape ⟨"matchType", []⟩ none Decoder.string_minds_shape
  have value := Fields.one_minds_shape ⟨"value", []⟩ none Decoder.string_minds_shape
  have case := Fields.one_minds_shape ⟨"caseSensitive", []⟩ (some none)
    (Decoder.optional_minds_shape Decoder.boolean_minds_shape)
  exact Decoder.record_minds_shape _ (Fields.map_minds_shape _
    (Fields.and_mind_shape matchType (Fields.and_mind_shape value case)))

end PathMatchSpec

namespace HeaderMatchSpec

theorem decoder_minds_shape : decoder.MindsShape := by
  have headerName := Fields.one_minds_shape ⟨"headerName", []⟩ none Decoder.string_minds_shape
  have operator := Fields.one_minds_shape ⟨"operator", []⟩ none Decoder.string_minds_shape
  have value := Fields.one_minds_shape ⟨"value", []⟩ none Decoder.string_minds_shape
  have case := Fields.one_minds_shape ⟨"caseSensitive", []⟩ (some none)
    (Decoder.optional_minds_shape Decoder.boolean_minds_shape)
  exact Decoder.record_minds_shape _ (Fields.map_minds_shape _ (Fields.and_mind_shape headerName
    (Fields.and_mind_shape operator (Fields.and_mind_shape value case))))

end HeaderMatchSpec

namespace RuleSpec

/-- A rule leaves room for 126 more arrays and objects in the values of its members. -/
def inside : Context := ⟨126, true⟩

/-- What is said against a value under a key of a rule: what is said of the value alone. -/
def Refuses (key : String) (value : Json) (mismatch : Mismatch) : Prop :=
  match key with
  | "name" => Decoder.string inside value.toSource = .error (.mismatch mismatch)
  | "priority" => Decoder.word32 inside value.toSource = .error (.mismatch mismatch)
  | "action" => ActionSpec.decoder inside value.toSource = .error (.mismatch mismatch)
  | "methodMatch" =>
      Decoder.string.optional inside value.toSource = .error (.mismatch mismatch)
  | "pathMatch" =>
      PathMatchSpec.decoder.optional inside value.toSource = .error (.mismatch mismatch)
  | "headerMatches" =>
      (Decoder.list HeaderMatchSpec.decoder).optional inside value.toSource =
        .error (.mismatch mismatch)
  | _ => False

/-- The key takes the value: the value has the shape that the grammar of rules asks for. -/
def Takes (key : String) (value : Json) : Prop :=
  match key with
  | "name" => ∃ name, IsText value name
  | "priority" => ∃ priority, IsWord value priority
  | "action" => ∃ action, ActionSpec.Shape value action
  | "methodMatch" => ∃ method, AtMostOnce IsText [value] method
  | "pathMatch" => ∃ path, AtMostOnce PathMatchSpec.Shape [value] path
  | "headerMatches" => ∃ headers, AtMostOnce (IsList HeaderMatchSpec.Shape) [value] headers
  | _ => False

/-- What is said of the name, the priority and the action. -/
def OwnComplaint (members : List (String × Json)) (mismatch : Mismatch) : Prop :=
  Complaint Refuses ["name", "priority", "action"] ["name", "priority", "action"] members mismatch

/-- What is said of a rule. The members of its match are spoken of only if nothing is said of
its own. -/
inductive Report (members : List (String × Json)) : Mismatch → Prop
  | own {mismatch : Mismatch} (complaint : OwnComplaint members mismatch) : Report members mismatch
  | kinds {mismatch : Mismatch} (fine : ∀ another, ¬ OwnComplaint members another)
      (first : FirstObjection Refuses ["methodMatch", "pathMatch", "headerMatches"] members mismatch) :
      Report members mismatch

theorem optional_text_minds_shape : Decoder.string.optional.MindsShape :=
  Decoder.optional_minds_shape Decoder.string_minds_shape

theorem optional_path_minds_shape : PathMatchSpec.decoder.optional.MindsShape :=
  Decoder.optional_minds_shape PathMatchSpec.decoder_minds_shape

theorem optional_headers_mind_shape : (Decoder.list HeaderMatchSpec.decoder).optional.MindsShape :=
  Decoder.optional_minds_shape (Decoder.list_minds_shape HeaderMatchSpec.decoder_minds_shape)

/-- A key refuses what it does not take, and nothing else. -/
theorem refuses_iff {key : String} {value : Json} (known : key ∈ knownKeys)
    (nests : value.NestsWithin 126) : (∃ mismatch, Refuses key value mismatch) ↔ ¬ Takes key value := by
  have method := Decoder.optional_reads_exactly Decoder.string_reads_exactly (by simp [IsText])
  have path := Decoder.optional_reads_exactly PathMatchSpec.decoder_reads_exactly
    (by rintro _ ⟨_, ⟨⟩, _⟩)
  have headers := Decoder.optional_reads_exactly
    (Decoder.list_reads_exactly HeaderMatchSpec.decoder_reads_exactly) (by simp [IsList])
  simp only [knownKeys, List.mem_cons, List.not_mem_nil, or_false] at known
  rcases known with rfl | rfl | rfl | rfl | rfl | rfl
  · exact Decoder.refused_iff Decoder.string_reads_exactly Decoder.string_minds_shape nests
  · exact Decoder.refused_iff Decoder.word32_reads_exactly Decoder.word32_minds_shape nests
  · exact Decoder.refused_iff ActionSpec.decoder_reads_exactly ActionSpec.decoder_minds_shape nests
  · exact Decoder.refused_iff method optional_text_minds_shape nests
  · exact Decoder.refused_iff path optional_path_minds_shape nests
  · exact Decoder.refused_iff headers optional_headers_mind_shape nests

/-- The reader of a field says what its key refuses, if it says the same of trees read before. -/
theorem objections_raise {decoder : Decoder α} {key : String} {buffered : Bool}
    (minds : decoder.MindsShape)
    (alike : ∀ source, decoder ⟨126, buffered⟩ source = decoder inside source)
    (same : ∀ value mismatch, Refuses key value mismatch ↔
      decoder inside value.toSource = .error (.mismatch mismatch)) :
    (Fields.objections key decoder ⟨126, buffered⟩).Raise Refuses [key] 126 := by
  apply Objections.field_raises
  intro value error nests
  simp only [alike, same]
  exact Decoder.error_iff_refused minds nests

/-- The rule's own members are read in place. -/
theorem own_raise : ((Fields.objections "name" Decoder.string ⟨126, false⟩).or
    ((Fields.objections "priority" Decoder.word32 ⟨126, false⟩).or
      (Fields.objections "action" ActionSpec.decoder ⟨126, false⟩))).Raise Refuses
        ["name", "priority", "action"] 126 := by
  have name := @objections_raise _ _ "name" false Decoder.string_minds_shape
    (Decoder.string_reads_alike 126) fun _ _ => Iff.rfl
  have priority := @objections_raise _ _ "priority" false Decoder.word32_minds_shape
    (Decoder.word32_reads_alike 126) fun _ _ => Iff.rfl
  have action := @objections_raise _ _ "action" false ActionSpec.decoder_minds_shape
    (Decoder.choice_reads_alike _ _ 126) fun _ _ => Iff.rfl
  exact Objections.or_raises name (Objections.or_raises priority action (by decide)) (by decide)

/-- The members of the match have been read before, as have those of other keys. -/
theorem kinds_raise : ((Fields.objections "methodMatch" Decoder.string.optional inside).or
    ((Fields.objections "pathMatch" PathMatchSpec.decoder.optional inside).or
      (Fields.objections "headerMatches" (Decoder.list HeaderMatchSpec.decoder).optional
        inside))).Raise Refuses ["methodMatch", "pathMatch", "headerMatches"] 126 := by
  have method := @objections_raise _ _ "methodMatch" true optional_text_minds_shape
    (fun _ => rfl) fun _ _ => Iff.rfl
  have path := @objections_raise _ _ "pathMatch" true optional_path_minds_shape
    (fun _ => rfl) fun _ _ => Iff.rfl
  have headers := @objections_raise _ _ "headerMatches" true optional_headers_mind_shape
    (fun _ => rfl) fun _ _ => Iff.rfl
  exact Objections.or_raises method (Objections.or_raises path headers (by decide)) (by decide)

variable {members others : List (String × Json)} {error : DecodeError} {mismatch : Mismatch}

theorem own_error_iff (nest : Json.MembersNestWithin 126 members) :
    (∃ problem, fields.read ⟨126, false⟩ Decoder.missingField (memberSources members) =
      .error problem ∧ problem.error = error) ↔
        ∃ mismatch, error = .mismatch mismatch ∧ OwnComplaint members mismatch := by
  have order := Fields.and_report_in_order
    (Fields.one_reports_in_order "name" Decoder.string none ⟨126, false⟩)
    (Fields.and_report_in_order
      (Fields.one_reports_in_order "priority" Decoder.word32 none ⟨126, false⟩)
      (Fields.one_reports_in_order "action" ActionSpec.decoder none ⟨126, false⟩))
  exact Fields.error_iff_complaint order own_raise nest

theorem kinds_error_iff (nest : Json.MembersNestWithin 126 members) :
    (∃ problem, MatchSpec.fields.read inside Decoder.missingField (memberSources members) =
      .error problem ∧ problem.error = error) ↔
        ∃ mismatch, error = .mismatch mismatch ∧
          FirstObjection Refuses ["methodMatch", "pathMatch", "headerMatches"] members mismatch := by
  have order := Fields.and_report_in_order
    (Fields.one_reports_in_order "methodMatch" Decoder.string.optional (some none) inside)
    (Fields.and_report_in_order
      (Fields.one_reports_in_order "pathMatch" PathMatchSpec.decoder.optional (some none) inside)
      (Fields.one_reports_in_order "headerMatches"
        (Decoder.list HeaderMatchSpec.decoder).optional (some none) inside))
  simp only [← Json.complaint_nil_iff]
  exact Fields.error_iff_complaint order kinds_raise nest

/-- The match is read from what the rule sets aside, and sees no other members. -/
theorem kinds_error_without_iff (nest : Json.MembersNestWithin 126 members) :
    (∃ problem, MatchSpec.fields.read inside Decoder.missingField
      (memberSources (without fields.keys members)) = .error problem ∧ problem.error = error) ↔
        ∃ mismatch, error = .mismatch mismatch ∧
          FirstObjection Refuses ["methodMatch", "pathMatch", "headerMatches"] members mismatch := by
  have aside := Json.without_nests fields.keys nest
  have apart : ∀ key ∈ ["methodMatch", "pathMatch", "headerMatches"], key ∉ fields.keys := by decide
  have same := Json.within_without apart members
  rw [kinds_error_iff aside]
  simp only [Objections.first_objection_of_same kinds_raise aside nest same]

theorem match_error_iff (nest : Json.MembersNestWithin 126 members) :
    MatchSpec.ofMembers inside (memberSources members) (.ok ()) = .error error ↔
      ∃ problem, MatchSpec.fields.read inside Decoder.missingField (memberSources members) =
        .error problem ∧ problem.error = error := by
  rw [← @Decoder.read_and_keep_error_iff _ _ inside members nest]
  unfold MatchSpec.ofMembers
  cases Decoder.readAndKeep MatchSpec.fields inside (memberSources members) (.ok ()) <;>
    simp [bind, Except.bind]

/-- The match is read only if the rule's own members are. -/
theorem of_members_error_iff (nest : Json.MembersNestWithin 126 members) :
    ofMembers ⟨126, false⟩ (memberSources members) (.ok ()) = .error error ↔
      ∃ mismatch, error = .mismatch mismatch ∧ Report members mismatch := by
  have own {error : DecodeError} := (@Decoder.read_and_keep_error_iff _ fields ⟨126, false⟩ members
    nest error).trans (own_error_iff nest)
  have kinds := (@match_error_iff _ error (Json.without_nests fields.keys nest)).trans
    (kinds_error_without_iff nest)
  unfold ofMembers
  cases kept : Decoder.readAndKeep fields ⟨126, false⟩ (memberSources members) (.ok ()) with
  | error first =>
      constructor
      · intro failed
        cases failed
        obtain ⟨mismatch, same, complaint⟩ := own.1 kept
        exact ⟨mismatch, same, .own complaint⟩
      · rintro ⟨mismatch, rfl, report⟩
        cases report with
        | own complaint =>
            cases kept.symm.trans (own.2 ⟨mismatch, rfl, complaint⟩)
            rfl
        | kinds fine =>
            obtain ⟨another, _, complaint⟩ := own.1 kept
            exact absurd complaint (fine another)
  | ok parts =>
      obtain ⟨⟨name, priority, action⟩, others⟩ := parts
      have fine : ∀ mismatch, ¬ OwnComplaint members mismatch := by
        intro mismatch complaint
        rw [own.2 ⟨mismatch, rfl, complaint⟩] at kept
        cases kept
      obtain ⟨_, rfl⟩ := (Decoder.read_and_keep_member_sources_iff nest).1 kept
      have passed : (do
          let matchSpec ← MatchSpec.ofMembers inside
            (memberSources (without fields.keys members)) (.ok ())
          Except.ok (RuleSpec.mk name priority action matchSpec)) = .error error ↔
            MatchSpec.ofMembers inside (memberSources (without fields.keys members)) (.ok ()) =
              .error error := by
        cases MatchSpec.ofMembers inside (memberSources (without fields.keys members)) (.ok ()) <;>
          simp [bind, Except.bind]
      refine (passed.trans kinds).trans ?_
      constructor
      · rintro ⟨mismatch, rfl, first⟩
        exact ⟨mismatch, rfl, .kinds fine first⟩
      · rintro ⟨mismatch, rfl, report⟩
        cases report with
        | own complaint => exact absurd complaint (fine mismatch)
        | kinds _ first => exact ⟨mismatch, rfl, first⟩

/-- The text of an object that is no rule is rejected with what is said of the rule. -/
theorem run_error_iff {text : String} (read : Decoder.json.run text = .ok (.object members)) :
    decoder.run text = .error error ↔ ∃ mismatch, error = .mismatch mismatch ∧
      Report members mismatch := by
  obtain ⟨_, _, nests⟩ := Decoder.source_of_json_run read
  rw [Decoder.run_of_json_run decoder read, ← of_members_error_iff nests]
  exact Iff.rfl

/-- Of a rule that cannot be read the complaint about its own members comes first: that about
the first of them in the text that is not taken or is there again, or else that about the first
one missing. Only then comes the first member of the match that is not taken or is there again.
So a complaint about the rule's own members is the same whatever stands between them. -/
theorem complaints_come_in_order (text : String) (members : List (String × Json))
    (read : Decoder.json.run text = .ok (.object members)) :
    (∀ error, decoder.run text = .error error ↔
      ∃ mismatch, error = .mismatch mismatch ∧ Report members mismatch) ∧
    (∀ mismatch, OwnComplaint members mismatch → ∀ other others,
      Decoder.json.run other = .ok (.object others) →
        within ["name", "priority", "action"] members =
          within ["name", "priority", "action"] others →
            decoder.run other = .error (.mismatch mismatch)) ∧
    ∀ member ∈ members, member.1 ∈ knownKeys →
      ((∃ mismatch, Refuses member.1 member.2 mismatch) ↔ ¬ Takes member.1 member.2) := by
  obtain ⟨_, _, nests⟩ := Decoder.source_of_json_run read
  refine ⟨?_, ?_, ?_⟩
  · intro error
    exact run_error_iff read
  · intro mismatch complaint other others readOther same
    obtain ⟨_, _, nestsOther⟩ := Decoder.source_of_json_run readOther
    have alike := Objections.complaint_of_same own_raise nests nestsOther same (fun _ => id) complaint
    exact (run_error_iff readOther).2 ⟨mismatch, rfl, .own alike⟩
  · intro member inside known
    exact refuses_iff known (Json.members_nest_iff.1 nests member inside)

def faultyMembers : List (String × Json) :=
  [("pathMatch", .number (.ofWord 5)), ("priority", .number (.ofWord 1)), ("note", .array []),
    ("priority", .string "x"), ("name", .null)]

/-- The path of the match is no path, the second priority is no number, the name is null and
there is no action. -/
def faultyText : String :=
  "\x7b\"pathMatch\":5,\"priority\":1,\"note\":[],\"priority\":\"x\",\"name\":null\x7d"

/-- The rule's own members of that text, and nothing else. -/
def bareText : String := "\x7b\"priority\":1,\"priority\":\"x\",\"name\":null\x7d"

theorem second_priority_reported :
    decoder.run faultyText = .error (.mismatch (.duplicateField "priority")) ∧
    decoder.run bareText = .error (.mismatch (.duplicateField "priority")) := by
  have read : Decoder.json.run faultyText = .ok (.object faultyMembers) := by cbv
  have readBare : Decoder.json.run bareText = .ok (.object
      [("priority", .number (.ofWord 1)), ("priority", .string "x"), ("name", .null)]) := by cbv
  have complaint : OwnComplaint faultyMembers (.duplicateField "priority") := by
    refine .objection ⟨3, _, rfl, .repeated (by decide) (by decide), ?_⟩
    intro earlier before other found another objection
    have known := Json.known_of_objection objection
    obtain rfl | rfl | rfl : earlier = 0 ∨ earlier = 1 ∨ earlier = 2 := by omega
    · cases found
      simp at known
    · cases found
      generalize first : List.take 1 faultyMembers = before at objection
      cases objection with
      | unfit _ _ refused =>
          have accepted : Decoder.word32 inside (Json.number (.ofWord 1)).toSource = .ok 1 := by cbv
          cases accepted.symm.trans refused
      | repeated _ again =>
          rw [← first] at again
          simp [faultyMembers] at again
    · cases found
      simp at known
  obtain ⟨reported, alike, _⟩ := complaints_come_in_order faultyText faultyMembers read
  exact ⟨(reported _).2 ⟨_, rfl, .own complaint⟩, alike _ complaint bareText _ readBare rfl⟩

end RuleSpec

end MeshRouting

import MeshRouting.Proofs.Rule.Grammar

/-!
A match among the members of its rule. The members of a match may stand before, between and
after those of the rule itself. However they are woven, the rule is read exactly if the match
is read that stands alone, and the two matches are the same.
-/

namespace MeshRouting

open Json (valuesOf without IsText IsWord Once)

/-- The third list is woven from the other two, and keeps the order of each. -/
inductive Interleaved : List α → List α → List α → Prop
  | nil : Interleaved [] [] []
  | left {item : α} {first second whole : List α} (rest : Interleaved first second whole) :
      Interleaved (item :: first) second (item :: whole)
  | right {item : α} {first second whole : List α} (rest : Interleaved first second whole) :
      Interleaved first (item :: second) (item :: whole)

namespace Interleaved

variable {first second whole : List α}

theorem swap (woven : Interleaved first second whole) : Interleaved second first whole := by
  induction woven with
  | nil => exact .nil
  | left _ induction => exact .right induction
  | right _ induction => exact .left induction

/-- What no item of the second list satisfies is found in the first one, in its order. -/
theorem filter_eq_left (woven : Interleaved first second whole) {p : α → Bool}
    (others : ∀ item ∈ second, p item = false) : whole.filter p = first.filter p := by
  induction woven with
  | nil => rfl
  | left _ induction =>
      rw [List.filter_cons, List.filter_cons, induction others]
  | right _ induction =>
      rw [List.forall_mem_cons] at others
      rw [List.filter_cons, others.1, induction others.2]
      rfl

end Interleaved

namespace Json

variable {first second whole : List (String × Json)} {keys : List String}

theorem values_of_interleaved (woven : Interleaved first second whole)
    (apart : ∀ member ∈ second, member.1 ∉ keys) : valuesOf keys whole = valuesOf keys first := by
  unfold valuesOf
  rw [woven.filter_eq_left (by simpa using apart)]

theorem without_interleaved (woven : Interleaved first second whole)
    (known : ∀ member ∈ second, member.1 ∈ keys) : without keys whole = without keys first := by
  unfold without
  rw [woven.filter_eq_left (by simpa using known)]

end Json

namespace RuleSpec

/-- The members that a rule has of its own, each once and in any order. -/
structure OwnToldBy (name : String) (priority : UInt32) (action : ActionSpec)
    (members : List (String × Json)) : Prop where
  keys : (members.map (·.1)).Perm ["name", "priority", "action"]
  name : Once IsText (valuesOf ["name"] members) name
  priority : Once IsWord (valuesOf ["priority"] members) priority
  action : Once ActionSpec.Shape (valuesOf ["action"] members) action

variable {name : String} {priority : UInt32} {action : ActionSpec}
  {members own whole : List (String × Json)}

/-- Each of the three looks under its own key, and there finds what the match is not told by. -/
theorem own_told_by_interleaved (told : OwnToldBy name priority action own)
    (apart : ∀ member ∈ members, member.1 ∉ fields.keys) (woven : Interleaved members own whole) :
    Once IsText (valuesOf ["name"] whole) name ∧
      Once IsWord (valuesOf ["priority"] whole) priority ∧
      Once ActionSpec.Shape (valuesOf ["action"] whole) action := by
  have same : ∀ key ∈ fields.keys, valuesOf [key] whole = valuesOf [key] own := by
    intro key known
    apply Json.values_of_interleaved woven.swap
    intro member inside here
    exact apart member inside ((List.mem_singleton.1 here).symm ▸ known)
  rw [same "name" (by decide), same "priority" (by decide), same "action" (by decide)]
  exact ⟨told.name, told.priority, told.action⟩

theorem keys_of_own_told_by (told : OwnToldBy name priority action own) :
    ∀ member ∈ own, member.1 ∈ fields.keys := by
  intro member inside
  exact told.keys.mem_iff.1 (List.mem_map_of_mem inside)

/-- The match looks under keys that are not the rule's, and so sees its own members only. -/
theorem match_told_by_interleaved_iff (told : OwnToldBy name priority action own)
    (apart : ∀ member ∈ members, member.1 ∉ fields.keys) (woven : Interleaved members own whole)
    {spec : MatchSpec} :
    spec.KindsToldBy whole ∧ (Json.object (without knownKeys whole)).ResolvesTo
      (.object spec.unrecognized.members) ↔ spec.ToldBy members := by
  have ours := keys_of_own_told_by told
  have same : ∀ key ∈ MatchSpec.fields.keys, valuesOf [key] whole = valuesOf [key] members := by
    intro key known
    apply Json.values_of_interleaved woven
    intro member inside here
    have disjoint : ∀ key ∈ MatchSpec.fields.keys, key ∉ fields.keys := by decide
    exact disjoint key known (List.mem_singleton.1 here ▸ ours member inside)
  have kept : without knownKeys whole = without MatchSpec.fields.keys members := by
    have unowned : without fields.keys members = members := Json.without_eq_self apart
    have known : ∀ member ∈ own, member.1 ∈ knownKeys := fun member inside =>
      List.mem_append_left MatchSpec.fields.keys (ours member inside)
    rw [Json.without_interleaved woven known]
    change without (fields.keys ++ MatchSpec.fields.keys) members = _
    rw [← Json.without_without, unowned]
  rw [kept]
  constructor
  · rintro ⟨kinds, unrecognized⟩
    exact ⟨MatchSpec.kinds_told_by_of_same (fun key known => (same key known).symm) kinds,
      unrecognized⟩
  · intro alone
    exact ⟨MatchSpec.kinds_told_by_of_same same alone.kinds, alone.unrecognized⟩

theorem told_by_interleaved_iff (told : OwnToldBy name priority action own)
    (apart : ∀ member ∈ members, member.1 ∉ fields.keys) (woven : Interleaved members own whole)
    {room : Nat} (nest : Json.MembersNestWithin room whole) {spec : RuleSpec} :
    spec.ToldBy whole ↔
      (spec.name, spec.priority, spec.action) = (name, priority, action) ∧
        spec.matchSpec.ToldBy members := by
  have named := own_told_by_interleaved told apart woven
  rw [← match_told_by_interleaved_iff told apart woven]
  constructor
  · intro ruled
    -- The fields are read from the same members, so they are the same.
    have expected := (@own_read_iff ⟨room, false⟩ _ Decoder.missingField _ _ _ nest).2 named
    have found := (@own_read_iff ⟨room, false⟩ _ Decoder.missingField _ _ _ nest).2
      ⟨ruled.name, ruled.priority, ruled.action⟩
    exact ⟨Except.ok.inj (found.symm.trans expected), ruled.kinds, ruled.unrecognized⟩
  · rintro ⟨same, kinds, unrecognized⟩
    obtain ⟨ruleName, rulePriority, ruleAction, matchSpec⟩ := spec
    cases same
    exact ⟨named.1, named.2.1, named.2.2, kinds, unrecognized⟩

/-- A match that stands alone and the same match woven into a rule are both read or both
rejected, and read they are the same. -/
theorem interleaved_matches_agree (members own whole : List (String × Json))
    (name : String) (priority : UInt32) (action : ActionSpec) (text ruleText : String)
    (apart : ∀ member ∈ members, member.1 ∉ ["name", "priority", "action"])
    (told : OwnToldBy name priority action own) (woven : Interleaved members own whole)
    (alone : Decoder.json.run text = .ok (.object members))
    (together : Decoder.json.run ruleText = .ok (.object whole)) :
    ((∃ matchSpec, MatchSpec.decoder.run text = .ok matchSpec) ↔
      ∃ rule, decoder.run ruleText = .ok rule) ∧
    ∀ matchSpec rule, MatchSpec.decoder.run text = .ok matchSpec →
      decoder.run ruleText = .ok rule → rule = ⟨name, priority, action, matchSpec⟩ := by
  obtain ⟨_, _, nest⟩ := Decoder.source_of_json_run together
  have matched {matchSpec : MatchSpec} : MatchSpec.decoder.run text = .ok matchSpec ↔
      matchSpec.ToldBy members := by
    rw [Decoder.run_eq_ok_iff_of_json_run MatchSpec.decoder_reads_exactly alone, Json.is_object_iff]
  have ruled {rule : RuleSpec} : decoder.run ruleText = .ok rule ↔
      (rule.name, rule.priority, rule.action) = (name, priority, action) ∧
        MatchSpec.decoder.run text = .ok rule.matchSpec := by
    rw [Decoder.run_eq_ok_iff_of_json_run decoder_reads_exactly together, Json.is_object_iff,
      @told_by_interleaved_iff _ _ _ _ _ _ told apart woven 126 nest, matched]
  refine ⟨⟨?_, ?_⟩, ?_⟩
  · rintro ⟨matchSpec, read⟩
    exact ⟨⟨name, priority, action, matchSpec⟩, ruled.2 ⟨rfl, read⟩⟩
  · rintro ⟨rule, read⟩
    exact ⟨rule.matchSpec, (ruled.1 read).2⟩
  · intro matchSpec rule read readTogether
    obtain ⟨same, readWithin⟩ := ruled.1 readTogether
    obtain ⟨ruleName, rulePriority, ruleAction, within⟩ := rule
    cases same
    rw [Except.ok.inj (read.symm.trans readWithin)]

def looseMembers : List (String × Json) :=
  [("methodMatch", .string "GET"), ("pathMach", .null), ("headerMatches", .null),
    ("pathMach", .array [])]

def looseMatch : MatchSpec :=
  ⟨some "GET", none, none, .ofList [("pathMach", .array [])]⟩

def looseText : String :=
  "\x7b\"methodMatch\":\"GET\",\"pathMach\":null,\"headerMatches\":null,\"pathMach\":[]\x7d"

/-- The members of the match stand on both sides of each member of the rule. -/
def wovenText : String :=
  "\x7b\"methodMatch\":\"GET\",\"action\":200,\"pathMach\":null,\"name\":\"r\"," ++
  "\"headerMatches\":null,\"priority\":1,\"pathMach\":[]\x7d"

theorem woven_text_agrees :
    MatchSpec.decoder.run looseText = .ok looseMatch ∧
    decoder.run wovenText = .ok ⟨"r", 1, .respond 200, looseMatch⟩ := by
  have alone : Decoder.json.run looseText = .ok (.object looseMembers) := by cbv
  have together : Decoder.json.run wovenText = .ok (.object
      [("methodMatch", .string "GET"), ("action", .number (.ofWord 200)), ("pathMach", .null),
        ("name", .string "r"), ("headerMatches", .null), ("priority", .number (.ofWord 1)),
        ("pathMach", .array [])]) := by cbv
  have read : MatchSpec.decoder.run looseText = .ok looseMatch := by cbv
  have told : OwnToldBy "r" 1 (.respond 200) [("action", .number (.ofWord 200)),
      ("name", .string "r"), ("priority", .number (.ofWord 1))] :=
    ⟨by decide, ⟨_, rfl, rfl⟩, ⟨_, rfl, _, rfl⟩, ⟨_, rfl, .status ⟨_, rfl⟩⟩⟩
  have apart : ∀ member ∈ looseMembers, member.1 ∉ ["name", "priority", "action"] := by
    simp [looseMembers]
  obtain ⟨both, same⟩ := interleaved_matches_agree _ _ _ _ _ _ _ _ apart told
    (.left (.right (.left (.right (.left (.right (.left .nil))))))) alone together
  obtain ⟨rule, ruled⟩ := both.1 ⟨looseMatch, read⟩
  rw [same looseMatch rule read ruled] at ruled
  exact ⟨read, ruled⟩

end RuleSpec

end MeshRouting

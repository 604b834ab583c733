import MeshRouting.Proofs.Json.Access
import MeshRouting.Proofs.Rule.Writing
import MeshRouting.Rule.Basic

/-!
The documented form of a rule that is handed to provisioning: which keys each object has,
and what stands under them. A rule is written in this form, and the form tells the rule.
-/

namespace MeshRouting

open Json (Tells)

structure TargetGroup.Provisioned (group : TargetGroup) (value : Json) : Prop where
  keys : value.keys = ["targetGroupIdentifier", "weight"]
  identifier : value.string? "targetGroupIdentifier" = some group.identifier
  weight : value.integer? "weight" = some group.weight.toNat

/-- A number under the key of its kind. -/
structure FixedStatus (status : UInt32) (value : Json) : Prop where
  keys : value.keys = ["statusCode"]
  status : value.integer? "statusCode" = some status.toNat

structure ForwardedGroups (groups : List TargetGroup) (value : Json) : Prop where
  keys : value.keys = ["targetGroups"]
  groups : value.Lists "targetGroups" TargetGroup.Provisioned groups

/-- The one key is that of the kind of action. -/
def Action.Provisioned : Action → Json → Prop
  | .respond status, value => value.HasOnly "fixedResponse" (FixedStatus status)
  | .forward groups, value => value.HasOnly "forward" (ForwardedGroups groups)

/-- A text under the key of its comparison. -/
structure ComparedText (key text : String) (value : Json) : Prop where
  keys : value.keys = [key]
  text : value.string? key = some text

structure PathMatch.Provisioned (path : PathMatch) (value : Json) : Prop where
  keys : value.keys = ["match", "caseSensitive"]
  comparison : value.Has "match" (ComparedText (match path.comparison with
    | .exact => "exact"
    | .startsWith => "prefix") path.value)
  caseSensitive : value.bool? "caseSensitive" = some path.caseSensitive

structure HeaderMatch.Provisioned (header : HeaderMatch) (value : Json) : Prop where
  keys : value.keys = ["name", "match", "caseSensitive"]
  name : value.string? "name" = some header.name
  comparison : value.Has "match" (ComparedText (match header.comparison with
    | .exact => "exact"
    | .contains => "contains"
    | .startsWith => "prefix") header.value)
  caseSensitive : value.bool? "caseSensitive" = some header.caseSensitive

/-- The one key is that of the kind of criterion. -/
def Criterion.Provisioned : Criterion → Json → Prop
  | .method selected, value => value.keys = ["method"] ∧
      value.string? "method" = some (match selected with
        | .get => "GET"
        | .post => "POST"
        | .put => "PUT"
        | .delete => "DELETE"
        | .patch => "PATCH"
        | .head => "HEAD"
        | .options => "OPTIONS"
        | .connect => "CONNECT"
        | .trace => "TRACE")
  | .path matched, value => value.HasOnly "pathMatch" matched.Provisioned
  | .headers all, value =>
      value.keys = ["headerMatches"] ∧ value.Lists "headerMatches" HeaderMatch.Provisioned all

/-- A rule of the listener with this identifier. -/
structure Rule.Provisioned (listener : String) (rule : Rule) (value : Json) : Prop where
  keys : value.keys = ["name", "listenerIdentifier", "priority", "action", "match"]
  name : value.string? "name" = some rule.name
  listener : value.string? "listenerIdentifier" = some listener
  priority : value.integer? "priority" = some rule.priority.toNat
  action : value.Has "action" rule.action.Provisioned
  criterion : value.Has "match" fun part => part.HasOnly "httpMatch" rule.criterion.Provisioned

/-- The number that stands for a word tells the word. -/
theorem word_of_integer {word other : UInt32} {found : Option Int} (first : found = some ↑word.toNat)
    (second : found = some ↑other.toNat) : word = other := by
  have same := first.symm.trans second
  rw [Option.some.injEq, Int.natCast_inj] at same
  exact UInt32.toNat_inj.1 same

namespace TargetGroup

theorem provisioned_to_json (group : TargetGroup) : group.Provisioned group.toJson := ⟨rfl, rfl, rfl⟩

theorem provisioned_tells : Tells Provisioned := by
  intro group other value first second
  have identifier := Option.some.inj (first.identifier.symm.trans second.identifier)
  have weight := word_of_integer first.weight second.weight
  cases group
  cases other
  simp only at identifier weight
  rw [identifier, weight]

theorem to_json_nests (group : TargetGroup) (room : Nat) : group.toJson.NestsWithin (room + 1) :=
  ⟨trivial, trivial, trivial⟩

theorem to_json_float_free (group : TargetGroup) : group.toJson.FloatFree :=
  ⟨trivial, trivial, trivial⟩

end TargetGroup

namespace Action

theorem provisioned_to_json (action : Action) : action.Provisioned action.toJson := by
  cases action with
  | respond status => exact ⟨rfl, _, rfl, rfl, rfl⟩
  | forward groups =>
      refine ⟨rfl, _, rfl, rfl, Json.lists_of_map ?_ rfl⟩
      intro group _
      exact group.provisioned_to_json

theorem provisioned_tells : Tells Provisioned := by
  intro action other value first second
  cases action <;> cases other
  case respond.respond status otherStatus =>
    obtain ⟨part, left, right⟩ := Json.has_both first.2 second.2
    rw [word_of_integer left.status right.status]
  case forward.forward groups otherGroups =>
    obtain ⟨part, left, right⟩ := Json.has_both first.2 second.2
    rw [Json.lists_tells TargetGroup.provisioned_tells left.groups right.groups]
  all_goals exact absurd (first.1.symm.trans second.1) (by decide)

theorem to_json_nests (action : Action) (room : Nat) : action.toJson.NestsWithin (room + 4) := by
  cases action with
  | respond status => exact ⟨⟨trivial, trivial⟩, trivial⟩
  | forward groups =>
      refine ⟨⟨Json.written_items_nest_iff.2 ?_, trivial⟩, trivial⟩
      intro group _
      exact group.to_json_nests room

theorem to_json_float_free (action : Action) : action.toJson.FloatFree := by
  cases action with
  | respond status => exact ⟨⟨trivial, trivial⟩, trivial⟩
  | forward groups =>
      refine ⟨⟨Json.written_items_float_free_iff.2 ?_, trivial⟩, trivial⟩
      intro group _
      exact group.to_json_float_free

end Action

/-- Comparisons are told apart by their keys. -/
theorem compared_text_tells {key other text otherText : String} {value : Json}
    (first : ComparedText key text value) (second : ComparedText other otherText value) :
    key = other ∧ text = otherText := by
  have keys := first.keys.symm.trans second.keys
  simp only [List.cons.injEq, and_true] at keys
  subst keys
  exact ⟨rfl, Option.some.inj (first.text.symm.trans second.text)⟩

namespace PathMatch

theorem provisioned_to_json (path : PathMatch) : path.Provisioned path.toJson := by
  obtain ⟨comparison, value, caseSensitive⟩ := path
  cases comparison <;> exact ⟨rfl, ⟨_, rfl, rfl, rfl⟩, rfl⟩

theorem provisioned_tells : Tells Provisioned := by
  intro path other value first second
  obtain ⟨part, left, right⟩ := Json.has_both first.comparison second.comparison
  obtain ⟨key, text⟩ := compared_text_tells left right
  have case := Option.some.inj (first.caseSensitive.symm.trans second.caseSensitive)
  obtain ⟨comparison, _, _⟩ := path
  obtain ⟨otherComparison, _, _⟩ := other
  have same : comparison = otherComparison := by
    cases comparison <;> cases otherComparison <;> simp at key ⊢
  simp only at text case
  rw [same, text, case]

theorem to_json_nests (path : PathMatch) (room : Nat) : path.toJson.NestsWithin (room + 2) :=
  ⟨⟨trivial, trivial⟩, trivial, trivial⟩

theorem to_json_float_free (path : PathMatch) : path.toJson.FloatFree :=
  ⟨⟨trivial, trivial⟩, trivial, trivial⟩

end PathMatch

namespace HeaderMatch

theorem provisioned_to_json (header : HeaderMatch) : header.Provisioned header.toJson := by
  obtain ⟨name, comparison, value, caseSensitive⟩ := header
  cases comparison <;> exact ⟨rfl, rfl, ⟨_, rfl, rfl, rfl⟩, rfl⟩

theorem provisioned_tells : Tells Provisioned := by
  intro header other value first second
  have name := Option.some.inj (first.name.symm.trans second.name)
  obtain ⟨part, left, right⟩ := Json.has_both first.comparison second.comparison
  obtain ⟨key, text⟩ := compared_text_tells left right
  have case := Option.some.inj (first.caseSensitive.symm.trans second.caseSensitive)
  obtain ⟨_, comparison, _, _⟩ := header
  obtain ⟨_, otherComparison, _, _⟩ := other
  have same : comparison = otherComparison := by
    cases comparison <;> cases otherComparison <;> simp at key ⊢
  simp only at name text case
  rw [name, same, text, case]

theorem to_json_nests (header : HeaderMatch) (room : Nat) : header.toJson.NestsWithin (room + 2) :=
  ⟨trivial, ⟨trivial, trivial⟩, trivial, trivial⟩

theorem to_json_float_free (header : HeaderMatch) : header.toJson.FloatFree :=
  ⟨trivial, ⟨trivial, trivial⟩, trivial, trivial⟩

end HeaderMatch

namespace Criterion

theorem provisioned_to_json (criterion : Criterion) : criterion.Provisioned criterion.toJson := by
  cases criterion with
  | method selected => exact ⟨rfl, by cases selected <;> rfl⟩
  | path matched => exact ⟨rfl, _, rfl, matched.provisioned_to_json⟩
  | headers all =>
      refine ⟨rfl, Json.lists_of_map ?_ rfl⟩
      intro header _
      exact header.provisioned_to_json

/-- Criteria of two kinds have different keys. -/
theorem provisioned_tells : Tells Provisioned := by
  intro criterion other value first second
  cases criterion <;> cases other
  case method.method selected otherSelected =>
    have name := Option.some.inj (first.2.symm.trans second.2)
    have same : selected = otherSelected := by
      cases selected <;> cases otherSelected <;> simp at name ⊢
    rw [same]
  case path.path matched otherMatched =>
    rw [Json.has_tells PathMatch.provisioned_tells first.2 second.2]
  case headers.headers all otherAll =>
    rw [Json.lists_tells HeaderMatch.provisioned_tells first.2 second.2]
  all_goals exact absurd (first.1.symm.trans second.1) (by decide)

theorem to_json_nests (criterion : Criterion) (room : Nat) :
    criterion.toJson.NestsWithin (room + 4) := by
  cases criterion with
  | method selected => exact ⟨trivial, trivial⟩
  | path matched => exact ⟨matched.to_json_nests (room + 1), trivial⟩
  | headers all =>
      refine ⟨Json.written_items_nest_iff.2 ?_, trivial⟩
      intro header _
      exact header.to_json_nests room

theorem to_json_float_free (criterion : Criterion) : criterion.toJson.FloatFree := by
  cases criterion with
  | method selected => exact ⟨trivial, trivial⟩
  | path matched => exact ⟨matched.to_json_float_free, trivial⟩
  | headers all =>
      refine ⟨Json.written_items_float_free_iff.2 ?_, trivial⟩
      intro header _
      exact header.to_json_float_free

end Criterion

namespace Rule

theorem provisioned_definition (listener : String) (rule : Rule) :
    rule.Provisioned listener (rule.definition listener) :=
  ⟨rfl, rfl, rfl, rfl, ⟨_, rfl, rule.action.provisioned_to_json⟩,
    ⟨_, rfl, rfl, _, rfl, rule.criterion.provisioned_to_json⟩⟩

theorem provisioned_tells (listener : String) : Tells (Provisioned listener) := by
  intro rule other value first second
  have name := Option.some.inj (first.name.symm.trans second.name)
  have priority := word_of_integer first.priority second.priority
  have action := Json.has_tells Action.provisioned_tells first.action second.action
  obtain ⟨part, left, right⟩ := Json.has_both first.criterion second.criterion
  have criterion := Json.has_tells Criterion.provisioned_tells left.2 right.2
  cases rule
  cases other
  simp only at name priority action criterion
  rw [name, priority, action, criterion]

theorem definition_nests (rule : Rule) (listener : String) (room : Nat) :
    (rule.definition listener).NestsWithin (room + 6) :=
  ⟨trivial, trivial, trivial, rule.action.to_json_nests (room + 1),
    ⟨rule.criterion.to_json_nests room, trivial⟩, trivial⟩

theorem definition_float_free (rule : Rule) (listener : String) :
    (rule.definition listener).FloatFree :=
  ⟨trivial, trivial, trivial, rule.action.to_json_float_free,
    ⟨rule.criterion.to_json_float_free, trivial⟩, trivial⟩

end Rule

end MeshRouting

import MeshRouting.Decoding.Decoder

/-!
A value read whole. A tree can be read whole exactly if it is the tree of a flawless text
and opens no more arrays and objects than there is room for; so every statement about
texts that read whole is one about JSON values.
-/

namespace MeshRouting

open Json (Head Source itemSources memberSources)

namespace Json

mutual

/-- At most `room` arrays and objects are open at a time. -/
def NestsWithin (room : Nat) : Json → Prop
  | .array items =>
      match room with
      | 0 => False
      | room + 1 => ItemsNestWithin room items
  | .object members =>
      match room with
      | 0 => False
      | room + 1 => MembersNestWithin room members
  | _ => True

def ItemsNestWithin (room : Nat) : List Json → Prop
  | [] => True
  | item :: rest => item.NestsWithin room ∧ ItemsNestWithin room rest

def MembersNestWithin (room : Nat) : List (String × Json) → Prop
  | [] => True
  | (_, value) :: rest => value.NestsWithin room ∧ MembersNestWithin room rest

end

end Json

namespace Decoder

theorem end_of_eq_ok_iff {fault : Option Json.Fault} : endOf fault = .ok () ↔ fault = none := by
  cases fault <;> simp [endOf]

mutual

theorem whole_to_source : ∀ (value : Json) (room : Nat), value.NestsWithin room →
    whole room value.toSource = .ok value
  | .null, _, _ | .bool _, _, _ | .number _, _, _ | .string _, _, _ => by
      simp [Json.toSource, whole]
  | .array _, 0, within => within.elim
  | .object _, 0, within => within.elim
  | .array items, room + 1, within => by
      have read := whole_items_item_sources items room within
      simp [Json.toSource, whole, read, endOf, bind, Except.bind]
  | .object members, room + 1, within => by
      have read := whole_members_member_sources members room within
      simp [Json.toSource, whole, read, endOf, bind, Except.bind]

theorem whole_items_item_sources : ∀ (items : List Json) (room : Nat),
    Json.ItemsNestWithin room items → wholeItems room (itemSources items) = .ok items
  | [], _, _ => by simp [itemSources, wholeItems]
  | item :: rest, room, within => by
      have first := whole_to_source item room within.1
      have others := whole_items_item_sources rest room within.2
      simp [itemSources, wholeItems, first, others, bind, Except.bind]

theorem whole_members_member_sources : ∀ (members : List (String × Json)) (room : Nat),
    Json.MembersNestWithin room members → wholeMembers room (memberSources members) = .ok members
  | [], _, _ => by simp [memberSources, wholeMembers]
  | (_, value) :: rest, room, within => by
      have first := whole_to_source value room within.1
      have others := whole_members_member_sources rest room within.2
      simp [memberSources, wholeMembers, first, others, bind, Except.bind]

end

mutual

theorem eq_to_source_of_whole : ∀ (source : Source) (room : Nat) (value : Json),
    whole room source = .ok value → source = value.toSource ∧ value.NestsWithin room
  | .leaf (.flawed _), _, _, read => by simp [whole] at read
  | .leaf .null, _, _, read | .leaf (.bool _), _, _, read | .leaf (.number _), _, _, read
  | .leaf (.string _), _, _, read => by
      simp only [whole, Except.ok.injEq] at read
      subst read
      simp [Json.toSource, Json.NestsWithin]
  | .array _ _, 0, _, read => by simp [whole] at read
  | .object _ _, 0, _, read => by simp [whole] at read
  | .array sources fault, room + 1, value, read => by
      simp only [whole, bind, Except.bind] at read
      cases items : wholeItems room sources with
      | error problem => simp [items] at read
      | ok values =>
          cases fault with
          | some fault => simp [items, endOf] at read
          | none =>
              simp only [items, endOf, Except.ok.injEq] at read
              subst read
              obtain ⟨same, within⟩ := eq_item_sources_of_whole_items sources room values items
              exact ⟨by rw [same, Json.toSource], within⟩
  | .object sources fault, room + 1, value, read => by
      simp only [whole, bind, Except.bind] at read
      cases members : wholeMembers room sources with
      | error problem => simp [members] at read
      | ok values =>
          cases fault with
          | some fault => simp [members, endOf] at read
          | none =>
              simp only [members, endOf, Except.ok.injEq] at read
              subst read
              obtain ⟨same, within⟩ := eq_member_sources_of_whole_members sources room values members
              exact ⟨by rw [same, Json.toSource], within⟩

theorem eq_item_sources_of_whole_items : ∀ (sources : List Source) (room : Nat) (items : List Json),
    wholeItems room sources = .ok items →
      sources = itemSources items ∧ Json.ItemsNestWithin room items
  | [], _, _, read => by
      simp only [wholeItems, Except.ok.injEq] at read
      subst read
      simp [itemSources, Json.ItemsNestWithin]
  | source :: rest, room, items, read => by
      simp only [wholeItems, bind, Except.bind] at read
      cases first : whole room source with
      | error problem => simp [first] at read
      | ok value =>
          cases others : wholeItems room rest with
          | error problem => simp [first, others] at read
          | ok values =>
              simp only [first, others, Except.ok.injEq] at read
              subst read
              obtain ⟨same, within⟩ := eq_to_source_of_whole source room value first
              obtain ⟨sameRest, withinRest⟩ :=
                eq_item_sources_of_whole_items rest room values others
              exact ⟨by rw [same, sameRest, itemSources], within, withinRest⟩

theorem eq_member_sources_of_whole_members : ∀ (sources : List (Head × Source)) (room : Nat)
    (members : List (String × Json)), wholeMembers room sources = .ok members →
      sources = memberSources members ∧ Json.MembersNestWithin room members
  | [], _, _, read => by
      simp only [wholeMembers, Except.ok.injEq] at read
      subst read
      simp [memberSources, Json.MembersNestWithin]
  | (.leaf (.string key), source) :: rest, room, members, read => by
      simp only [wholeMembers, bind, Except.bind] at read
      cases first : whole room source with
      | error problem => simp [first] at read
      | ok value =>
          cases others : wholeMembers room rest with
          | error problem => simp [first, others] at read
          | ok values =>
              simp only [first, others, Except.ok.injEq] at read
              subst read
              obtain ⟨same, within⟩ := eq_to_source_of_whole source room value first
              obtain ⟨sameRest, withinRest⟩ :=
                eq_member_sources_of_whole_members rest room values others
              exact ⟨by rw [same, sameRest, memberSources], within, withinRest⟩
  | (.leaf .null, _) :: _, _, _, read | (.leaf (.bool _), _) :: _, _, _, read
  | (.leaf (.number _), _) :: _, _, _, read | (.leaf (.flawed _), _) :: _, _, _, read
  | (.array, _) :: _, _, _, read | (.object, _) :: _, _, _, read => by simp [wholeMembers] at read

end

end Decoder

end MeshRouting

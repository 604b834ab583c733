import MeshRouting.Json.Reading.Tokens
import MeshRouting.Json.Source

/-!
Reading the text of a value gives the tree of that value. The machine that builds trees
takes the tokens of a value to the state after the value, whatever is open around it, and
the text of a value has the tokens of the value.
-/

namespace MeshRouting

namespace Json

open Source

/-- A value starts with a head, so it may stand where an array could also end. -/
theorem tokens_first_item (value : Json) (frames : List Frame) (rest : List Token) :
    (value.tokens ++ rest).foldl State.step (.reading .firstItem frames) =
      (value.tokens ++ rest).foldl State.step (.reading .value (.array [] :: frames)) := by
  cases value with
  | array items => cases items <;> simp [tokens, State.step]
  | object members =>
      cases members with
      | nil => simp [tokens, State.step]
      | cons member rest => simp [tokens, State.step]
  | _ => simp [tokens, State.step]

mutual

theorem foldl_tokens : ∀ (value : Json) (frames : List Frame),
    value.tokens.foldl State.step (.reading .value frames) = State.after value.toSource frames
  | .null, _ | .bool _, _ | .number _, _ | .string _, _ => by
      simp [tokens, State.step, State.value, Leaf.skipping, toSource]
  | .array [], _ => by simp [tokens, State.step, State.value, toSource, itemSources]
  | .object [], _ => by simp [tokens, State.step, State.value, toSource, memberSources]
  | .array (item :: rest), frames => by
      simp only [tokens, List.foldl_cons, State.step, State.value, tokens_first_item]
      rw [List.foldl_append, foldl_tokens item, State.after, foldl_item_tokens]
      simp [toSource, itemSources]
  | .object ((key, value) :: rest), frames => by
      simp only [tokens, List.foldl_cons, State.step, State.value, State.key]
      rw [List.foldl_append, foldl_tokens value, State.after, foldl_member_tokens]
      simp [toSource, memberSources]

theorem foldl_item_tokens : ∀ (items : List Json) (before : List Source) (frames : List Frame),
    (itemTokens items).foldl State.step (.reading (.afterItem before) frames) =
      State.after (.array (before.reverse ++ itemSources items) none) frames
  | [], _, _ => by simp [itemTokens, State.step, itemSources]
  | item :: rest, before, frames => by
      simp only [itemTokens, List.foldl_cons, State.step]
      rw [List.foldl_append, foldl_tokens item, State.after, foldl_item_tokens]
      simp [itemSources]

theorem foldl_member_tokens : ∀ (members : List (String × Json)) (before : List (Head × Source))
    (frames : List Frame),
    (memberTokens members).foldl State.step (.reading (.afterMember before) frames) =
      State.after (.object (before.reverse ++ memberSources members) none) frames
  | [], _, _ => by simp [memberTokens, State.step, memberSources]
  | (key, value) :: rest, before, frames => by
      simp only [memberTokens, List.foldl_cons, State.step, State.key]
      rw [List.foldl_append, foldl_tokens value, State.after, foldl_member_tokens]
      simp [memberSources]

end

end Json

namespace Json.Document

theorem of_tokens_tokens (value : Json) : ofTokens value.tokens = ⟨value.toSource, false⟩ := by
  simp [ofTokens, foldl_tokens, Source.State.after, ofState]

/-- The text of a value is read as that value and nothing else. -/
theorem of_text_write {layout : Layout} (blank : layout.Blank) (value : Json)
    (free : value.FloatFree) :
    ofText (String.ofList (value.write layout 0)) = ⟨value.toSource, false⟩ := by
  have lexed := Json.of_text_write blank value 0 [] free (by simp [EndsNumber])
  rw [List.append_nil] at lexed
  rw [ofText, String.toList_ofList, lexed, Token.ofText, List.append_nil, of_tokens_tokens]

end Json.Document

end MeshRouting

import MeshRouting.Json.Reading.Trees
import MeshRouting.Proofs.Decoding.Nesting
import MeshRouting.Proofs.Decoding.ReadingBack

/-!
Texts that are written and read again. The writer and the reader of texts agree on every
value without binary64 numbers, so a decoder that reads a JSON value back also reads its
text back.
-/

namespace MeshRouting

namespace Json

theorem items_float_free_iff {items : List Json} :
    FloatFreeItems items ↔ ∀ item ∈ items, item.FloatFree := by
  induction items with
  | nil => simp [FloatFreeItems]
  | cons item rest induction =>
      rw [List.forall_mem_cons, ← induction]
      exact Iff.rfl

theorem written_items_float_free_iff {write : α → Json} {things : List α} :
    FloatFreeItems (things.map write) ↔ ∀ thing ∈ things, (write thing).FloatFree := by
  rw [items_float_free_iff, List.forall_mem_map]

theorem members_float_free_append {first second : List (String × Json)} :
    FloatFreeMembers (first ++ second) ↔ FloatFreeMembers first ∧ FloatFreeMembers second := by
  induction first with
  | nil => simp [FloatFreeMembers]
  | cons member rest induction =>
      rw [List.cons_append, FloatFreeMembers, FloatFreeMembers, induction, and_assoc]

theorem member_if_some_float_free (key : String) (write : α → Json) {value : Option α}
    (free : ∀ content, value = some content → (write content).FloatFree) :
    FloatFreeMembers (memberIfSome key write value) := by
  cases value with
  | none => trivial
  | some content => exact ⟨free content rfl, trivial⟩

end Json

namespace Decoder

/-- What was read from a text can be written as a text that nests no deeper than a reader allows. -/
theorem nests_of_run {decoder : Decoder α} {write : α → Json} (within : decoder.WritesWithin write)
    {text : String} {value : α} (decoded : decoder.run text = .ok value) :
    (write value).NestsWithin 127 :=
  within .start _ value (run_eq_ok_iff.1 decoded).1

/-- What is read back from the JSON value is read back from the text of it. -/
theorem run_write {decoder : Decoder α} {json : Json} {value : α} {layout : Json.Layout}
    (blank : layout.Blank) (back : decoder.ReadsBack json value) (free : json.FloatFree)
    (nests : json.NestsWithin 127) :
    decoder.run (String.ofList (json.write layout 0)) = .ok value := by
  rw [run_eq_ok_iff, Json.Document.of_text_write blank json free]
  exact ⟨back .start nests, rfl⟩

end Decoder

end MeshRouting

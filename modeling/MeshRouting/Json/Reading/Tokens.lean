import MeshRouting.Json.Reading.Numbers
import MeshRouting.Json.Reading.Strings
import MeshRouting.Json.Render
import MeshRouting.Json.Token

/-!
The tokens of a written value are those of the value, in whichever layout it was written.
Binary64 numbers are left out: what their text reads as depends on rounding, so the
statements here are about values without them.
-/

namespace MeshRouting.Json

mutual

/-- No number in the value is a binary64 number. -/
def FloatFree : Json → Prop
  | .number (.float _) => False
  | .array items => FloatFreeItems items
  | .object members => FloatFreeMembers members
  | _ => True

def FloatFreeItems : List Json → Prop
  | [] => True
  | item :: rest => item.FloatFree ∧ FloatFreeItems rest

def FloatFreeMembers : List (String × Json) → Prop
  | [] => True
  | (_, value) :: rest => value.FloatFree ∧ FloatFreeMembers rest

end

mutual

def tokens : Json → List Token
  | .null => [.head (.leaf .null)]
  | .bool value => [.head (.leaf (.bool value))]
  | .number value => [.head (.leaf (.number value))]
  | .string value => [.head (.leaf (.string value))]
  | .array [] => [.head .array, .closeArray]
  | .array (item :: rest) => .head .array :: (item.tokens ++ itemTokens rest)
  | .object [] => [.head .object, .closeObject]
  | .object ((key, value) :: rest) =>
      .head .object :: .head (.leaf (.string key)) :: .colon :: (value.tokens ++ memberTokens rest)

/-- The items after the first one, and the closing bracket. -/
def itemTokens : List Json → List Token
  | [] => [.closeArray]
  | item :: rest => .comma :: (item.tokens ++ itemTokens rest)

def memberTokens : List (String × Json) → List Token
  | [] => [.closeObject]
  | (key, value) :: rest =>
      .comma :: .head (.leaf (.string key)) :: .colon :: (value.tokens ++ memberTokens rest)

end

/-- A layout puts nothing but blanks between the tokens. -/
def Layout.Blank (layout : Layout) : Prop :=
  (∀ c ∈ layout.afterColon, Token.isBlank c = true) ∧
    ∀ depth, ∀ c ∈ layout.gap depth, Token.isBlank c = true

theorem Layout.blank_compact : Layout.compact.Blank := by
  simp [Layout.Blank, Layout.compact]

theorem Layout.blank_pretty : Layout.pretty.Blank := by
  constructor
  · simp [Layout.pretty, Token.isBlank]
  · intro depth c member
    simp only [Layout.pretty, List.mem_cons, List.mem_replicate] at member
    rcases member with line | ⟨_, space⟩ <;> simp [*, Token.isBlank]

namespace Token

theorem of_text_blanks {blanks : List Char} (all : ∀ c ∈ blanks, isBlank c = true)
    (rest : List Char) : ofText (blanks ++ rest) = ofText rest := by
  induction blanks with
  | nil => rfl
  | cons c blanks induction =>
      rw [List.cons_append, ofText]
      simp only [all c (by simp), if_true]
      exact induction fun c member => all c (by simp [member])

theorem not_blank_of_mark {c : Char} {token : Token} (mark : ofChar? c = some token) :
    isBlank c = false := by
  cases blank : isBlank c with
  | false => rfl
  | true =>
      simp only [isBlank, Bool.or_eq_true, decide_eq_true_eq] at blank
      rcases blank with ((h | h) | h) | h <;> subst h <;> simp [ofChar?] at mark

theorem of_text_mark {c : Char} {token : Token} (mark : ofChar? c = some token)
    (rest : List Char) : ofText (c :: rest) = token :: ofText rest := by
  rw [ofText]
  simp [not_blank_of_mark mark, mark]

theorem of_text_leaf {c : Char} {text rest : List Char} {value : Leaf} {left : Shorter (c :: text)}
    (notBlank : isBlank c = false) (notMark : ofChar? c = none)
    (read : leaf c text = (value, some left)) (same : left.val = rest) :
    ofText (c :: text) = .head (.leaf value) :: ofText rest := by
  rw [ofText]
  simp [notBlank, notMark, read, same]

theorem of_text_null (rest : List Char) :
    ofText ('n' :: 'u' :: 'l' :: 'l' :: rest) = .head (.leaf .null) :: ofText rest :=
  of_text_leaf (by decide) (by decide) rfl rfl

theorem of_text_true (rest : List Char) :
    ofText ('t' :: 'r' :: 'u' :: 'e' :: rest) = .head (.leaf (.bool true)) :: ofText rest :=
  of_text_leaf (by decide) (by decide) rfl rfl

theorem of_text_false (rest : List Char) :
    ofText ('f' :: 'a' :: 'l' :: 's' :: 'e' :: rest) =
      .head (.leaf (.bool false)) :: ofText rest :=
  of_text_leaf (by decide) (by decide) rfl rfl

theorem of_text_string (s rest : List Char) :
    ofText (StringLiteral.write s ++ rest) =
      .head (.leaf (.string (String.ofList s))) :: ofText rest := by
  obtain ⟨left, read, same⟩ :=
    StringLiteral.read_of_read_plain (StringLiteral.read_plain_write s rest)
  have text : StringLiteral.write s ++ rest =
      '"' :: (s.flatMap StringLiteral.writeChar ++ '"' :: rest) := by
    simp [StringLiteral.write]
  have scalar : leaf '"' (s.flatMap StringLiteral.writeChar ++ '"' :: rest) =
      (.string (String.ofList s), some (left.behind '"')) := by
    simp [leaf, stringLeaf, read]
  rw [text]
  exact of_text_leaf (by decide) (by decide) scalar same

/-- The characters that can start an integer start nothing else. -/
theorem integer_start {c : Char} (first : c = '-' ∨ c.isDigit = true) :
    isBlank c = false ∧ ofChar? c = none ∧ c ≠ '"' := by
  have other : ∀ d : Char, d ≠ '-' → d.isDigit = false → c ≠ d := by
    rintro d notSign notDigit rfl
    rcases first with sign | digit
    · exact notSign sign
    · rw [digit] at notDigit
      exact absurd notDigit (by decide)
  refine ⟨?_, ?_, other '"' (by decide) (by decide)⟩
  · simp [isBlank, other ' ' (by decide) (by decide), other '\t' (by decide) (by decide),
      other '\n' (by decide) (by decide), other '\r' (by decide) (by decide)]
  · simp [ofChar?, other '[' (by decide) (by decide), other ']' (by decide) (by decide),
      other '\x7b' (by decide) (by decide), other '\x7d' (by decide) (by decide),
      other ',' (by decide) (by decide), other ':' (by decide) (by decide)]

theorem int_text_cons (value : Int) :
    ∃ c tail, Number.intText value = c :: tail ∧ (c = '-' ∨ c.isDigit = true) := by
  obtain ⟨d, ds, written, digit⟩ := NumberLiteral.to_digits_cons value.natAbs
  by_cases negative : value < 0
  · exact ⟨'-', d :: ds, by simp [Number.intText, negative, written], .inl rfl⟩
  · exact ⟨d, ds, by simp [Number.intText, negative, written], .inr digit⟩

theorem of_text_integer (value : Int)
    (fits : -0x8000000000000000 ≤ value ∧ value < 0x10000000000000000) {rest : List Char}
    (ends : EndsNumber rest) :
    ofText (Number.intText value ++ rest) =
      .head (.leaf (.number (.integer value fits))) :: ofText rest := by
  have scanned := NumberLiteral.scan_int_text value fits ends
  obtain ⟨c, tail, written, first⟩ := int_text_cons value
  have text : Number.intText value ++ rest = c :: (tail ++ rest) := by
    rw [written, List.cons_append]
  rw [text] at scanned ⊢
  obtain ⟨literal, left, scanned, same, valued⟩ := scanned
  obtain ⟨notBlank, notMark, notQuote⟩ := integer_start first
  refine @of_text_leaf _ _ _ _ left notBlank notMark ?_ same
  have number : (c = '-' || c.isDigit) = true := by
    rcases first with h | h <;> simp [h]
  simp only [leaf, notQuote, if_false, number, if_true, numberLeaf, scanned, valued]

/-- Blanks and a mark after them end a number. -/
theorem ends_number_mark {blanks : List Char} (all : ∀ c ∈ blanks, isBlank c = true) {c : Char}
    (mark : c = ',' ∨ c = ']' ∨ c = '\x7d') (rest : List Char) :
    EndsNumber (blanks ++ c :: rest) := by
  intro d start
  cases blanks with
  | nil =>
      simp only [List.nil_append, List.head?_cons, Option.some.injEq] at start
      subst start
      rcases mark with h | h | h <;> subst h <;> decide
  | cons b blanks =>
      simp only [List.cons_append, List.head?_cons, Option.some.injEq] at start
      subst start
      have blank := all b (by simp)
      simp only [isBlank, Bool.or_eq_true, decide_eq_true_eq] at blank
      rcases blank with ((h | h) | h) | h <;> subst h <;> decide

end Token

theorem ends_number_write_items {layout : Layout} (blank : layout.Blank) (depth : Nat)
    (items : List Json) (rest : List Char) : EndsNumber (writeItems layout depth items ++ rest) := by
  cases items with
  | nil =>
      rw [writeItems, List.append_assoc]
      exact Token.ends_number_mark (blank.2 depth) (.inr (.inl rfl)) rest
  | cons item items =>
      simp only [writeItems, List.cons_append]
      exact @Token.ends_number_mark [] (by simp) ',' (.inl rfl) _

theorem ends_number_write_members {layout : Layout} (blank : layout.Blank) (depth : Nat)
    (members : List (String × Json)) (rest : List Char) :
    EndsNumber (writeMembers layout depth members ++ rest) := by
  cases members with
  | nil =>
      rw [writeMembers, List.append_assoc]
      exact Token.ends_number_mark (blank.2 depth) (.inr (.inr rfl)) rest
  | cons member members =>
      simp only [writeMembers, List.cons_append]
      exact @Token.ends_number_mark [] (by simp) ',' (.inl rfl) _

open Token (of_text_blanks of_text_mark of_text_string)

mutual

theorem of_text_write {layout : Layout} (blank : layout.Blank) : ∀ (value : Json) (depth : Nat)
    (rest : List Char), value.FloatFree → EndsNumber rest →
    Token.ofText (value.write layout depth ++ rest) = value.tokens ++ Token.ofText rest
  | .null, _, rest, _, _ => by simp [write, tokens, Token.of_text_null]
  | .bool true, _, rest, _, _ => by simp [write, tokens, Token.of_text_true]
  | .bool false, _, rest, _, _ => by simp [write, tokens, Token.of_text_false]
  | .number (.integer value fits), _, rest, _, ends => by
      simp [write, tokens, Number.text, Token.of_text_integer value fits ends]
  | .number (.float _), _, _, free, _ => free.elim
  | .string value, _, rest, _, _ => by simp [write, tokens, of_text_string]
  | .array [], _, rest, _, _ => by
      simp [write, tokens, of_text_mark (c := '[') rfl, of_text_mark (c := ']') rfl]
  | .array (item :: items), depth, rest, free, _ => by
      simp only [FloatFree, FloatFreeItems] at free
      simp only [write, tokens, List.cons_append, List.append_assoc]
      rw [of_text_mark (c := '[') rfl, of_text_blanks (blank.2 _),
        of_text_write blank item _ _ free.1 (ends_number_write_items blank _ _ _),
        of_text_write_items blank items _ _ free.2]
  | .object [], _, rest, _, _ => by
      simp [write, tokens, of_text_mark (c := '\x7b') rfl, of_text_mark (c := '\x7d') rfl]
  | .object ((key, value) :: members), depth, rest, free, _ => by
      simp only [FloatFree, FloatFreeMembers] at free
      simp only [write, tokens, List.cons_append, List.append_assoc]
      rw [of_text_mark (c := '\x7b') rfl, of_text_blanks (blank.2 _), of_text_string,
        of_text_mark (c := ':') rfl, of_text_blanks blank.1,
        of_text_write blank value _ _ free.1 (ends_number_write_members blank _ _ _),
        of_text_write_members blank members _ _ free.2, String.ofList_toList]

theorem of_text_write_items {layout : Layout} (blank : layout.Blank) : ∀ (items : List Json)
    (depth : Nat) (rest : List Char), FloatFreeItems items →
    Token.ofText (writeItems layout depth items ++ rest) = itemTokens items ++ Token.ofText rest
  | [], depth, rest, _ => by
      rw [writeItems, List.append_assoc, of_text_blanks (blank.2 _), List.cons_append,
        of_text_mark (c := ']') rfl]
      rfl
  | item :: items, depth, rest, free => by
      simp only [FloatFreeItems] at free
      simp only [writeItems, itemTokens, List.cons_append, List.append_assoc]
      rw [of_text_mark (c := ',') rfl, of_text_blanks (blank.2 _),
        of_text_write blank item _ _ free.1 (ends_number_write_items blank _ _ _),
        of_text_write_items blank items _ _ free.2]

theorem of_text_write_members {layout : Layout} (blank : layout.Blank) :
    ∀ (members : List (String × Json)) (depth : Nat) (rest : List Char), FloatFreeMembers members →
    Token.ofText (writeMembers layout depth members ++ rest) =
      memberTokens members ++ Token.ofText rest
  | [], depth, rest, _ => by
      rw [writeMembers, List.append_assoc, of_text_blanks (blank.2 _), List.cons_append,
        of_text_mark (c := '\x7d') rfl]
      rfl
  | (key, value) :: members, depth, rest, free => by
      simp only [FloatFreeMembers] at free
      simp only [writeMembers, memberTokens, List.cons_append, List.append_assoc]
      rw [of_text_mark (c := ',') rfl, of_text_blanks (blank.2 _), of_text_string,
        of_text_mark (c := ':') rfl, of_text_blanks blank.1,
        of_text_write blank value _ _ free.1 (ends_number_write_members blank _ _ _),
        of_text_write_members blank members _ _ free.2, String.ofList_toList]

end

end MeshRouting.Json

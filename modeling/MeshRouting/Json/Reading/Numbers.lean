import MeshRouting.Json.NumberLiteral

/-!
Which literals are integers; all others are binary64 numbers. Reading an integer literal
gives back the integer it was written for, provided that what follows cannot go on with the
literal.
-/

namespace MeshRouting.Json

/-- No character that could extend a number stands at the start of the text. -/
def EndsNumber (rest : List Char) : Prop :=
  ∀ c, rest.head? = some c → c.isDigit = false ∧ c ≠ '.' ∧ c ≠ 'e' ∧ c ≠ 'E'

namespace NumberLiteral

/-- What the digits of the whole part stand for under the sign. -/
def signedWhole (literal : NumberLiteral) : Int :=
  if literal.negative then -(natural literal.whole : Int) else natural literal.whole

/-- The literal is one of this integer. No literal of an integer has a sign before nought. -/
structure IsInteger (literal : NumberLiteral) (value : Int) : Prop where
  noFraction : literal.fraction = none
  noExponent : literal.exponent = none
  whole : literal.signedWhole = value
  signed : literal.negative = true → value ≠ 0
  fits : -0x8000000000000000 ≤ value ∧ value < 0x10000000000000000

theorem integer_of_plain {literal : NumberLiteral} (noFraction : literal.fraction = none)
    (noExponent : literal.exponent = none) :
    literal.integer? = if literal.negative = true ∧ literal.signedWhole = 0 then none
      else Number.ofInt? literal.signedWhole := by
  rw [integer?, signedWhole, noFraction, noExponent]
  cases literal.negative <;> simp

theorem integer_eq_some_iff {literal : NumberLiteral} {number : Number} :
    literal.integer? = some number ↔
      ∃ (value : Int) (integer : literal.IsInteger value),
        number = .integer value integer.fits := by
  constructor
  · intro found
    have plain : literal.fraction = none ∧ literal.exponent = none := by
      unfold integer? at found
      split at found
      case isTrue bare => simpa using bare
      case isFalse => cases found
    rw [integer_of_plain plain.1 plain.2] at found
    split at found
    case isTrue => cases found
    case isFalse signed =>
      obtain ⟨fits, same⟩ := Number.of_int_eq_some_iff.1 found
      exact ⟨_, ⟨plain.1, plain.2, rfl, fun sign zero => signed ⟨sign, zero⟩, fits⟩, same⟩
  · intro integer
    obtain ⟨value, integer, same⟩ := integer
    rw [integer_of_plain integer.noFraction integer.noExponent, integer.whole,
      if_neg fun zero => integer.signed zero.1 zero.2]
    exact Number.of_int_eq_some_iff.2 ⟨integer.fits, same⟩

/-- The literals of integers have these for their values, and no other literal has one. -/
theorem value_eq_integer_iff {literal : NumberLiteral} {value : Int}
    {fits : -0x8000000000000000 ≤ value ∧ value < 0x10000000000000000} :
    literal.value? = some (.integer value fits) ↔ literal.IsInteger value := by
  have known : literal.integer? = some (.integer value fits) ↔ literal.IsInteger value := by
    rw [integer_eq_some_iff]
    constructor
    · intro found
      obtain ⟨_, integer, same⟩ := found
      cases same
      exact integer
    · intro integer
      exact ⟨value, integer, rfl⟩
  rw [← known, value?]
  cases literal.integer? with
  | some number => rfl
  | none => simp

/-- Any other literal is a binary64 number under its sign, unless it is too large for one. -/
theorem value_of_no_integer {literal : NumberLiteral}
    (other : ∀ value, ¬ literal.IsInteger value) :
    literal.value? = (Magnitude.ofDecimal? literal.decimal.1 literal.decimal.2).map fun magnitude =>
      .float ⟨literal.negative, magnitude⟩ := by
  unfold value?
  split
  case h_1 number found =>
    obtain ⟨value, integer, _⟩ := integer_eq_some_iff.1 found
    exact absurd integer (other value)
  case h_2 => rfl

theorem digits_append {ds rest : List Char} (nonempty : ds ≠ []) (all : ∀ c ∈ ds, c.isDigit)
    (ends : EndsNumber rest) :
    ∃ left : Shorter (ds ++ rest), digits (ds ++ rest) = .ok (ds, left) ∧ left.val = rest := by
  cases ds with
  | nil => exact absurd rfl nonempty
  | cons d ds =>
      have stop : rest.takeWhile Char.isDigit = [] ∧ rest.dropWhile Char.isDigit = rest := by
        cases rest with
        | nil => simp
        | cons c rest => simp [(ends c rfl).1]
      have first : d.isDigit = true := all d (by simp)
      have others : ∀ c ∈ ds, c.isDigit = true := fun c member => all c (by simp [member])
      have taken : (ds ++ rest).takeWhile Char.isDigit = ds := by
        rw [List.takeWhile_append_of_pos others, stop.1, List.append_nil]
      have dropped : (ds ++ rest).dropWhile Char.isDigit = rest := by
        rw [List.dropWhile_append_of_pos others, stop.2]
      exact ⟨⟨rest, by simp only [List.cons_append, List.length_cons, List.length_append]; omega⟩,
        by simp [digits, first, taken, dropped, Rest.behind], rfl⟩

theorem fraction_part_none {cs : List Char} (ends : EndsNumber cs) :
    fractionPart cs = .ok (none, .all cs) := by
  cases cs with
  | nil => rfl
  | cons c rest => simp [fractionPart, (ends c rfl).2.1]

theorem exponent_part_none {cs : List Char} (ends : EndsNumber cs) :
    exponentPart cs = .ok (none, .all cs) := by
  cases cs with
  | nil => rfl
  | cons c rest =>
      have other := (ends c rfl).2.2
      simp [exponentPart, other.1, other.2]

theorem unsigned_append {negative : Bool} {ds rest : List Char} (nonempty : ds ≠ [])
    (all : ∀ c ∈ ds, c.isDigit) (noZero : ds.head? = some '0' → ds.length ≤ 1)
    (ends : EndsNumber rest) :
    ∃ left : Shorter (ds ++ rest),
      unsigned negative (ds ++ rest) = .ok (⟨negative, ds, none, none⟩, left) ∧ left.val = rest := by
  obtain ⟨left, scanned, same⟩ := digits_append nonempty all ends
  have zero : (ds.head? = some '0' && 1 < ds.length) = false := by
    by_cases leading : ds.head? = some '0'
    · have := noZero leading
      simp [leading]; omega
    · simp [leading]
  have endsLeft : EndsNumber left.val := by rw [same]; exact ends
  have noFraction := fraction_part_none endsLeft
  have noExponent := @exponent_part_none (left.trans (Rest.all left.val)).val endsLeft
  exact ⟨(left.trans (.all left.val)).trans (.all _),
    by simp [unsigned, scanned, zero, bind, Except.bind, noFraction, noExponent], same⟩

theorem digit_char_ne_zero : ∀ n, n < 10 → Nat.digitChar n = '0' → n = 0 := by decide

theorem head_to_digits (n : Nat) : (Nat.toDigits 10 n).head? = some '0' → n = 0 := by
  induction n using Nat.strongRecOn with
  | _ n induction =>
      by_cases small : n < 10
      · rw [Nat.toDigits_of_lt_base small]
        intro leading
        exact digit_char_ne_zero n small (by simpa using leading)
      · intro leading
        rw [Nat.toDigits_of_base_le (by decide) (by omega), List.head?_append] at leading
        cases front : (Nat.toDigits 10 (n / 10)).head? with
        | none => simp at front
        | some c =>
            simp only [front, Option.some_or] at leading
            have := induction (n / 10) (by omega) (by rw [front, leading])
            omega

theorem unsigned_to_digits (negative : Bool) (n : Nat) {rest : List Char} (ends : EndsNumber rest) :
    ∃ left : Shorter (Nat.toDigits 10 n ++ rest),
      unsigned negative (Nat.toDigits 10 n ++ rest) =
        .ok (⟨negative, Nat.toDigits 10 n, none, none⟩, left) ∧ left.val = rest := by
  refine unsigned_append Nat.toDigits_ne_nil
    (fun c member => Nat.isDigit_of_mem_toDigits (by decide) (by decide) member) ?_ ends
  intro leading
  rw [head_to_digits n leading, Nat.toDigits_zero]
  decide

/-- The digits of a number are a literal of it, and with a sign of its negation. -/
theorem digits_are_integer {negative : Bool} {n : Nat} {value : Int}
    (signed : value = if negative then -(n : Int) else n) (nonzero : negative = true → value ≠ 0)
    (fits : -0x8000000000000000 ≤ value ∧ value < 0x10000000000000000) :
    IsInteger ⟨negative, Nat.toDigits 10 n, none, none⟩ value := by
  refine ⟨rfl, rfl, ?_, nonzero, fits⟩
  rw [signed, signedWhole, natural, Nat.ofDigitChars_ten_toDigits]

theorem scan_of_digit {c : Char} (digit : c.isDigit = true) (cs : List Char) :
    scan (c :: cs) = unsigned false (c :: cs) := by
  have unsignedText : c ≠ '-' := by
    intro sign
    rw [sign] at digit
    exact absurd digit (by decide)
  simp [scan, unsignedText]

theorem to_digits_cons (n : Nat) :
    ∃ d ds, Nat.toDigits 10 n = d :: ds ∧ d.isDigit = true := by
  cases written : Nat.toDigits 10 n with
  | nil => exact absurd written Nat.toDigits_ne_nil
  | cons d ds =>
      exact ⟨d, ds, rfl, Nat.isDigit_of_mem_toDigits (b := 10) (n := n) (by decide) (by decide)
        (by simp [written])⟩

/-- An integer reads back from its text. Only a negative one starts with a sign. -/
theorem scan_int_text (value : Int)
    (fits : -0x8000000000000000 ≤ value ∧ value < 0x10000000000000000) {rest : List Char}
    (ends : EndsNumber rest) :
    ∃ (literal : NumberLiteral) (left : Shorter (Number.intText value ++ rest)),
      scan (Number.intText value ++ rest) = .ok (literal, left) ∧ left.val = rest ∧
        literal.value? = some (.integer value fits) := by
  by_cases negative : value < 0
  · obtain ⟨n, rfl⟩ : ∃ n : Nat, value = -(n : Int) := ⟨value.natAbs, by omega⟩
    obtain ⟨left, scanned, same⟩ := unsigned_to_digits true n ends
    have text : Number.intText (-(n : Int)) = '-' :: Nat.toDigits 10 n := by
      rw [Number.intText, if_pos negative, Int.natAbs_neg, Int.natAbs_natCast]
      rfl
    rw [text]
    have integer := @digits_are_integer true n _ rfl (fun _ => by omega) fits
    exact ⟨_, left.behind '-', by simp [scan, scanned, bind, Except.bind], same,
      value_eq_integer_iff.2 integer⟩
  · obtain ⟨n, rfl⟩ : ∃ n : Nat, value = (n : Int) := ⟨value.natAbs, by omega⟩
    obtain ⟨left, scanned, same⟩ := unsigned_to_digits false n ends
    have text : Number.intText (n : Int) = Nat.toDigits 10 n := by
      rw [Number.intText, if_neg negative, Int.natAbs_natCast]
      rfl
    rw [text]
    have integer := @digits_are_integer false n _ rfl (fun sign => by cases sign) fits
    refine ⟨_, left, ?_, same, value_eq_integer_iff.2 integer⟩
    rw [← scanned]
    obtain ⟨d, ds, written, digit⟩ := to_digits_cons n
    rw [written]
    exact scan_of_digit digit (ds ++ rest)

end NumberLiteral

end MeshRouting.Json

import MeshRouting.Decoding.Acceptance
import MeshRouting.Json.Reading.Numbers
import Mathlib.Data.List.TakeWhile

/-!
The text of a number. What a scan passes over is a sign, a whole part, a fraction and an
exponent, in this order and all but the whole part at will. So the text alone tells the
integers from the other numbers: an integer has neither a point nor an exponent, and no sign
before nought.
-/

namespace MeshRouting.Json.NumberLiteral

def Digits (run : List Char) : Prop := run ≠ [] ∧ ∀ c ∈ run, c.isDigit = true

inductive FractionText : List Char → Option (List Char) → Prop
  | absent : FractionText [] none
  | present {run : List Char} (digits : Digits run) : FractionText ('.' :: run) (some run)

/-- Either mark starts an exponent, and a plus says nothing. -/
inductive ExponentText : List Char → Option (Bool × List Char) → Prop
  | absent : ExponentText [] none
  | bare {mark : Char} {run : List Char} (marked : mark = 'e' ∨ mark = 'E')
      (digits : Digits run) : ExponentText (mark :: run) (some (false, run))
  | plus {mark : Char} {run : List Char} (marked : mark = 'e' ∨ mark = 'E')
      (digits : Digits run) : ExponentText (mark :: '+' :: run) (some (false, run))
  | minus {mark : Char} {run : List Char} (marked : mark = 'e' ∨ mark = 'E')
      (digits : Digits run) : ExponentText (mark :: '-' :: run) (some (true, run))

/-- The text after the sign. Only a whole part of one digit starts with nought. -/
inductive UnsignedText : List Char → NumberLiteral → Prop
  | parts {negative : Bool} {whole fraction exponent : List Char} {places : Option (List Char)}
      {power : Option (Bool × List Char)} (digits : Digits whole)
      (leading : whole.head? = some '0' → whole.length ≤ 1)
      (point : FractionText fraction places) (scale : ExponentText exponent power) :
      UnsignedText (whole ++ (fraction ++ exponent)) ⟨negative, whole, places, power⟩

inductive Numeral : List Char → NumberLiteral → Prop
  | plain {text : List Char} {literal : NumberLiteral} (positive : literal.negative = false)
      (parts : UnsignedText text literal) : Numeral text literal
  | signed {text : List Char} {literal : NumberLiteral} (negative : literal.negative = true)
      (parts : UnsignedText text literal) : Numeral ('-' :: text) literal

variable {cs : List Char} {literal : NumberLiteral}

theorem digits_of_run {run : List Char} {left : Shorter cs} (read : digits cs = .ok (run, left)) :
    Digits run ∧ cs = run ++ left.val := by
  cases cs with
  | nil => cases read
  | cons c rest =>
      rw [digits] at read
      split at read
      case isTrue digit =>
        cases read
        refine ⟨⟨List.cons_ne_nil _ _, ?_⟩, ?_⟩
        · rw [List.forall_mem_cons]
          exact ⟨digit, fun _ member => List.mem_takeWhile_imp member⟩
        · exact congrArg (c :: ·) List.takeWhile_append_dropWhile.symm
      case isFalse => cases read

theorem fraction_of_part {part : Option (List Char)} {left : Rest cs}
    (read : fractionPart cs = .ok (part, left)) :
    ∃ text, FractionText text part ∧ cs = text ++ left.val := by
  cases cs with
  | nil =>
      cases read
      exact ⟨[], .absent, rfl⟩
  | cons c rest =>
      rw [fractionPart] at read
      split at read
      case isTrue point =>
        subst point
        obtain ⟨⟨run, behind⟩, scanned, read⟩ := Problem.bind_eq_ok_iff.1 read
        obtain ⟨digits, same⟩ := digits_of_run scanned
        cases read
        exact ⟨_, .present digits, congrArg ('.' :: ·) same⟩
      case isFalse =>
        cases read
        exact ⟨[], .absent, rfl⟩

/-- What stands between the mark of an exponent and its digits. -/
theorem text_of_sign (cs : List Char) :
    (exponentSign cs).1 = false ∧ cs = (exponentSign cs).2.val ∨
      (exponentSign cs).1 = false ∧ cs = '+' :: (exponentSign cs).2.val ∨
      (exponentSign cs).1 = true ∧ cs = '-' :: (exponentSign cs).2.val := by
  cases cs with
  | nil => exact .inl ⟨rfl, rfl⟩
  | cons c rest =>
      by_cases plus : c = '+'
      · subst plus
        exact .inr (.inl ⟨rfl, rfl⟩)
      · by_cases minus : c = '-'
        · subst minus
          exact .inr (.inr ⟨rfl, rfl⟩)
        · have bare : exponentSign (c :: rest) = (false, .all (c :: rest)) := by
            simp [exponentSign, plus, minus]
          rw [bare]
          exact .inl ⟨rfl, rfl⟩

theorem exponent_of_part {part : Option (Bool × List Char)} {left : Rest cs}
    (read : exponentPart cs = .ok (part, left)) :
    ∃ text, ExponentText text part ∧ cs = text ++ left.val := by
  cases cs with
  | nil =>
      cases read
      exact ⟨[], .absent, rfl⟩
  | cons mark rest =>
      rw [exponentPart] at read
      split at read
      case isTrue either =>
        have marked : mark = 'e' ∨ mark = 'E' := by simpa using either
        have sign := text_of_sign rest
        generalize exponentSign rest = found at read sign
        obtain ⟨⟨run, behind⟩, scanned, read⟩ := Problem.bind_eq_ok_iff.1 read
        obtain ⟨digits, same⟩ := digits_of_run scanned
        cases read
        rw [same] at sign
        rcases sign with ⟨side, text⟩ | ⟨side, text⟩ | ⟨side, text⟩
        · rw [side]
          exact ⟨_, .bare marked digits, congrArg (mark :: ·) text⟩
        · rw [side]
          exact ⟨_, .plus marked digits, congrArg (mark :: ·) text⟩
        · rw [side]
          exact ⟨_, .minus marked digits, congrArg (mark :: ·) text⟩
      case isFalse =>
        cases read
        exact ⟨[], .absent, rfl⟩

theorem parts_of_unsigned {negative : Bool} {left : Shorter cs}
    (read : unsigned negative cs = .ok (literal, left)) :
    literal.negative = negative ∧ ∃ text, UnsignedText text literal ∧ cs = text ++ left.val := by
  unfold unsigned at read
  obtain ⟨⟨whole, afterWhole⟩, first, read⟩ := Problem.bind_eq_ok_iff.1 read
  obtain ⟨digits, same⟩ := digits_of_run first
  dsimp only at read
  split at read
  case isTrue => cases read
  case isFalse leading =>
    obtain ⟨⟨places, afterPlaces⟩, second, read⟩ := Problem.bind_eq_ok_iff.1 read
    obtain ⟨⟨power, afterPower⟩, third, read⟩ := Problem.bind_eq_ok_iff.1 read
    obtain ⟨fraction, point, samePlaces⟩ := fraction_of_part second
    obtain ⟨exponent, scale, samePower⟩ := exponent_of_part third
    cases read
    refine ⟨rfl, _, .parts digits ?_ point scale, ?_⟩
    · intro zero
      simpa [zero] using leading
    · calc
        cs = whole ++ afterWhole.val := same
        _ = whole ++ (fraction ++ afterPlaces.val) := congrArg (whole ++ ·) samePlaces
        _ = whole ++ (fraction ++ (exponent ++ afterPower.val)) :=
          congrArg (fun rest => whole ++ (fraction ++ rest)) samePower
        _ = whole ++ (fraction ++ exponent) ++ afterPower.val := by
          rw [List.append_assoc, List.append_assoc]

theorem numeral_of_scan {left : Shorter cs} (scanned : scan cs = .ok (literal, left)) :
    ∃ text, Numeral text literal ∧ cs = text ++ left.val := by
  cases cs with
  | nil => cases scanned
  | cons c rest =>
      rw [scan] at scanned
      split at scanned
      case isTrue minus =>
        subst minus
        obtain ⟨⟨literal, behind⟩, read, scanned⟩ := Problem.bind_eq_ok_iff.1 scanned
        obtain ⟨negative, text, parts, same⟩ := parts_of_unsigned read
        cases scanned
        exact ⟨_, .signed negative parts, congrArg ('-' :: ·) same⟩
      case isFalse =>
        obtain ⟨positive, text, parts, same⟩ := parts_of_unsigned scanned
        exact ⟨text, .plain positive parts, same⟩

/-- A point or the mark of an exponent stands in a text exactly if it has that part. -/
theorem plain_iff_of_parts {text : List Char} (parts : UnsignedText text literal) :
    literal.fraction = none ∧ literal.exponent = none ↔ '.' ∉ text ∧ 'e' ∉ text ∧ 'E' ∉ text := by
  cases parts with
  | @parts _ whole _ _ _ _ digits _ point power =>
      have only : ∀ c : Char, c.isDigit = false → c ∉ whole := by
        intro c other member
        rw [digits.2 c member] at other
        cases other
      constructor
      · intro plain
        cases point with
        | present => cases plain.1
        | absent =>
            cases power with
            | bare | plus | minus => cases plain.2
            | absent => simpa using ⟨only '.' rfl, only 'e' rfl, only 'E' rfl⟩
      · intro absent
        obtain ⟨noPoint, noSmall, noLarge⟩ := absent
        constructor
        · cases point with
          | absent => rfl
          | present => simp at noPoint
        · cases power with
          | absent => rfl
          | bare marked | plus marked | minus marked =>
              rcases marked with rfl | rfl
              · simp at noSmall
              · simp at noLarge

theorem plain_iff_of_numeral {text : List Char} (numeral : Numeral text literal) :
    literal.fraction = none ∧ literal.exponent = none ↔ '.' ∉ text ∧ 'e' ∉ text ∧ 'E' ∉ text := by
  cases numeral with
  | plain _ parts => exact plain_iff_of_parts parts
  | signed _ parts =>
      rw [plain_iff_of_parts parts]
      simp

/-- What is scanned is an integer exactly if there is neither a point nor an exponent in its
text, no sign before nought, and 64 bits hold it. -/
theorem integer_of_scan_iff {left : Shorter cs} (scanned : scan cs = .ok (literal, left)) :
    ∃ text, cs = text ++ left.val ∧ Numeral text literal ∧
      ∀ value fits, literal.value? = some (.integer value fits) ↔
        ('.' ∉ text ∧ 'e' ∉ text ∧ 'E' ∉ text) ∧ literal.signedWhole = value ∧
          (literal.negative = true → value ≠ 0) := by
  obtain ⟨text, numeral, same⟩ := numeral_of_scan scanned
  refine ⟨text, same, numeral, ?_⟩
  intro value fits
  rw [value_eq_integer_iff, ← plain_iff_of_numeral numeral]
  constructor
  · intro integer
    exact ⟨⟨integer.noFraction, integer.noExponent⟩, integer.whole, integer.signed⟩
  · intro told
    obtain ⟨⟨noFraction, noExponent⟩, whole, signed⟩ := told
    exact ⟨noFraction, noExponent, whole, signed, fits⟩

end MeshRouting.Json.NumberLiteral

import MeshRouting.Json.StringLiteral

/-!
Reading a string literal gives back the string it was written for. Each character is
written on its own, so the proof takes one character at a time: a letter escape, a control
as four hexadecimal digits, or the character itself.
-/

namespace MeshRouting.Json

/-- The text a reader leaves, without the proof that it is shorter. -/
def plainRest {cs : List Char} : Except Fault (α × Shorter cs) → Except Fault (α × List Char)
  | .ok (value, rest) => .ok (value, rest.val)
  | .error fault => .error fault

namespace StringLiteral

theorem hex_value_hex_digit : ∀ n, n < 16 → hexValue? (hexDigit n) = some n := by decide

theorem read_hex_ok {a b c d : Char} {x y z w : Nat} (rest : List Char)
    (ha : hexValue? a = some x) (hb : hexValue? b = some y) (hc : hexValue? c = some z)
    (hd : hexValue? d = some w) :
    readHex (a :: b :: c :: d :: rest) = .ok (((x * 16 + y) * 16 + z) * 16 + w,
      ((((Rest.all rest).behind d).behind c).behind b).behind a) := by
  simp [readHex, ha, hb, hc, hd]

theorem read_escape_unit {cs : List Char} {unit : Nat} {left : Shorter cs}
    (hex : readHex cs = .ok (unit, left)) (notLow : isLowSurrogate unit = false)
    (notHigh : isHighSurrogate unit = false) :
    readEscape ('u' :: cs) = .ok (Char.ofNat unit, left.behind 'u') := by
  simp [readEscape, hex, notLow, notHigh, bind, Except.bind]

theorem letter_char_of_find {c : Char} {entry : Char × Char}
    (found : escapeLetters.find? (·.1 = c) = some entry) :
    entry.1 = c ∧ letterChar? entry.2 = some c ∧ entry.2 ≠ 'u' := by
  have member := List.mem_of_find?_eq_some found
  have same : entry.1 = c := by simpa using List.find?_some found
  subst same
  simp only [escapeLetters, List.mem_cons, List.not_mem_nil, or_false] at member
  rcases member with h | h | h | h | h | h | h <;> subst h <;> decide

theorem not_escaped_of_find {c : Char} (missing : escapeLetters.find? (·.1 = c) = none) :
    c ≠ '"' ∧ c ≠ '\\' := by
  constructor <;> (intro h; subst h; revert missing; decide)

/-- Reading with the text that is left as a plain list, so that rewriting within the text
is possible. -/
def readPlain (cs : List Char) : Except Fault (List Char × List Char) := plainRest (read cs)

theorem read_plain_quote (rest : List Char) : readPlain ('"' :: rest) = .ok ([], rest) := by
  unfold readPlain
  rw [read]; simp [plainRest, Rest.behind, Rest.all]

theorem read_plain_escape {cs : List Char} {value : Char} {left : Shorter cs}
    (escape : readEscape cs = .ok (value, left)) :
    readPlain ('\\' :: cs) = (readPlain left.val).map fun (values, rest) => (value :: values, rest) := by
  unfold readPlain
  rw [read]
  simp [escape, bind, Except.bind]
  cases read left.val <;> simp [plainRest, Except.map, Shorter.behind, Shorter.trans, Shorter.toRest]

theorem read_plain_other {c : Char} (notQuote : c ≠ '"') (notBackslash : c ≠ '\\')
    (notControl : ¬ c.toNat < 0x20) (cs : List Char) :
    readPlain (c :: cs) = (readPlain cs).map fun (values, rest) => (c :: values, rest) := by
  unfold readPlain
  rw [read]
  simp [notQuote, notBackslash, notControl, bind, Except.bind]
  cases read cs <;> simp [plainRest, Except.map, Shorter.behind]

theorem read_plain_write_char (c : Char) (rest : List Char) :
    readPlain (writeChar c ++ rest) =
      (readPlain rest).map fun (values, left) => (c :: values, left) := by
  unfold writeChar
  cases found : escapeLetters.find? (·.1 = c) with
  | some entry =>
      obtain ⟨plain, letter⟩ := entry
      obtain ⟨same, letterIs, notU⟩ := letter_char_of_find found
      have escape : readEscape (letter :: rest) = .ok (c, (Rest.all rest).behind letter) := by
        simp [readEscape, letterIs, notU]
      simpa [Rest.behind, Rest.all] using read_plain_escape escape
  | none =>
      obtain ⟨notQuote, notBackslash⟩ := not_escaped_of_find found
      by_cases control : c.toNat < 0x20
      · have high := hex_value_hex_digit (c.toNat / 16) (by omega)
        have low := hex_value_hex_digit (c.toNat % 16) (by omega)
        have hex := read_hex_ok rest (show hexValue? '0' = some 0 by decide)
          (show hexValue? '0' = some 0 by decide) high low
        have value : ((0 * 16 + 0) * 16 + c.toNat / 16) * 16 + c.toNat % 16 = c.toNat := by omega
        rw [value] at hex
        have notLow : isLowSurrogate c.toNat = false := by simp [isLowSurrogate]; omega
        have notHigh : isHighSurrogate c.toNat = false := by simp [isHighSurrogate]; omega
        have escape := read_escape_unit hex notLow notHigh
        rw [Char.ofNat_toNat] at escape
        simpa [control, Rest.behind, Rest.all, Shorter.behind] using read_plain_escape escape
      · simpa [control] using read_plain_other notQuote notBackslash control rest

/-- A written string reads as the string it was written for, whatever follows it. -/
theorem read_plain_write (s rest : List Char) :
    readPlain (s.flatMap writeChar ++ '"' :: rest) = .ok (s, rest) := by
  induction s with
  | nil => exact read_plain_quote rest
  | cons c s induction =>
      rw [List.flatMap_cons, List.append_assoc, read_plain_write_char, induction]
      rfl

theorem read_of_read_plain {cs s rest : List Char} (plain : readPlain cs = .ok (s, rest)) :
    ∃ left : Shorter cs, read cs = .ok (s, left) ∧ left.val = rest := by
  unfold readPlain at plain
  cases result : read cs with
  | error fault => simp [result, plainRest] at plain
  | ok pair =>
      simp only [result, plainRest, Except.ok.injEq, Prod.mk.injEq] at plain
      exact ⟨pair.2, by rw [← plain.1], plain.2⟩

end StringLiteral

end MeshRouting.Json

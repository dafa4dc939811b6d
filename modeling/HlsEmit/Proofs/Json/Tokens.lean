import HlsEmit.Json.Number
import HlsEmit.Json.Text
import HlsEmit.Proofs.Json.Written
import Mathlib

/-! # Strings and integers in their written forms

Whatever way a string is spelled, it is read as its characters; an integer is read from
its decimal digits. What follows stays in place.
-/

namespace HlsEmit.Json

namespace Quote

theorem hexDigit?_of_isHexDigit {value : Nat} {c : Char} (digit : IsHexDigit value c) :
    hexDigit? c = some value := by
  have lowerCase : ∀ pair ∈ "0123456789abcdef".toList.zipIdx, hexDigit? pair.1 = some pair.2 := by
    decide
  have upperCase : ∀ pair ∈ "0123456789ABCDEF".toList.zipIdx, hexDigit? pair.1 = some pair.2 := by
    decide
  rcases digit with lower | upper
  · exact lowerCase (c, value) (List.mem_zipIdx_iff_getElem?.mpr lower)
  · exact upperCase (c, value) (List.mem_zipIdx_iff_getElem?.mpr upper)

theorem hexUnit_of_isHexUnit {unit : Nat} {digits : List Char} (written : IsHexUnit unit digits)
    (rest : List Char) : hexUnit (digits ++ rest) = .ok (unit, rest) := by
  cases written with
  | @digits a b c d _ _ _ _ first second third fourth =>
      have sum : (a * 16 + b) * 256 + c * 16 + d = ((a * 16 + b) * 16 + c) * 16 + d := by ring
      simp [hexUnit, hexDigit?_of_isHexDigit first, hexDigit?_of_isHexDigit second,
        hexDigit?_of_isHexDigit third, hexDigit?_of_isHexDigit fourth, sum]

theorem shortEscape?_of_mem {letter c : Char} (listed : (letter, c) ∈ escapeLetters) :
    shortEscape? letter = some c := by
  have known : ∀ pair ∈ escapeLetters, shortEscape? pair.1 = some pair.2 := by decide
  exact known _ listed

theorem letter_ne_of_mem {letter c : Char} (listed : (letter, c) ∈ escapeLetters) :
    letter ≠ 'u' := by
  have known : ∀ pair ∈ escapeLetters, pair.1 ≠ 'u' := by decide
  exact known _ listed

/-- No character is a surrogate. -/
theorem not_surrogate (c : Char) : c.toNat < 0xD800 ∨ 0xDFFF < c.toNat ∧ c.toNat < 0x110000 :=
  c.valid

theorem unicode_of_isHexUnit {c : Char} {digits : List Char} (written : IsHexUnit c.toNat digits)
    (rest : List Char) : unicode (digits ++ rest) = .ok (c, rest) := by
  have whole := not_surrogate c
  have notLow : ¬(0xDC00 ≤ c.toNat ∧ c.toNat ≤ 0xDFFF) := by omega
  have notHigh : ¬(0xD800 ≤ c.toNat ∧ c.toNat ≤ 0xDBFF) := by omega
  rw [unicode, hexUnit_of_isHexUnit written]
  simp only [notLow, notHigh, if_false, Char.ofNat_toNat]

theorem unicode_of_pair {c : Char} {high low : List Char} (beyond : 0x10000 ≤ c.toNat)
    (first : IsHexUnit (0xD800 + (c.toNat - 0x10000) / 0x400) high)
    (second : IsHexUnit (0xDC00 + (c.toNat - 0x10000) % 0x400) low) (rest : List Char) :
    unicode (high ++ '\\' :: 'u' :: (low ++ rest)) = .ok (c, rest) := by
  have whole := not_surrogate c
  have sum : (0xD800 + (c.toNat - 0x10000) / 0x400 - 0xD800) * 0x400 +
      (0xDC00 + (c.toNat - 0x10000) % 0x400 - 0xDC00) + 0x10000 = c.toNat := by omega
  have notLow : ¬(0xDC00 ≤ 0xD800 + (c.toNat - 0x10000) / 0x400 ∧
      0xD800 + (c.toNat - 0x10000) / 0x400 ≤ 0xDFFF) := by omega
  have isHigh : 0xD800 ≤ 0xD800 + (c.toNat - 0x10000) / 0x400 ∧
      0xD800 + (c.toNat - 0x10000) / 0x400 ≤ 0xDBFF := by omega
  have isLow : 0xDC00 ≤ 0xDC00 + (c.toNat - 0x10000) % 0x400 ∧
      0xDC00 + (c.toNat - 0x10000) % 0x400 ≤ 0xDFFF := by omega
  rw [unicode, hexUnit_of_isHexUnit first]
  simp only [if_neg notLow, if_pos isHigh, lowSurrogate, hexUnit_of_isHexUnit second, if_pos isLow,
    sum, Char.ofNat_toNat]

theorem contents_of_escape {done rest after : List Char} {c : Char}
    (escaped : escape rest = .ok (c, after)) :
    contents done ('\\' :: rest) = contents (c :: done) after := by
  rw [contents]
  split
  · rename_i failed
    cases escaped.symm.trans failed
  · rename_i read
    cases escaped.symm.trans read
    rfl

theorem skip_of_escape {rest after : List Char} (escaped : skipEscape rest = .ok after) :
    skip ('\\' :: rest) = skip after := by
  rw [skip]
  split
  · rename_i failed
    cases escaped.symm.trans failed
  · rename_i read
    cases escaped.symm.trans read
    rfl

theorem contents_of_spellsChar {c : Char} {spelled : List Char} (spells : SpellsChar c spelled)
    (done rest : List Char) : contents done (spelled ++ rest) = contents (c :: done) rest := by
  cases spells with
  | plain printable notQuote notBackslash =>
      rw [List.singleton_append, contents]
      · exact if_neg (by omega)
      · exact notQuote
      · exact notBackslash
  | letter listed =>
      apply contents_of_escape
      simp [escape, shortEscape?_of_mem listed, letter_ne_of_mem listed]
  | unit written =>
      apply contents_of_escape
      exact unicode_of_isHexUnit written rest
  | pair beyond first second =>
      rw [List.append_assoc]
      apply contents_of_escape
      exact unicode_of_pair beyond first second rest

theorem skip_of_spellsChar {c : Char} {spelled : List Char} (spells : SpellsChar c spelled)
    (rest : List Char) : skip (spelled ++ rest) = skip rest := by
  cases spells with
  | plain printable notQuote notBackslash =>
      rw [List.singleton_append, skip]
      · exact if_neg (by omega)
      · exact notQuote
      · exact notBackslash
  | letter listed =>
      apply skip_of_escape
      simp [skipEscape, shortEscape?_of_mem listed, letter_ne_of_mem listed]
  | unit written =>
      apply skip_of_escape
      simp [skipEscape, hexUnit_of_isHexUnit written, Except.map]
  | pair beyond first second =>
      have half : ∀ {unit : Nat} {digits : List Char}, IsHexUnit unit digits → ∀ rest,
          skip ('\\' :: 'u' :: (digits ++ rest)) = skip rest := by
        intro unit digits written rest
        apply skip_of_escape
        simp [skipEscape, hexUnit_of_isHexUnit written, Except.map]
      simpa using (half first _).trans (half second rest)

theorem contents_of_spells {chars spelled : List Char} (spells : Spells chars spelled)
    (done rest : List Char) :
    contents done (spelled ++ '"' :: rest) = .ok (done.reverse ++ chars, rest) := by
  induction spells generalizing done with
  | nil => simp [contents]
  | cons spelled _ ih =>
      rw [List.append_assoc, contents_of_spellsChar spelled, ih]
      simp

theorem skip_of_spells {chars spelled : List Char} (spells : Spells chars spelled)
    (rest : List Char) : skip (spelled ++ '"' :: rest) = .ok rest := by
  induction spells with
  | nil => simp [skip]
  | cons spelled _ ih => rw [List.append_assoc, skip_of_spellsChar spelled, ih]

end Quote

theorem Quotes.exists_cons {text : String} {quoted : List Char} (quotes : Quotes text quoted) :
    ∃ tail, quoted = '"' :: tail := by
  cases quotes with
  | marks => exact ⟨_, rfl⟩

theorem Reader.run_text {text : String} {quoted : List Char} (quotes : Quotes text quoted)
    (rest : List Char) : Reader.text.run (quoted ++ rest) = .ok (text, rest) := by
  cases quotes with
  | marks spells =>
      simp [Reader.text, StateT.run, Quote.contents_of_spells spells, Except.map]

theorem Reader.run_skipText {text : String} {quoted : List Char} (quotes : Quotes text quoted)
    (rest : List Char) : Reader.skipText.run (quoted ++ rest) = .ok ((), rest) := by
  cases quotes with
  | marks spells =>
      simp [Reader.skipText, StateT.run, Quote.skip_of_spells spells, Except.map]

theorem isSpace_eq_true_iff {c : Char} :
    Reader.isSpace c = true ↔ c = ' ' ∨ c = '\n' ∨ c = '\t' ∨ c = '\r' := by
  simp [Reader.isSpace, or_assoc]

/-- What may follow a value: space, a comma, a closing bracket, or the end of the text. -/
def IsBoundary (rest : List Char) : Prop :=
  ∀ c, rest.head? = some c → Reader.isSpace c ∨ c = ',' ∨ c = ']' ∨ c = '\x7d'

theorem mem_of_isBoundary {c : Char} {rest : List Char} (boundary : IsBoundary (c :: rest)) :
    c ∈ [' ', '\n', '\t', '\r', ',', ']', '\x7d'] := by
  rcases boundary c rfl with space | rfl | rfl | rfl
  · rcases isSpace_eq_true_iff.mp space with rfl | rfl | rfl | rfl <;> decide
  all_goals decide

namespace Number

/-- The number that is read for an integer. -/
def ofInt : Int → Number
  | .ofNat value => .natural value
  | .negSucc value => .negative (value + 1)

theorem accumulate_digits {digits : List Char} {significand : Nat}
    (fits : Nat.ofDigitChars 10 digits significand ≤ maxSignificand) :
    accumulate significand digits = (Nat.ofDigitChars 10 digits significand, []) := by
  induction digits generalizing significand with
  | nil => rfl
  | cons c rest ih =>
      have next : 10 * significand + digitValue c = significand * 10 + digitValue c := by ring
      have grown : Nat.ofDigitChars 10 (c :: rest) significand =
          Nat.ofDigitChars 10 rest (significand * 10 + digitValue c) := by
        rw [Nat.ofDigitChars_cons, ← next]
        rfl
      rw [grown] at fits ⊢
      have below : significand * 10 + digitValue c ≤
          Nat.ofDigitChars 10 rest (significand * 10 + digitValue c) := by
        rw [Nat.ofDigitChars_eq_ofDigitChars_zero]
        exact Nat.le_add_right_of_le (Nat.le_mul_of_pos_left _ (by positivity))
      rw [accumulate]
      simp only [show ¬maxSignificand < significand * 10 + digitValue c by omega, if_false]
      exact ih fits

theorem head?_toDigits_ne {value : Nat} (positive : 0 < value) :
    (Nat.toDigits 10 value).head? ≠ some '0' := by
  induction value using Nat.strongRecOn with
  | ind value ih =>
      rw [Nat.toDigits_eq_if (by decide)]
      split
      · simp only [List.head?_cons, ne_eq, Option.some.injEq, Nat.digitChar_eq_zero]
        omega
      · have before := ih (value / 10) (by omega) (by omega)
        rw [List.head?_append]
        cases first : (Nat.toDigits 10 (value / 10)).head? with
        | none => exact absurd (List.head?_eq_none_iff.mp first) Nat.toDigits_ne_nil
        | some c =>
            rw [first] at before
            simpa using before

theorem exists_cons_toDigits (value : Nat) :
    ∃ c tail, Nat.toDigits 10 value = c :: tail ∧ ∀ d ∈ c :: tail, d.isDigit := by
  have nonempty : Nat.toDigits 10 value ≠ [] := Nat.toDigits_ne_nil
  obtain ⟨c, tail, digits⟩ := List.exists_cons_of_ne_nil nonempty
  refine ⟨c, tail, digits, ?_⟩
  rw [← digits]
  exact fun d inside => Nat.isDigit_of_mem_toDigits (by decide) (by decide) inside

variable {rest : List Char}

theorem not_digit_of_isBoundary (boundary : IsBoundary rest) : ¬rest.head?.any Char.isDigit := by
  cases rest with
  | nil => simp
  | cons c rest =>
      have known : ∀ c ∈ [' ', '\n', '\t', '\r', ',', ']', '\x7d'], c.isDigit = false := by simp
      simpa using known c (mem_of_isBoundary boundary)

/-- A number that ends at a boundary has neither a fraction nor an exponent. -/
theorem not_mark_of_isBoundary {c : Char} {tail : List Char} (boundary : IsBoundary (c :: tail)) :
    c ≠ '.' ∧ c ≠ 'e' ∧ c ≠ 'E' := by
  have known : ∀ c ∈ [' ', '\n', '\t', '\r', ',', ']', '\x7d'],
      c ≠ '.' ∧ c ≠ 'e' ∧ c ≠ 'E' := by simp
  exact known c (mem_of_isBoundary boundary)

theorem afterInteger_of_isBoundary (boundary : IsBoundary rest) (negative : Bool)
    (significand dropped : Nat) : afterInteger negative significand dropped rest =
      if dropped ≠ 0 then ofParts negative significand dropped rest
      else if ¬negative then .ok (.natural significand, rest)
      else if significand ≠ 0 ∧ significand ≤ Nat.pow 2 63 then .ok (.negative significand, rest)
      else .ok (.float ((Binary64.ofNat significand).withSign true), rest) := by
  unfold afterInteger
  split
  · exact absurd rfl (not_mark_of_isBoundary boundary).1
  · split
    · exact absurd rfl (not_mark_of_isBoundary boundary).2.1
    · exact absurd rfl (not_mark_of_isBoundary boundary).2.2
    · rfl

/-- Digits are taken up to the boundary, and no further. -/
theorem takeWhile_isDigit {digits : List Char} (isDigit : ∀ c ∈ digits, c.isDigit)
    (stops : ¬rest.head?.any Char.isDigit) :
    (digits ++ rest).takeWhile Char.isDigit = digits ∧
      (digits ++ rest).dropWhile Char.isDigit = rest := by
  rw [List.takeWhile_append_of_pos isDigit, List.dropWhile_append_of_pos isDigit]
  cases rest with
  | nil => simp
  | cons c rest =>
      have other : ¬c.isDigit := by simpa using stops
      rw [List.takeWhile_cons_of_neg other, List.dropWhile_cons_of_neg other, List.append_nil]
      exact ⟨rfl, rfl⟩

theorem afterSign_toDigits (value : Nat) (boundary : IsBoundary rest) (negative : Bool) :
    afterSign negative (Nat.toDigits 10 value ++ rest) =
      afterInteger negative (accumulate 0 (Nat.toDigits 10 value)).1
        (accumulate 0 (Nat.toDigits 10 value)).2.length rest := by
  have stops := not_digit_of_isBoundary boundary
  rcases Nat.eq_zero_or_pos value with rfl | positive
  · rw [Nat.toDigits_zero, List.singleton_append, afterSign, if_neg stops]
    rfl
  · obtain ⟨c, tail, digits, isDigit⟩ := exists_cons_toDigits value
    have notZero : c ≠ '0' := by
      rintro rfl
      exact head?_toDigits_ne positive (by rw [digits]; rfl)
    have later : ∀ d ∈ tail, d.isDigit := fun d inside => isDigit d (List.mem_cons_of_mem _ inside)
    obtain ⟨taken, left⟩ := takeWhile_isDigit later stops
    rw [digits, List.cons_append, afterSign, if_pos (isDigit c List.mem_cons_self), taken, left]
    exact notZero

theorem accumulate_toDigits {value : Nat} (fits : value ≤ maxSignificand) :
    accumulate 0 (Nat.toDigits 10 value) = (value, []) := by
  have total : Nat.ofDigitChars 10 (Nat.toDigits 10 value) 0 = value :=
    Nat.ofDigitChars_ten_toDigits
  rw [accumulate_digits (total.le.trans fits), total]

/-- A magnitude that 64 bits hold is read digit by digit. -/
theorem afterSign_of_fits {value : Nat} (fits : value ≤ maxSignificand)
    (boundary : IsBoundary rest) (negative : Bool) :
    afterSign negative (Nat.toDigits 10 value ++ rest) =
      if ¬negative then .ok (.natural value, rest)
      else if value ≠ 0 ∧ value ≤ Nat.pow 2 63 then .ok (.negative value, rest)
      else .ok (.float ((Binary64.ofNat value).withSign true), rest) := by
  rw [afterSign_toDigits value boundary, accumulate_toDigits fits,
    afterInteger_of_isBoundary boundary]
  exact if_neg (not_not_intro rfl)

theorem read_eq_afterSign (value : Nat) (rest : List Char) :
    read (Nat.toDigits 10 value ++ rest) = afterSign false (Nat.toDigits 10 value ++ rest) := by
  obtain ⟨c, tail, digits, isDigit⟩ := exists_cons_toDigits value
  rw [digits, List.cons_append, read]
  intro after same
  cases same
  exact absurd (isDigit '-' List.mem_cons_self) (by decide)

/-- Integers of 64 bits, with or without sign, are exact. -/
theorem read_toString {value : Int} (least : -(Nat.pow 2 63 : Int) ≤ value)
    (greatest : value < Nat.pow 2 64) (boundary : IsBoundary rest) :
    read ((toString value).toList ++ rest) = .ok (ofInt value, rest) := by
  cases value with
  | ofNat value =>
      have fits : value ≤ maxSignificand := Nat.le_pred_of_lt (Int.ofNat_lt.mp greatest)
      have digits : (toString (Int.ofNat value)).toList = Nat.toDigits 10 value := by
        rw [Int.toString_eq_repr]
        exact Nat.toList_repr
      rw [digits, read_eq_afterSign, afterSign_of_fits fits boundary]
      rfl
  | negSucc value =>
      have bound : value + 1 ≤ Nat.pow 2 63 := by
        have below : (-(Nat.pow 2 63 : Nat) : Int) ≤ -(value + 1 : Nat) := least
        omega
      have fits : value + 1 ≤ maxSignificand := bound.trans (by decide)
      have digits : (toString (Int.negSucc value)).toList = '-' :: Nat.toDigits 10 (value + 1) := by
        rw [Int.toString_eq_repr]
        exact (String.toList_append ..).trans (congrArg ('-' :: ·) Nat.toList_repr)
      rw [digits, List.cons_append, read, afterSign_of_fits fits boundary, if_neg (by decide),
        if_pos ⟨by omega, bound⟩]
      rfl

end Number

end HlsEmit.Json

import HlsEmit.Proofs.Json.Reading

/-! # Integer literals

An integer is written with any number of digits, and zero also with a minus. A literal of
a 64-bit integer is read as that integer. Every other one becomes a floating-point
number, made from as many of its first digits as 64 bits hold and from the number of
digits left over, or is out of range.
-/

namespace HlsEmit

namespace Binary64

theorem exists_ofRatio_eq (num den : Nat) : ∃ bits, ofRatio num den =
    if bits < 2047 * Nat.pow 2 52 then ⟨UInt64.ofNat bits⟩ else infinity := by
  by_cases nothing : num = 0
  · exact ⟨0, by simp only [ofRatio, if_pos nothing]; rfl⟩
  · simp only [ofRatio, if_neg nothing]
    exact ⟨_, rfl⟩

/-- A number that was rounded has no sign. -/
theorem bits_ofRatio_lt (num den : Nat) : (ofRatio num den).bits.toNat < 2 ^ 63 := by
  obtain ⟨bits, same⟩ := exists_ofRatio_eq num den
  rw [same, Nat.pow_eq]
  split
  · rw [UInt64.toNat_ofNat']
    omega
  · decide

theorem withSign_false {x : Binary64} (positive : x.bits.toNat < 2 ^ 63) :
    x.withSign false = x := by
  rw [withSign, Nat.pow_eq, Nat.mod_eq_of_lt positive]
  simp

end Binary64

namespace Json

/-- A sign and a magnitude, which is written in decimal digits without leading zeros. -/
structure IntegerLiteral where
  negative : Bool
  magnitude : Nat
  deriving DecidableEq, Repr

namespace IntegerLiteral

def text (literal : IntegerLiteral) : String :=
  (if literal.negative then "-" else "") ++ toString literal.magnitude

/-- The literal of an integer, which never is minus zero. -/
def ofInt : Int → IntegerLiteral
  | .ofNat magnitude => ⟨false, magnitude⟩
  | .negSucc magnitude => ⟨true, magnitude + 1⟩

def value (literal : IntegerLiteral) : Int :=
  if literal.negative then -literal.magnitude else literal.magnitude

/-- The literal is that of a 64-bit integer, or minus zero. -/
def IsNarrow (literal : IntegerLiteral) : Prop :=
  -2 ^ 63 ≤ literal.value ∧ literal.value < 2 ^ 63

instance (literal : IntegerLiteral) : Decidable literal.IsNarrow :=
  inferInstanceAs (Decidable (_ ∧ _))

/-- The floating-point number that stands for the literal. -/
def float? (literal : IntegerLiteral) : Option Binary64 :=
  let (significand, left) := Number.accumulate 0 (Nat.toDigits 10 literal.magnitude)
  let unsigned? : Option Binary64 :=
    if left = [] then some (.ofNat significand) else Number.scale (.ofNat significand) left.length
  unsigned?.map (Binary64.withSign literal.negative)

/-- The attribute that is read for the literal. -/
def attribute? (literal : IntegerLiteral) : Option Attribute :=
  if literal.IsNarrow ∧ literal ≠ ⟨true, 0⟩ then some (.int (Int64.ofInt literal.value))
  else literal.float?.map .float

theorem text_ofInt (value : Int) : (ofInt value).text = toString value := by
  cases value with
  | ofNat magnitude =>
      rw [Int.toString_eq_repr]
      simp [ofInt, text]
      rfl
  | negSucc magnitude =>
      rw [Int.toString_eq_repr]
      rfl

theorem ofInt_value {literal : IntegerLiteral} (differs : literal ≠ ⟨true, 0⟩) :
    ofInt literal.value = literal := by
  obtain ⟨negative, magnitude⟩ := literal
  cases negative with
  | false => rfl
  | true =>
      cases magnitude with
      | zero => exact absurd rfl differs
      | succ magnitude => rfl

theorem toList_text (literal : IntegerLiteral) : literal.text.toList =
    (if literal.negative then ['-'] else []) ++ Nat.toDigits 10 literal.magnitude := by
  have digits : (toString literal.magnitude).toList = Nat.toDigits 10 literal.magnitude :=
    Nat.toList_repr
  rw [text, String.toList_append, digits]
  cases literal.negative <;> rfl

end IntegerLiteral

namespace Number

/-- Digits are left over only if 64 bits do not hold them all. -/
theorem ofDigitChars_le_of_accumulate {digits : List Char} {significand : Nat}
    (fits : significand ≤ maxSignificand) (all : (accumulate significand digits).2 = []) :
    Nat.ofDigitChars 10 digits significand ≤ maxSignificand := by
  induction digits generalizing significand with
  | nil => exact fits
  | cons c rest ih =>
      simp only [accumulate] at all
      split at all
      · cases all
      · rename_i next
        rw [Nat.ofDigitChars_cons]
        have same : 10 * significand + (c.toNat - '0'.toNat) = significand * 10 + digitValue c := by
          rw [Nat.mul_comm]
          rfl
        rw [same]
        exact ih (by omega) all

/-- The number that is read for a literal. -/
def ofLiteral? (literal : IntegerLiteral) : Option Number :=
  if maxSignificand < literal.magnitude then literal.float?.map .float
  else if ¬literal.negative then some (.natural literal.magnitude)
  else if literal.magnitude ≠ 0 ∧ literal.magnitude ≤ Nat.pow 2 63 then
    some (.negative literal.magnitude)
  else literal.float?.map .float

variable {rest : List Char}

theorem read_text (literal : IntegerLiteral) (rest : List Char) :
    read (literal.text.toList ++ rest) =
      afterSign literal.negative (Nat.toDigits 10 literal.magnitude ++ rest) := by
  rw [literal.toList_text]
  cases literal.negative with
  | true => rfl
  | false => exact read_eq_afterSign literal.magnitude rest

theorem read_literal (literal : IntegerLiteral) (boundary : IsBoundary rest) :
    read (literal.text.toList ++ rest) =
      match ofLiteral? literal with
      | some number => .ok (number, rest)
      | none => .error ⟨.numberOutOfRange, Text.byteSize rest⟩ := by
  obtain ⟨negative, magnitude⟩ := literal
  rw [read_text, ofLiteral?]
  by_cases fits : magnitude ≤ maxSignificand
  · rw [afterSign_of_fits fits boundary, if_neg (Nat.not_lt.mpr fits)]
    cases negative with
    | false => rfl
    | true =>
        by_cases small : magnitude ≠ 0 ∧ magnitude ≤ Nat.pow 2 63
        · simp [small]
        · simp [small, IntegerLiteral.float?, accumulate_toDigits fits]
  · have left : (accumulate 0 (Nat.toDigits 10 magnitude)).2 ≠ [] := by
      intro all
      have bounded := ofDigitChars_le_of_accumulate (Nat.zero_le _) all
      rw [Nat.ofDigitChars_ten_toDigits] at bounded
      exact fits bounded
    have dropped : (accumulate 0 (Nat.toDigits 10 magnitude)).2.length ≠ 0 :=
      fun none_ => left (List.length_eq_zero_iff.mp none_)
    rw [afterSign_toDigits magnitude boundary, afterInteger_of_isBoundary boundary,
      if_pos dropped, if_pos (Nat.lt_of_not_le fits), ofParts, IntegerLiteral.float?]
    simp only [if_neg left]
    cases scale (.ofNat (accumulate 0 (Nat.toDigits 10 magnitude)).1)
      (accumulate 0 (Nat.toDigits 10 magnitude)).2.length <;> rfl

/-- The attribute that a number is kept as. -/
def asAttribute : Number → Attribute
  | natural value =>
      if value < Nat.pow 2 63 then .int (Int64.ofNat value) else .float (.ofNat value)
  | negative magnitude => .int (Int64.ofInt (-magnitude))
  | float value => .float value

end Number

namespace IntegerLiteral

variable {literal : IntegerLiteral}

theorem float?_of_fits (fits : literal.magnitude ≤ Number.maxSignificand) :
    literal.float? = some ((Binary64.ofNat literal.magnitude).withSign literal.negative) := by
  rw [float?, Number.accumulate_toDigits fits]
  rfl

theorem attribute?_of_not_isNarrow (wide : ¬literal.IsNarrow) :
    literal.attribute? = literal.float?.map .float :=
  if_neg fun both => wide both.1

theorem isNarrow_natural {magnitude : Nat} :
    IsNarrow ⟨false, magnitude⟩ ↔ magnitude < 2 ^ 63 := by
  simp only [IsNarrow, value, Bool.false_eq_true, if_false]
  omega

theorem isNarrow_negative {magnitude : Nat} :
    IsNarrow ⟨true, magnitude⟩ ↔ magnitude ≤ 2 ^ 63 := by
  simp only [IsNarrow, value, if_true]
  omega

theorem not_isNarrow_of_lt (wide : Number.maxSignificand < literal.magnitude) :
    ¬literal.IsNarrow := by
  have greatest : Number.maxSignificand = 2 ^ 64 - 1 := by decide
  obtain ⟨negative, magnitude⟩ := literal
  cases negative with
  | false =>
      rw [isNarrow_natural]
      dsimp only at wide
      omega
  | true =>
      rw [isNarrow_negative]
      dsimp only at wide
      omega

theorem attribute?_of_natural {magnitude : Nat} (fits : magnitude ≤ Number.maxSignificand) :
    attribute? ⟨false, magnitude⟩ = some (Number.natural magnitude).asAttribute := by
  rw [Number.asAttribute, Nat.pow_eq]
  by_cases narrow : magnitude < 2 ^ 63
  · rw [attribute?, if_pos ⟨isNarrow_natural.mpr narrow, by simp⟩, if_pos narrow]
    rfl
  · rw [attribute?_of_not_isNarrow (mt isNarrow_natural.mp narrow), float?_of_fits fits,
      if_neg narrow]
    exact congrArg (some ∘ Attribute.float) (Binary64.withSign_false (Binary64.bits_ofRatio_lt _ _))

theorem attribute?_of_negative {magnitude : Nat}
    (narrow : magnitude ≠ 0 ∧ magnitude ≤ Nat.pow 2 63) :
    attribute? ⟨true, magnitude⟩ = some (Number.negative magnitude).asAttribute := by
  rw [attribute?, if_pos ⟨isNarrow_negative.mpr narrow.2, by simp [narrow.1]⟩]
  rfl

/-- Minus zero, and what is below the 64-bit integers. -/
theorem attribute?_of_negative_float {magnitude : Nat}
    (wide : ¬(magnitude ≠ 0 ∧ magnitude ≤ Nat.pow 2 63)) :
    attribute? ⟨true, magnitude⟩ = (float? ⟨true, magnitude⟩).map .float := by
  refine if_neg ?_
  rintro ⟨narrow, differs⟩
  refine wide ⟨?_, isNarrow_negative.mp narrow⟩
  rintro rfl
  exact differs rfl

theorem map_asAttribute (literal : IntegerLiteral) :
    (Number.ofLiteral? literal).map Number.asAttribute = literal.attribute? := by
  have float : (literal.float?.map Number.float).map Number.asAttribute =
      literal.float?.map .float := by
    cases literal.float? <;> rfl
  rw [Number.ofLiteral?]
  split
  · rename_i wide
    rw [float, attribute?_of_not_isNarrow (not_isNarrow_of_lt wide)]
  · rename_i fits
    obtain ⟨negative, magnitude⟩ := literal
    cases negative with
    | false => exact (attribute?_of_natural (Nat.le_of_not_lt fits)).symm
    | true =>
        rw [if_neg (by simp)]
        split
        · rename_i narrow
          exact (attribute?_of_negative narrow).symm
        · rename_i wide
          rw [float, attribute?_of_negative_float wide]

end IntegerLiteral

namespace Reader

variable {space : List Char}

theorem run_attributeValue_of_numeric {c : Char} {tail : List Char}
    (numeric : (c = '-' || c.isDigit) = true) (isSpace : IsSpace space) :
    attributeValue.run (space ++ c :: tail) = (Number.read (c :: tail)).map fun (number, rest) =>
      (.ok number.asAttribute, rest) := by
  obtain ⟨nested, same⟩ := exists_value_eq attributeLevels
  rw [attributeValue, same, StateT.run_bind, run_scalarOr_of_numeric nested numeric isSpace]
  cases Number.read (c :: tail) with
  | error fault => rfl
  | ok result =>
      obtain ⟨number, rest⟩ := result
      cases number <;> rfl

end Reader

namespace IntegerLiteral

theorem exists_cons_text (literal : IntegerLiteral) :
    ∃ c tail, literal.text.toList = c :: tail ∧ (c = '-' || c.isDigit) = true := by
  rw [literal.toList_text]
  cases literal.negative with
  | true => exact ⟨'-', _, rfl, rfl⟩
  | false =>
      obtain ⟨c, tail, digits, isDigit⟩ := Number.exists_cons_toDigits literal.magnitude
      exact ⟨c, tail, digits, by simp [isDigit c List.mem_cons_self]⟩

/-- What the reader of attributes does with a literal, wherever it stands. -/
theorem run_attributeValue (literal : IntegerLiteral) {space rest : List Char}
    (isSpace : IsSpace space) (boundary : IsBoundary rest) :
    Reader.attributeValue.run (space ++ (literal.text.toList ++ rest)) =
      match literal.attribute? with
      | some given => .ok (.ok given, rest)
      | none => .error ⟨.numberOutOfRange, Text.byteSize rest⟩ := by
  obtain ⟨c, tail, digits, numeric⟩ := literal.exists_cons_text
  have reads := Number.read_literal literal boundary
  rw [digits, List.cons_append] at reads ⊢
  rw [Reader.run_attributeValue_of_numeric numeric isSpace, reads, ← map_asAttribute]
  cases Number.ofLiteral? literal <;> rfl

/-- A 64-bit integer and minus zero keep every digit. -/
theorem exists_render_eq_text {literal : IntegerLiteral} (narrow : literal.IsNarrow) :
    ∃ given, literal.attribute? = some given ∧ given.render = literal.text := by
  by_cases minusZero : literal = ⟨true, 0⟩
  · subst minusZero
    exact ⟨.float ⟨0x8000000000000000⟩, by decide +kernel, by decide +kernel⟩
  · refine ⟨_, if_pos ⟨narrow, minusZero⟩, ?_⟩
    rw [Attribute.render, Int64.toInt_ofInt_of_le narrow.1 narrow.2, ← text_ofInt,
      ofInt_value minusZero]

/-- Any other literal keeps its digits if the floating-point number is displayed with them. -/
theorem keepsDigits_iff (literal : IntegerLiteral) :
    (∀ given, literal.attribute? = some given → given.render = literal.text) ↔
      literal.IsNarrow ∨
        ∀ value, literal.float? = some value → value.positional = literal.text := by
  by_cases narrow : literal.IsNarrow
  · obtain ⟨kept, same, shown⟩ := exists_render_eq_text narrow
    refine iff_of_true ?_ (.inl narrow)
    intro given also
    obtain rfl := Option.some.inj (same.symm.trans also)
    exact shown
  · rw [attribute?_of_not_isNarrow narrow, or_iff_right narrow]
    simp [Attribute.render]

end IntegerLiteral

end Json

end HlsEmit

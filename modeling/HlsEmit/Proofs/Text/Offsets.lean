import HlsEmit.Diagnostic.Locate
import HlsEmit.Proofs.Text.Position
import Mathlib.Data.List.DropRight

/-! # Lines and columns of bytes

Every byte of a text has a line, which is one more than the newlines before it, and a
distance from the start of that line. These lead back to the byte, also where it lies
inside a character. Whatever line and column are looked up, a byte that is found is one
of the text.
-/

namespace HlsEmit.Text

/-- The bytes of a text. -/
def bytes (source : String) : List UInt8 := source.toByteArray.data.toList

/-- The byte of a newline. -/
def newlineByte : UInt8 := 10

/-- The bytes behind the last newline. -/
def lastLine (bytes : List UInt8) : List UInt8 := bytes.rtakeWhile (· ≠ newlineByte)

/-- The line of an offset, counted from one. -/
def lineAt (bytes : List UInt8) (offset : Nat) : Nat := 1 + (bytes.take offset).count newlineByte

/-- Where the line of an offset starts: behind the last newline before it. -/
def lineStart (bytes : List UInt8) (offset : Nat) : Nat :=
  offset - (lastLine (bytes.take offset)).length

/-- The bytes of the characters. -/
def bytesOf (chars : List Char) : List UInt8 := chars.flatMap String.utf8EncodeChar

theorem bytes_eq (source : String) : bytes source = bytesOf source.toList := by
  rw [bytes, ← String.utf8Encode_toList, List.utf8Encode, List.toList_data_toByteArray, bytesOf]

theorem bytesOf_cons (c : Char) (rest : List Char) :
    bytesOf (c :: rest) = String.utf8EncodeChar c ++ bytesOf rest := List.flatMap_cons

theorem length_bytesOf (chars : List Char) : (bytesOf chars).length = byteSize chars := by
  induction chars with
  | nil => rfl
  | cons c rest ih =>
      rw [bytesOf_cons, List.length_append, String.length_utf8EncodeChar, ih, byteSize_cons]

/-- The byte of a newline occurs in no other character. -/
theorem newlineByte_notMem {c : Char} (visible : c ≠ '\n') :
    newlineByte ∉ String.utf8EncodeChar c := by
  have code : c.val.toNat ≠ 10 := fun same => visible (Char.ext (UInt32.toNat_inj.mp same))
  intro inside
  simp only [String.utf8EncodeChar] at inside
  generalize c.val.toNat = code at *
  have number : newlineByte.toNat = 10 := rfl
  split_ifs at inside <;>
    simp only [List.mem_cons, List.not_mem_nil, or_false, ← UInt8.toNat_inj, UInt8.toNat_ofNat',
      number] at inside <;>
    omega

theorem bytesOf_newline (rest : List Char) :
    bytesOf ('\n' :: rest) = newlineByte :: bytesOf rest := rfl

theorem lastLine_of_notMem {bytes : List UInt8} (absent : newlineByte ∉ bytes) :
    lastLine bytes = bytes := by
  apply List.rtakeWhile_eq_self_iff.mpr
  intro byte inside
  exact decide_eq_true fun same => absent (same ▸ inside)

theorem lastLine_concat (bytes : List UInt8) (last : UInt8) : lastLine (bytes ++ [last]) =
    if last = newlineByte then [] else lastLine bytes ++ [last] := by
  rw [lastLine, List.rtakeWhile_concat, ← lastLine]
  by_cases newline : last = newlineByte <;> simp [newline]

theorem lastLine_append (front back : List UInt8) : lastLine (front ++ back) =
    if newlineByte ∈ back then lastLine back else lastLine front ++ back := by
  induction back using List.reverseRecOn with
  | nil => simp
  | append_singleton init last ih =>
      rw [← List.append_assoc, lastLine_concat, lastLine_concat, ih]
      by_cases newline : last = newlineByte
      · simp [newline]
      · by_cases inside : newlineByte ∈ init <;> simp [newline, Ne.symm newline, inside]

namespace Position

/-- The position behind some bytes. -/
def past (position : Position) (bytes : List UInt8) : Position :=
  ⟨position.line + bytes.count newlineByte,
    (if newlineByte ∈ bytes then 0 else position.column) + (lastLine bytes).length⟩

theorem past_nil (position : Position) : position.past [] = position := by
  simp [past, lastLine]

theorem past_newline (position : Position) :
    position.past [newlineByte] = ⟨position.line + 1, 0⟩ := by
  simp [past, lastLine, List.rtakeWhile]

theorem past_visible (position : Position) {bytes : List UInt8} (visible : newlineByte ∉ bytes) :
    position.past bytes = ⟨position.line, position.column + bytes.length⟩ := by
  rw [past, List.count_eq_zero_of_not_mem visible, if_neg visible, lastLine_of_notMem visible,
    Nat.add_zero]

theorem past_append (position : Position) (front back : List UInt8) :
    position.past (front ++ back) = (position.past front).past back := by
  by_cases later : newlineByte ∈ back
  · simp [past, lastLine_append, later, Nat.add_assoc]
  · rw [past_visible _ later, past, past, lastLine_append, if_neg later, List.count_append,
      List.count_eq_zero_of_not_mem later, List.length_append]
    simp [later, Nat.add_assoc]

/-- Going on from a position leads behind the bytes that are passed. -/
theorem advance_eq_past {chars : List Char} {count : Nat} (inside : count ≤ byteSize chars)
    (position : Position) :
    position.advance count chars = position.past ((bytesOf chars).take count) := by
  induction chars generalizing position count with
  | nil => rw [advance_nil, bytesOf, List.flatMap_nil, List.take_nil, past_nil]
  | cons c rest ih =>
      rcases Nat.eq_zero_or_pos count with rfl | positive
      · rw [advance_zero, List.take_zero, past_nil]
      · rw [byteSize_cons] at inside
        by_cases newline : c = '\n'
        · subst newline
          obtain ⟨less, rfl⟩ : ∃ less, count = less + 1 := ⟨count - 1, by omega⟩
          have unit : ('\n' : Char).utf8Size = 1 := rfl
          rw [advance_newline, ih (by omega), bytesOf_newline, List.take_succ_cons,
            ← List.singleton_append, past_append, past_newline]
        · have visible : newlineByte ∉ (String.utf8EncodeChar c).take count :=
            fun inside => newlineByte_notMem newline (List.mem_of_mem_take inside)
          rw [advance_visible position newline positive, ih (by omega), bytesOf_cons,
            List.take_append, past_append, past_visible position visible, List.length_take,
            String.length_utf8EncodeChar]

/-- The position of an offset can be read off the bytes before it. -/
theorem ofOffset_eq {source : String} {offset : Nat} (inside : offset ≤ (bytes source).length) :
    ofOffset source.toList offset =
      ⟨lineAt (bytes source) offset, offset - lineStart (bytes source) offset⟩ := by
  have column : (lastLine ((bytes source).take offset)).length ≤ offset :=
    Nat.le_trans (List.IsSuffix.length_le (List.rtakeWhile_suffix _ _)) (List.length_take_le _ _)
  rw [bytes_eq] at inside column ⊢
  rw [length_bytesOf] at inside
  rw [ofOffset, advance_eq_past inside, past, lineAt, lineStart]
  simp only [start, ite_self, Nat.zero_add, Nat.sub_sub_self column]

end Position

/-- The column of the position of a byte, counted from one, leads back to the byte. -/
theorem offsetOf?_ofOffset_succ {chars : List Char} {offset : Nat}
    (inside : offset < byteSize chars) :
    offsetOf? chars (Position.ofOffset chars offset).line
      ((Position.ofOffset chars offset).column + 1) = some offset := by
  have column := column_ofOffset_le (Nat.le_of_lt inside)
  have unfinished : ¬(offset = byteSize chars ∧ EndsLine chars) :=
    fun finished => Nat.ne_of_lt inside finished.1
  rw [offsetOf?_line (Nat.le_of_lt inside), if_neg unfinished, Nat.add_sub_cancel,
    Nat.sub_add_cancel column, Nat.min_eq_left (Nat.le_sub_one_of_lt inside)]

/-- Only a text with bytes has lines. -/
theorem lt_of_offsetOf? {chars : List Char} {line column offset : Nat}
    (found : offsetOf? chars line column = some offset) : offset < byteSize chars := by
  have nonempty : chars ≠ [] := by
    rintro rfl
    simp [offsetOf?] at found
    omega
  have size := byteSize_pos nonempty
  simp only [offsetOf?] at found
  split at found
  · have placed := Option.some.inj found
    omega
  · cases found

/-- The line and the column of any byte lead back to it, and whatever a line and a column
    lead to is a byte of the text. -/
theorem offsetOf?_lineAt (source : String) :
    (∀ offset < (bytes source).length,
      offsetOf? source.toList (lineAt (bytes source) offset)
        (offset - lineStart (bytes source) offset + 1) = some offset) ∧
    ∀ line column,
      (∀ offset, offsetOf? source.toList line column = some offset →
        offset < (bytes source).length) ∧
      ∀ span ∈ positionSpan? source.toList ⟨line, column⟩,
        span.stop = span.start + 1 ∧ span.stop ≤ (bytes source).length := by
  have size : (bytes source).length = byteSize source.toList := by
    rw [bytes_eq, length_bytesOf]
  constructor
  · intro offset inside
    have placed := Position.ofOffset_eq (Nat.le_of_lt inside)
    rw [size] at inside
    have found := offsetOf?_ofOffset_succ inside
    rwa [placed] at found
  · intro line column
    rw [size]
    refine ⟨fun offset => lt_of_offsetOf?, ?_⟩
    intro span shown
    obtain ⟨start, found, rfl⟩ := Option.map_eq_some_iff.mp shown
    exact ⟨rfl, lt_of_offsetOf? found⟩

/-- The second byte of a letter is found, and a column behind the end leads to the last
    byte. -/
theorem offsetOf?_accented :
    4 < (bytes "a\n\né\n").length ∧
      offsetOf? "a\n\né\n".toList 3 2 = some 4 ∧
      positionSpan? "a\n\né\n".toList ⟨3, 9⟩ = some ⟨5, 6⟩ ∧ 6 ≤ (bytes "a\n\né\n").length := by
  obtain ⟨inverts, inside⟩ := offsetOf?_lineAt "a\n\né\n"
  have within : 4 < (bytes "a\n\né\n").length := by decide +kernel
  have shown : positionSpan? "a\n\né\n".toList ⟨3, 9⟩ = some ⟨5, 6⟩ := by decide +kernel
  exact ⟨within, inverts 4 within, shown, ((inside 3 9).2 ⟨5, 6⟩ shown).2⟩

end HlsEmit.Text

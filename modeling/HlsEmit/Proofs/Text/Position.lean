import HlsEmit.Text.Position

/-! # Positions and offsets

The position of an offset leads back to the offset: the line starts where the lines
before it end, and the column counts from there. Only the end of a text whose last
line is complete lies on a line that the text does not have.
-/

namespace HlsEmit.Text

/-- The text is empty or ends in a newline, so nothing has been written of its next line. -/
def EndsLine (chars : List Char) : Prop := ∀ c ∈ chars.getLast?, c = '\n'

instance (chars : List Char) : Decidable (EndsLine chars) :=
  inferInstanceAs (Decidable (∀ c ∈ chars.getLast?, c = '\n'))

theorem byteSize_pos {chars : List Char} (nonempty : chars ≠ []) : 0 < byteSize chars := by
  obtain ⟨c, rest, rfl⟩ := List.exists_cons_of_ne_nil nonempty
  exact Nat.add_pos_left c.utf8Size_pos _

theorem endsLine_nil : EndsLine [] := by simp [EndsLine]

theorem endsLine_singleton (c : Char) : EndsLine [c] ↔ c = '\n' := by simp [EndsLine]

theorem endsLine_cons_cons (c d : Char) (rest : List Char) :
    EndsLine (c :: d :: rest) ↔ EndsLine (d :: rest) := by
  simp [EndsLine, List.getLast?_cons_cons]

theorem endsLine_newline_cons (rest : List Char) : EndsLine ('\n' :: rest) ↔ EndsLine rest := by
  cases rest with
  | nil => simp [endsLine_nil, endsLine_singleton]
  | cons d rest => exact endsLine_cons_cons '\n' d rest

@[simp] theorem linesOf_nil : linesOf [] = [] := rfl

@[simp] theorem linesOf_newline (rest : List Char) :
    linesOf ('\n' :: rest) = ['\n'] :: linesOf rest := rfl

theorem linesOf_ne_nil (c : Char) (rest : List Char) : linesOf (c :: rest) ≠ [] := by
  simp only [linesOf]
  split
  · simp
  · split <;> simp

/-- A character that ends no line belongs to the line of what follows. -/
theorem linesOf_cons {c : Char} (visible : c ≠ '\n') (d : Char) (rest : List Char) :
    ∃ line lines, linesOf (d :: rest) = line :: lines ∧
      linesOf (c :: d :: rest) = (c :: line) :: lines := by
  cases following : linesOf (d :: rest) with
  | nil => exact absurd following (linesOf_ne_nil d rest)
  | cons line lines =>
      refine ⟨line, lines, rfl, ?_⟩
      rw [linesOf, if_neg visible, following]

namespace Position

theorem advance_zero (position : Position) (chars : List Char) :
    position.advance 0 chars = position := by
  cases chars <;> rfl

theorem advance_nil (position : Position) (count : Nat) : position.advance count [] = position := by
  cases count <;> rfl

theorem advance_newline (position : Position) (count : Nat) (rest : List Char) :
    position.advance (count + 1) ('\n' :: rest) =
      advance ⟨position.line + 1, 0⟩ count rest := rfl

theorem advance_visible (position : Position) {c : Char} (visible : c ≠ '\n') {count : Nat}
    (inside : 0 < count) (rest : List Char) :
    position.advance count (c :: rest) =
      advance ⟨position.line, position.column + min count c.utf8Size⟩
        (count - c.utf8Size) rest := by
  cases count with
  | zero => cases inside
  | succ count => rw [advance, if_neg visible]

/-- Going on by `count` bytes from `position` leads to a line of what follows, and to
    as many bytes after its start as are left of them. Only the first line has a part
    before `position`. -/
structure Reaches (position : Position) (count : Nat) (chars : List Char) (reached : Position) :
    Prop where
  line : position.line ≤ reached.line
  column : byteSize ((linesOf chars).take (reached.line - position.line)).flatten + reached.column =
    count + if reached.line = position.line then position.column else 0
  exists_iff : reached.line - position.line < (linesOf chars).length ↔
    ¬(count = byteSize chars ∧ EndsLine chars)

/-- On the line of the position, where that line goes on or has not been completed. -/
theorem reaches_same_line (position : Position) {count : Nat} {chars : List Char}
    (more : chars ≠ []) (open_ : ¬(count = byteSize chars ∧ EndsLine chars)) :
    position.Reaches count chars ⟨position.line, position.column + count⟩ := by
  obtain ⟨c, rest, rfl⟩ := List.exists_cons_of_ne_nil more
  have lines := List.length_pos_iff.mpr (linesOf_ne_nil c rest)
  exact ⟨Nat.le_refl _, by simp [Nat.add_comm], iff_of_true (by simpa using lines) open_⟩

theorem reaches_newline {position reached : Position} {count : Nat} {rest : List Char}
    (reaches : Reaches ⟨position.line + 1, 0⟩ count rest reached) :
    position.Reaches (count + 1) ('\n' :: rest) reached := by
  obtain ⟨line, column, exists_iff⟩ := reaches
  simp only [ite_self, Nat.add_zero] at line column exists_iff
  have further : reached.line - position.line = reached.line - (position.line + 1) + 1 := by omega
  have size : byteSize ['\n'] = 1 := rfl
  constructor
  · omega
  · rw [further, linesOf_newline, List.take_succ_cons, List.flatten_cons, byteSize_append, size,
      if_neg (by omega)]
    omega
  · rw [further, linesOf_newline, List.length_cons, byteSize_cons, endsLine_newline_cons]
    have unit : ('\n' : Char).utf8Size = 1 := rfl
    rw [unit, Nat.add_comm 1, Nat.add_right_cancel_iff, ← exists_iff]
    omega

theorem reaches_visible {position reached : Position} {c d : Char} (visible : c ≠ '\n')
    {count : Nat} {rest : List Char} (whole : c.utf8Size ≤ count)
    (reaches : Reaches ⟨position.line, position.column + c.utf8Size⟩ (count - c.utf8Size)
      (d :: rest) reached) :
    position.Reaches count (c :: d :: rest) reached := by
  obtain ⟨line, column, exists_iff⟩ := reaches
  obtain ⟨first, lines, following, joined⟩ := linesOf_cons visible d rest
  rw [following] at column exists_iff
  refine ⟨line, ?_, ?_⟩
  · rw [joined]
    cases further : reached.line - position.line with
    | zero =>
        have same : reached.line = position.line := by simp only at line; omega
        simp only [same, Nat.sub_self, List.take_zero, if_true] at column ⊢
        omega
    | succ lineCount =>
        have differ : reached.line ≠ position.line := by omega
        simp only [further, differ, if_false, List.take_succ_cons, List.flatten_cons,
          byteSize_append, byteSize_cons] at column ⊢
        omega
  · rw [joined, endsLine_cons_cons, byteSize_cons]
    simp only [List.length_cons] at exists_iff ⊢
    rw [exists_iff]
    have same : count - c.utf8Size = byteSize (d :: rest) ↔
        count = c.utf8Size + byteSize (d :: rest) := by omega
    rw [same]

theorem reaches_advance {chars : List Char} {count : Nat} (inside : count ≤ byteSize chars)
    (position : Position) : position.Reaches count chars (position.advance count chars) := by
  induction chars generalizing position count with
  | nil =>
      have nothing : count = 0 := by simpa using inside
      subst nothing
      rw [advance_zero]
      exact ⟨Nat.le_refl _, by simp, by simp [endsLine_nil]⟩
  | cons c rest ih =>
      rcases Nat.eq_zero_or_pos count with rfl | positive
      · rw [advance_zero]
        refine reaches_same_line position (List.cons_ne_nil c rest) fun finished => ?_
        exact Nat.ne_of_lt (byteSize_pos (List.cons_ne_nil c rest)) finished.1
      · by_cases newline : c = '\n'
        · subst newline
          obtain ⟨less, rfl⟩ : ∃ less, count = less + 1 := ⟨count - 1, by omega⟩
          have size : byteSize ('\n' :: rest) = byteSize rest + 1 := Nat.add_comm _ _
          rw [advance_newline]
          exact reaches_newline (ih (by omega) _)
        · rw [advance_visible position newline positive]
          rw [byteSize_cons] at inside
          cases rest with
          | nil =>
              rw [advance_nil, Nat.min_eq_left (by simpa using inside)]
              refine reaches_same_line position (List.cons_ne_nil c []) fun finished => ?_
              exact newline ((endsLine_singleton c).mp finished.2)
          | cons d rest =>
              rcases Nat.lt_or_ge count c.utf8Size with split | whole
              · rw [Nat.min_eq_left (Nat.le_of_lt split),
                  Nat.sub_eq_zero_of_le (Nat.le_of_lt split), advance_zero]
                refine reaches_same_line position (List.cons_ne_nil c _) fun finished => ?_
                have size := finished.1
                rw [byteSize_cons] at size
                omega
              · rw [Nat.min_eq_right whole]
                exact reaches_visible newline whole (ih (by omega) _)

end Position

/-- The line of an offset starts as many bytes before it as its column says. -/
theorem column_ofOffset_le {chars : List Char} {offset : Nat} (inside : offset ≤ byteSize chars) :
    (Position.ofOffset chars offset).column ≤ offset := by
  have column := (Position.reaches_advance inside Position.start).column
  rw [← Position.ofOffset, show Position.start.column = 0 from rfl, ite_self] at column
  omega

/-- A column of the line of an offset counts from the start of that line. -/
theorem offsetOf?_line {chars : List Char} {offset : Nat} (inside : offset ≤ byteSize chars)
    (column : Nat) : offsetOf? chars (Position.ofOffset chars offset).line column =
      if offset = byteSize chars ∧ EndsLine chars then none
      else some (min (offset - (Position.ofOffset chars offset).column + (column - 1))
        (byteSize chars - 1)) := by
  obtain ⟨line, distance, exists_iff⟩ := Position.reaches_advance inside Position.start
  rw [← Position.ofOffset] at line distance exists_iff
  rw [show Position.start.column = 0 from rfl, ite_self] at distance
  generalize Position.ofOffset chars offset = position at line distance exists_iff ⊢
  simp only [Position.start] at line distance exists_iff
  by_cases finished : offset = byteSize chars ∧ EndsLine chars
  · have beyond : ¬position.line ≤ (linesOf chars).length := by
      have absent := mt exists_iff.mp (not_not_intro finished)
      omega
    simp [offsetOf?, finished, beyond]
  · have present : 0 < position.line ∧ position.line ≤ (linesOf chars).length := by
      have present := exists_iff.mpr finished
      omega
    have lineStart : byteSize ((linesOf chars).take (position.line - 1)).flatten =
        offset - position.column := by omega
    simp [offsetOf?, finished, present, lineStart]

/-- The offset of the position of an offset is the byte before it, or the offset itself
    where a line starts. -/
theorem offsetOf?_ofOffset {chars : List Char} {offset : Nat} (inside : offset ≤ byteSize chars) :
    offsetOf? chars (Position.ofOffset chars offset).line (Position.ofOffset chars offset).column =
      if offset = byteSize chars ∧ EndsLine chars then none
      else some (min (offset - min 1 (Position.ofOffset chars offset).column)
        (byteSize chars - 1)) := by
  have column := column_ofOffset_le inside
  have place : offset - (Position.ofOffset chars offset).column +
      ((Position.ofOffset chars offset).column - 1) =
        offset - min 1 (Position.ofOffset chars offset).column := by omega
  rw [offsetOf?_line inside, place]

end HlsEmit.Text

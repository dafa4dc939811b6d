import HlsEmit.Diagnostic.Report
import HlsEmit.Proofs.Text.Position

/-! # The line on which a span is shown

A report takes the start of a span for the number of a character and shows the line of this
character, where every line break ends a line. The number of a byte is that of a character
if all characters before it have one byte, and newlines count the lines if no other break
ends one.
-/

namespace HlsEmit

namespace Text

theorem byteSize_eq_length {chars : List Char} (narrow : ∀ c ∈ chars, c.utf8Size = 1) :
    byteSize chars = chars.length := by
  induction chars with
  | nil => rfl
  | cons c rest ih =>
      obtain ⟨first, others⟩ := List.forall_mem_cons.mp narrow
      rw [byteSize_cons, List.length_cons, first, ih others, Nat.add_comm]

@[simp] theorem brokenLines_nil : brokenLines [] = [] := rfl

theorem brokenLines_eq_nil_iff {chars : List Char} : brokenLines chars = [] ↔ chars = [] := by
  constructor
  · intro none
    rw [← flatten_brokenLines chars, none, List.flatten_nil]
  · intro none
    rw [none, brokenLines_nil]

theorem brokenLines_ne_nil {chars : List Char} (nonempty : chars ≠ []) : brokenLines chars ≠ [] :=
  mt brokenLines_eq_nil_iff.mp nonempty

@[simp] theorem brokenLines_newline (rest : List Char) :
    brokenLines ('\n' :: rest) = ['\n'] :: brokenLines rest := rfl

@[simp] theorem brokenLines_carriage (rest : List Char) :
    brokenLines ('\r' :: '\n' :: rest) = ['\r', '\n'] :: brokenLines rest := rfl

theorem brokenLines_break {c : Char} (breaks : isLineBreak c = true) {rest : List Char}
    (alone : c = '\r' → rest.head? ≠ some '\n') :
    brokenLines (c :: rest) = [c] :: brokenLines rest := by
  rw [brokenLines, if_pos breaks]
  rintro others rfl rfl
  exact alone rfl rfl

/-- A character that ends no line belongs to the line of what follows. -/
theorem brokenLines_cons {c : Char} (visible : isLineBreak c = false) {rest line : List Char}
    {lines : List (List Char)} (following : brokenLines rest = line :: lines) :
    brokenLines (c :: rest) = (c :: line) :: lines := by
  rw [brokenLines, visible, following]
  · rfl
  · rintro others rfl rfl
    simp [isLineBreak] at visible

theorem length_brokenLines_cons {c : Char} (visible : isLineBreak c = false) {rest : List Char}
    (more : rest ≠ []) : (brokenLines (c :: rest)).length = (brokenLines rest).length := by
  obtain ⟨line, lines, following⟩ := List.exists_cons_of_ne_nil (brokenLines_ne_nil more)
  rw [brokenLines_cons visible following, following, List.length_cons, List.length_cons]

/-- Only newlines end lines, if need be with a carriage return before them. -/
def OnlyNewlines : List Char → Prop
  | [] => True
  | c :: rest =>
      (isLineBreak c = true → c = '\n' ∨ c = '\r' ∧ rest.head? = some '\n') ∧ OnlyNewlines rest

instance : (chars : List Char) → Decidable (OnlyNewlines chars)
  | [] => isTrue trivial
  | _ :: rest =>
      have := instDecidableOnlyNewlines rest
      inferInstanceAs (Decidable (_ ∧ _))

theorem length_brokenLines_singleton (c : Char) : (brokenLines [c]).length = 1 := by
  by_cases breaks : isLineBreak c = true
  · rw [brokenLines_break breaks (by simp)]
    rfl
  · simp [brokenLines, breaks]

/-- Up to any character there are as many lines as newlines, and the line of the
    character itself. -/
theorem length_brokenLines_of_onlyNewlines {before rest : List Char} {c : Char}
    (onlyNewlines : OnlyNewlines (before ++ c :: rest)) :
    (brokenLines (before ++ [c])).length = before.count '\n' + 1 := by
  induction before with
  | nil => exact length_brokenLines_singleton c
  | cons d before ih =>
      obtain ⟨allowed, others⟩ := onlyNewlines
      have following := ih others
      rw [List.cons_append, List.count_cons]
      by_cases breaks : isLineBreak d = true
      · rcases allowed breaks with rfl | ⟨rfl, newline⟩
        · rw [brokenLines_newline, List.length_cons, following]
          rfl
        · -- a carriage return and its newline are one break, like the newline alone
          obtain ⟨others, split⟩ : ∃ others, before ++ [c] = '\n' :: others := by
            cases before <;> simp_all
          rw [split, brokenLines_newline] at following
          rw [split, brokenLines_carriage]
          exact following
      · have visible : d ≠ '\n' := by
          rintro rfl
          exact breaks rfl
        rw [length_brokenLines_cons (by simpa using breaks) (by simp), following]
        simp [visible]

end Text

namespace Label

/-- How many of the lines lie before the one with the character of the given number. What
    comes after all lines is on the last one. -/
def linesBefore : List (List Char) → Nat → Nat
  | [], _ => 0
  | line :: rest, offset =>
      if offset < line.length ∨ rest.isEmpty then 0
      else linesBefore rest (offset - line.length) + 1

theorem linesBefore_of_lt {line : List Char} {offset : Nat} (here : offset < line.length)
    (rest : List (List Char)) : linesBefore (line :: rest) offset = 0 :=
  if_pos (.inl here)

/-- What is so of the lines after the first is so of all if the first has ended. -/
theorem linesBefore_of_following {rest : List Char} {offset : Nat}
    (following : rest ≠ [] → linesBefore (Text.brokenLines rest) offset + 1 =
      (Text.brokenLines (rest.take (offset + 1))).length) (line : List Char) :
    linesBefore (line :: Text.brokenLines rest) (line.length + offset) =
      (Text.brokenLines (rest.take (offset + 1))).length := by
  cases rest with
  | nil => exact if_pos (.inr rfl)
  | cons c rest =>
      have more := Text.brokenLines_ne_nil (List.cons_ne_nil c rest)
      rw [linesBefore, if_neg (by simp [more]), Nat.add_sub_cancel_left,
        following (List.cons_ne_nil c rest)]

/-- The lines before a character are those that end in the text before it. By the lines of
    the text, the offset being counted from the start of each. -/
theorem linesBefore_brokenLines {chars : List Char} (nonempty : chars ≠ []) (offset : Nat) :
    linesBefore (Text.brokenLines chars) offset + 1 =
      (Text.brokenLines (chars.take (offset + 1))).length := by
  fun_induction Text.brokenLines chars generalizing offset with
  | case1 => exact absurd rfl nonempty
  | case2 rest ih =>
      rcases offset with _ | _ | offset
      · rfl
      · rfl
      · rw [List.take_succ_cons, List.take_succ_cons, Text.brokenLines_carriage, List.length_cons,
          ← linesBefore_of_following (fun more => ih more offset) ['\r', '\n']]
        exact congrArg (linesBefore _ · + 1) (Nat.add_comm offset 2)
  | case3 c rest alone breaks ih =>
      cases offset with
      | zero =>
          rw [linesBefore_of_lt (Nat.lt_add_one 0)]
          exact (Text.length_brokenLines_singleton c).symm
      | succ offset =>
          have apart : c = '\r' → (rest.take (offset + 1)).head? ≠ some '\n' := by
            cases rest with
            | nil => simp
            | cons d others => simpa using alone others
          rw [List.take_succ_cons, Text.brokenLines_break breaks apart, List.length_cons,
            ← linesBefore_of_following (fun more => ih more offset) [c]]
          exact congrArg (linesBefore _ · + 1) (Nat.add_comm offset 1)
  | case4 c rest alone visible none =>
      rw [Text.brokenLines_eq_nil_iff.mp none, linesBefore, if_pos (.inr rfl),
        List.take_succ_cons, List.take_nil, Text.length_brokenLines_singleton]
  | case5 c rest alone visible line lines following ih =>
      have more : rest ≠ [] := by
        rintro rfl
        cases following
      cases offset with
      | zero =>
          rw [linesBefore_of_lt (Nat.zero_lt_succ _)]
          exact (Text.length_brokenLines_singleton c).symm
      | succ offset =>
          rw [List.take_succ_cons, Text.length_brokenLines_cons (by simpa using visible)
            (by simpa using more), ← ih more, following]
          simp [linesBefore]

theorem line_of_inLines {number : Nat} {lines : List (List Char)} {span : Span} {label : Label}
    (found : inLines number lines span = some label) :
    label.line = number + linesBefore lines span.start := by
  fun_induction inLines number lines span with
  | case1 => cases found
  | case2 number line rest span here =>
      cases found
      rw [linesBefore, if_pos here, Nat.add_zero]
  | case3 number line rest span further ih =>
      rw [ih found, linesBefore, if_neg further]
      exact Nat.add_right_comm number 1 _

theorem inLines_eq_none_iff {number : Nat} {lines : List (List Char)} {span : Span} :
    inLines number lines span = none ↔ lines = [] := by
  fun_induction inLines number lines span with
  | case1 => simp
  | case2 => simp
  | case3 number line rest span further ih =>
      have more : rest ≠ [] := fun last => further (.inr (last ▸ rfl))
      exact iff_of_false (mt ih.mp more) (List.cons_ne_nil line rest)

end Label

/-- A span with both ends in the text, if need be one place after its end, where no
    character is. An empty span may end anywhere. -/
structure Span.IsShown (span : Span) (source : List Char) : Prop where
  nonempty : source ≠ []
  start : span.start ≤ source.length
  stop : span.start < span.stop → span.stop ≤ source.length + 1

namespace Label

theorem ofSpan?_of_isShown {source : List Char} {span : Span} (shown : span.IsShown source) :
    ofSpan? source span = inLines 1 (Text.brokenLines source) span := by
  rw [ofSpan?, if_neg (Nat.not_lt.mpr shown.start), if_neg]
  rintro ⟨more, far⟩
  have stop := shown.stop more
  omega

theorem ofSpan?_of_not_isShown {source : List Char} {span : Span}
    (hidden : ¬span.IsShown source) : ofSpan? source span = none := by
  rw [ofSpan?]
  split
  case isTrue => rfl
  case isFalse inside =>
    split
    case isTrue => rfl
    case isFalse within =>
      rw [inLines_eq_none_iff, Text.brokenLines_eq_nil_iff]
      refine Decidable.byContradiction fun nonempty => hidden ⟨nonempty, Nat.not_lt.mp inside, ?_⟩
      intro more
      have near := fun far => within ⟨more, far⟩
      omega

/-- A span is shown on the line of the character whose number is its start. -/
theorem exists_ofSpan? {source : List Char} {span : Span} (shown : span.IsShown source) :
    ∃ label, ofSpan? source span = some label ∧
      label.line = (Text.brokenLines (source.take (span.start + 1))).length := by
  have lines := Text.brokenLines_ne_nil shown.nonempty
  obtain ⟨label, found⟩ :=
    Option.ne_none_iff_exists'.mp (mt (@inLines_eq_none_iff 1 _ span).mp lines)
  refine ⟨label, (ofSpan?_of_isShown shown).trans found, ?_⟩
  rw [line_of_inLines found, ← linesBefore_brokenLines shown.nonempty, Nat.add_comm]

end Label

end HlsEmit

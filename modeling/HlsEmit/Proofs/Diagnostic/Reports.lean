import HlsEmit.Proofs.Diagnostic.Labels
import Mathlib

/-! # What a report shows

The message is always shown. The help and a note stand below the line of the span, so they
are shown only if the span is: it must lie in the source, counted in characters. Of several
notes only the last is shown, and the line of the span is the one that its numbers give
as numbers of characters, though they count bytes.
-/

namespace HlsEmit

open Text (byteSize brokenLines)

theorem Span.isShown_of_le_length {span : Span} {source : List Char}
    (nonempty : span.start < span.stop) (inside : span.stop ≤ source.length) :
    span.IsShown source where
  nonempty := List.ne_nil_of_length_pos (by omega)
  start := by omega
  stop _ := by omega

namespace Diagnostic

theorem join_plainCells (severity : Severity) (coloured : Bool) (text : String) :
    String.join ((plainCells text).map (cellText severity coloured)) = text := by
  have plain : cellText severity coloured ∘ (⟨·, false⟩) = Char.toString := by
    funext c
    simp [cellText]
  rw [plainCells, List.map_map, plain]
  apply String.toList_injective
  rw [String.toList_join, List.flatMap_map]
  simp

variable {diagnostic : Diagnostic} {filename source : String}

/-- The text is part of the report. -/
def InReport (diagnostic : Diagnostic) (filename source text : String) : Prop :=
  text.toList <:+: (diagnostic.render filename source).toList

instance (filename source text : String) : Decidable (diagnostic.InReport filename source text) :=
  inferInstanceAs (Decidable (_ <:+: _))

/-- The span of the diagnostic is shown. -/
def IsPlaced (diagnostic : Diagnostic) (source : List Char) : Prop :=
  ∃ span ∈ diagnostic.span, span.IsShown source

theorem inReport_of_mem_reportLines {text : String}
    (inside : plainCells text ∈ diagnostic.reportLines filename source.toList) :
    diagnostic.InReport filename source text := by
  obtain ⟨above, below, lines⟩ := List.append_of_mem inside
  rw [InReport, render, report, lines, List.map_append, List.map_cons, String.join_append,
    String.join_cons, join_plainCells, String.toList_append, String.toList_append,
    String.toList_append]
  exact ((List.infix_append' [] _ _).trans (List.prefix_append _ _).isInfix).trans
    (List.suffix_append _ _).isInfix

theorem exists_label {chars : List Char} {span : Span} (given : diagnostic.span = some span)
    (shown : span.IsShown chars) :
    ∃ label, diagnostic.span.bind (Label.ofSpan? chars) = some label ∧
      label.line = (brokenLines (chars.take (span.start + 1))).length := by
  rw [given]
  exact Label.exists_ofSpan? shown

theorem reportLines_of_not_isPlaced {chars : List Char} (hidden : ¬diagnostic.IsPlaced chars) :
    diagnostic.reportLines filename chars = [plainCells diagnostic.headline] := by
  have unlabelled : diagnostic.span.bind (Label.ofSpan? chars) = none := by
    rw [Option.bind_eq_none_iff]
    intro span given
    exact Label.ofSpan?_of_not_isShown fun shown => hidden ⟨span, given, shown⟩
  rw [reportLines, unlabelled]

theorem render_of_not_isPlaced (hidden : ¬diagnostic.IsPlaced source.toList) :
    diagnostic.render filename source = diagnostic.headline ++ "\n" := by
  rw [render, report, reportLines_of_not_isPlaced hidden, List.map_singleton, join_plainCells,
    String.join_cons, String.join_nil, String.append_empty]

theorem InReport.of_append {title text : String}
    (together : diagnostic.InReport filename source (title ++ text)) :
    diagnostic.InReport filename source text := by
  rw [InReport, String.toList_append] at together
  exact (List.suffix_append _ _).isInfix.trans together

theorem exists_headline_eq : ∃ title, diagnostic.headline = title ++ diagnostic.message := by
  rw [headline]
  split
  · exact ⟨_, rfl⟩
  · exact ⟨_, rfl⟩

theorem inReport_message : diagnostic.InReport filename source diagnostic.message := by
  obtain ⟨title, headline⟩ := @exists_headline_eq diagnostic
  have together : diagnostic.InReport filename source diagnostic.headline :=
    inReport_of_mem_reportLines List.mem_cons_self
  rw [headline] at together
  exact together.of_append

theorem help_mem_adviceLines {help : String} (given : diagnostic.help = some help)
    (margin : String) : margin ++ "Help: " ++ help ∈ diagnostic.adviceLines margin := by
  rw [adviceLines, given]
  exact List.mem_append_left _ (List.mem_cons_of_mem _ List.mem_cons_self)

theorem note_mem_adviceLines {note : String} (last : diagnostic.notes.getLast? = some note)
    (margin : String) : margin ++ "Note: " ++ note ∈ diagnostic.adviceLines margin := by
  rw [adviceLines, last]
  exact List.mem_append_right _ (List.mem_cons_of_mem _ List.mem_cons_self)

/-- Advice is shown below the line of the span. -/
theorem inReport_of_mem_adviceLines {title text : String}
    (placed : diagnostic.IsPlaced source.toList)
    (inside : ∀ margin, margin ++ title ++ text ∈ diagnostic.adviceLines margin) :
    diagnostic.InReport filename source text := by
  obtain ⟨span, given, shown⟩ := placed
  obtain ⟨label, found, -⟩ := exists_label given shown
  obtain ⟨margin, line⟩ : ∃ margin, plainCells (margin ++ title ++ text) ∈
      diagnostic.reportLines filename source.toList := by
    rw [reportLines, found]
    exact ⟨_, List.mem_cons_of_mem _ (List.mem_append_left _
      (List.mem_append_right _ (List.mem_map_of_mem (inside _))))⟩
  exact (inReport_of_mem_reportLines line).of_append

/-- Of the notes, a report reads only the last. -/
theorem render_of_getLast? {notes : List String}
    (same : notes.getLast? = diagnostic.notes.getLast?) :
    { diagnostic with notes := notes }.render filename source =
      diagnostic.render filename source := by
  simp only [render, report, reportLines, adviceLines, same]
  rfl

/-- What a report shows of a diagnostic. -/
structure ReportShows (diagnostic : Diagnostic) (filename source : String) : Prop where
  message : diagnostic.InReport filename source diagnostic.message
  help : diagnostic.IsPlaced source.toList →
    ∀ help ∈ diagnostic.help, diagnostic.InReport filename source help
  note : diagnostic.IsPlaced source.toList →
    ∀ note ∈ diagnostic.notes.getLast?, diagnostic.InReport filename source note
  /-- Notes before the last make no difference. -/
  last : ∀ notes : List String, notes.getLast? = diagnostic.notes.getLast? →
    { diagnostic with notes := notes }.render filename source = diagnostic.render filename source
  unplaced : ¬diagnostic.IsPlaced source.toList →
    diagnostic.render filename source = diagnostic.headline ++ "\n"
  /-- Where characters are bytes, a range of bytes in the source has a place. -/
  isPlaced : (∀ c ∈ source.toList, c.utf8Size = 1) → ∀ span ∈ diagnostic.span,
    span.start < span.stop → span.stop ≤ byteSize source.toList →
      diagnostic.IsPlaced source.toList

/-- Reports show the message, and under the line of the span the help and the last note. -/
theorem reportShows (diagnostic : Diagnostic) (filename source : String) :
    diagnostic.ReportShows filename source where
  message := inReport_message
  help placed _ given := inReport_of_mem_adviceLines placed (help_mem_adviceLines given)
  note placed _ given := inReport_of_mem_adviceLines placed (note_mem_adviceLines given)
  last _ same := render_of_getLast? same
  unplaced hidden := render_of_not_isPlaced hidden
  isPlaced narrow span given nonempty inside :=
    ⟨span, given, span.isShown_of_le_length nonempty (Text.byteSize_eq_length narrow ▸ inside)⟩

/-- A diagnostic on a part of its text, with two notes. -/
def twiceNoted : Diagnostic :=
  ((error "bad layer" (some ⟨0, 1⟩)).withNote "n1").withNote "n2"

/-- The first of two notes is not shown. -/
theorem not_inReport_firstNote : "n1" ∈ twiceNoted.notes ∧
    ¬twiceNoted.InReport "m.json" "ab" "n1" := by
  decide +kernel

/-- The report up to the number of the line. -/
def upToLine (diagnostic : Diagnostic) (filename : String) (line : Nat) : String :=
  diagnostic.headline ++ "\n" ++
    String.ofList (List.replicate ((toString line).length + 2) ' ') ++ s!"╭─[{filename}:{line}"

/-- The second line of the report gives the line and the column. -/
def NamesPlace (diagnostic : Diagnostic) (filename source : String) (line column : Nat) : Prop :=
  (diagnostic.upToLine filename line ++ s!":{column}]" ++ "\n").toList <+:
    (diagnostic.render filename source).toList

instance (filename source : String) (line column : Nat) :
    Decidable (diagnostic.NamesPlace filename source line column) :=
  inferInstanceAs (Decidable (_ <+: _))

/-- The report gives the line, with some column. -/
def NamesLine (diagnostic : Diagnostic) (filename source : String) (line : Nat) : Prop :=
  ∃ column, diagnostic.NamesPlace filename source line column

theorem toList_upToLine (diagnostic : Diagnostic) (filename : String) (line : Nat) :
    (diagnostic.upToLine filename line).toList = (diagnostic.headline ++ "\n").toList ++
      (List.replicate ((toString line).length + 2) ' ' ++
        '╭' :: s!"─[{filename}:{line}".toList) := by
  have corner : (toString "╭─[").toList = '╭' :: (toString "─[").toList := rfl
  simp only [upToLine, String.toList_append, String.toList_ofList, corner, List.append_assoc,
    List.cons_append]

theorem NamesLine.starts {line : Nat} (names : diagnostic.NamesLine filename source line) :
    (diagnostic.upToLine filename line).toList <+: (diagnostic.render filename source).toList := by
  obtain ⟨column, names⟩ := names
  rw [NamesPlace, String.append_assoc, String.toList_append] at names
  exact (List.prefix_append _ _).trans names

theorem length_takeWhile_of_replicate {α : Type} [DecidableEq α] {a b : α} (differ : b ≠ a)
    {n : Nat} {rest whole : List α} (start : List.replicate n a ++ b :: rest <+: whole) :
    (whole.takeWhile (· = a)).length = n := by
  obtain ⟨more, rfl⟩ := start
  have blank : ∀ c ∈ List.replicate n a, decide (c = a) = true := by simp
  rw [List.append_assoc, List.takeWhile_append_of_pos blank, List.cons_append,
    List.takeWhile_cons_of_neg (by simpa using differ), List.append_nil, List.length_replicate]

/-- A report names at most one line: the blanks before the corner tell how long its number
    is. -/
theorem NamesLine.unique {line other : Nat} (names : diagnostic.NamesLine filename source line)
    (also : diagnostic.NamesLine filename source other) : line = other := by
  have first := names.starts
  have second := also.starts
  have width : (toString line).length = (toString other).length := by
    rw [toList_upToLine] at first second
    obtain ⟨tail, whole⟩ := (List.prefix_append _ _).trans first
    rw [← whole, List.prefix_append_right_inj] at first second
    have blanks := (length_takeWhile_of_replicate (by decide) first).symm.trans
      (length_takeWhile_of_replicate (by decide) second)
    exact Nat.add_right_cancel blanks
  have lengths : (diagnostic.upToLine filename line).toList.length =
      (diagnostic.upToLine filename other).toList.length := by
    simp only [toList_upToLine, List.length_append, List.length_cons, List.length_replicate,
      String.length_toList, String.length_append, width]
  have same := (List.prefix_of_prefix_length_le first second (Nat.le_of_eq lengths)).eq_of_length
    lengths
  rw [String.toList_inj, upToLine, upToLine, width, String.append_right_inj,
    String.append_right_inj] at same
  exact Nat.repr_inj.mp same

/-- A report names the line of the character whose number is the start of the span. -/
theorem namesLine_iff {start stop : Nat} (given : diagnostic.span = some ⟨start, stop⟩)
    (shown : Span.IsShown ⟨start, stop⟩ source.toList) (line : Nat) :
    diagnostic.NamesLine filename source line ↔
      line = (brokenLines (source.toList.take (start + 1))).length := by
  obtain ⟨label, found, labelLine⟩ := exists_label given shown
  have names : diagnostic.NamesLine filename source label.line := by
    refine ⟨label.start + 1, ?_⟩
    rw [NamesPlace, upToLine, render, report, reportLines, found]
    simp only [List.cons_append, List.map_cons, String.join_cons, join_plainCells]
    simp only [String.append_assoc, String.toList_append, List.prefix_append_right_inj]
    exact List.prefix_append _ _
  rw [← labelLine]
  constructor
  · intro also
    exact also.unique names
  · rintro rfl
    exact names

/-- The span gives the bytes of a part of the source. -/
structure Marks (diagnostic : Diagnostic) (source before marked : List Char) : Prop where
  part : before ++ marked <+: source
  nonempty : marked ≠ []
  span : diagnostic.span = some ⟨byteSize before, byteSize (before ++ marked)⟩

theorem Marks.isPlaced {chars before marked : List Char}
    (marks : diagnostic.Marks chars before marked)
    (narrow : ∀ c ∈ before ++ marked, c.utf8Size = 1) : diagnostic.IsPlaced chars := by
  refine ⟨_, marks.span, Span.isShown_of_le_length ?_ ?_⟩
  · rw [Text.byteSize_append]
    exact Nat.lt_add_of_pos_right (Text.byteSize_pos marks.nonempty)
  · rw [Text.byteSize_eq_length narrow]
    exact marks.part.length_le

theorem Marks.namesLine_iff {before marked : List Char}
    (marks : diagnostic.Marks source.toList before marked) (filename : String)
    (placed : diagnostic.IsPlaced source.toList) (line : Nat) :
    diagnostic.NamesLine filename source line ↔
      line = (brokenLines (source.toList.take (byteSize before + 1))).length := by
  obtain ⟨span, given, shown⟩ := placed
  rw [Option.mem_def, marks.span, Option.some_inj] at given
  rw [← given] at shown
  exact Diagnostic.namesLine_iff marks.span shown line

/-- What a report says about the place of a part of the source. -/
structure ReportLocates (diagnostic : Diagnostic) (filename source : String)
    (before marked : List Char) : Prop where
  /-- The number of the first byte is taken for that of a character. -/
  placed : diagnostic.IsPlaced source.toList → ∀ line, diagnostic.NamesLine filename source line ↔
    line = (brokenLines (source.toList.take (byteSize before + 1))).length
  unplaced : ¬diagnostic.IsPlaced source.toList →
    diagnostic.render filename source = diagnostic.headline ++ "\n"
  isPlaced : (∀ c ∈ before ++ marked, c.utf8Size = 1) → diagnostic.IsPlaced source.toList
  newlines : (∀ c ∈ before, c.utf8Size = 1) → Text.OnlyNewlines source.toList →
    diagnostic.IsPlaced source.toList →
      ∀ line, diagnostic.NamesLine filename source line ↔ line = before.count '\n' + 1

/-- The line of a part of the source is right if the characters before it are bytes and end
    lines only by newlines. -/
theorem reportLocates {before marked : List Char}
    (marks : diagnostic.Marks source.toList before marked) (filename : String) :
    diagnostic.ReportLocates filename source before marked := by
  refine ⟨marks.namesLine_iff filename, render_of_not_isPlaced, marks.isPlaced, ?_⟩
  intro narrow onlyNewlines placed line
  rw [marks.namesLine_iff filename placed]
  obtain ⟨c, others, rfl⟩ := List.exists_cons_of_ne_nil marks.nonempty
  obtain ⟨after, split⟩ := marks.part
  rw [List.append_assoc, List.cons_append] at split
  rw [← split] at onlyNewlines
  rw [Text.byteSize_eq_length narrow, ← split, List.take_length_add_append, List.take_one,
    List.head?_cons, Option.toList_some,
    Text.length_brokenLines_of_onlyNewlines onlyNewlines]

/-- A report on a part of the second line names this line. -/
theorem namesLine_secondLine :
    (error "bad name" (some ⟨4, 5⟩)).NamesLine "m.json" "a\r\nbc" 2 := by
  have marks : (error "bad name" (some ⟨4, 5⟩)).Marks "a\r\nbc".toList
      ['a', '\r', '\n', 'b'] ['c'] := ⟨by decide, by decide, by decide⟩
  have locates := reportLocates marks "m.json"
  have placed := locates.isPlaced (by simp [Char.utf8Size])
  exact (locates.newlines (by simp [Char.utf8Size]) (by decide) placed 2).mpr rfl

/-- A diagnostic on the last character of the first line, whose characters have two bytes. -/
def accented : Diagnostic := error "bad name" (some ⟨4, 6⟩)

/-- The report names the second line, and not the first. -/
theorem not_namesLine_accented : accented.Marks "ééé\nab".toList ['é', 'é'] ['é'] ∧
    accented.NamesPlace "m.json" "ééé\nab" 2 1 ∧
      ¬accented.NamesLine "m.json" "ééé\nab" (['é', 'é'].count '\n' + 1) := by
  have place : accented.NamesPlace "m.json" "ééé\nab" 2 1 := by decide +kernel
  refine ⟨⟨by decide, by decide, by decide⟩, place, ?_⟩
  intro first
  have same := first.unique ⟨1, place⟩
  revert same
  decide

end Diagnostic

end HlsEmit

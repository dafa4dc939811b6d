import HlsEmit.Diagnostic.Basic
import HlsEmit.Text.Blank
import HlsEmit.Text.Lines
import HlsEmit.Text.Width

/-! # Reports

The printed form of a diagnostic: its message, the line of the source it is
about with the span marked, and below it the help and the last note. Spans are
counted here in characters of the source, whatever they were counted in before.
-/

namespace HlsEmit

/-- A printed character. Those of the label stand out. -/
structure Cell where
  char : Char
  /-- Whether it belongs to the label. -/
  labelled : Bool := false
  deriving DecidableEq, Repr

/-- A span on the line where it starts. Columns count characters from zero. -/
structure Label where
  /-- The number of the line, counted from one. -/
  line : Nat
  /-- The line with the break that ends it. -/
  text : List Char
  /-- The first column of the span. -/
  start : Nat
  /-- The column after its last. -/
  stop : Nat
  deriving DecidableEq, Repr

namespace Label

/-- The label in lines of which the first has the given number. What starts after
    all lines is put on the last one. -/
def inLines (number : Nat) : List (List Char) → Span → Option Label
  | [], _ => none
  | line :: rest, span =>
      if span.start < line.length ∨ rest.isEmpty then
        some ⟨number, line, span.start, span.stop⟩
      else inLines (number + 1) rest ⟨span.start - line.length, span.stop - line.length⟩

/-- The label for a span, if it lies in the source. -/
def ofSpan? (source : List Char) (span : Span) : Option Label :=
  if source.length < span.start then none
  else if span.start < span.stop ∧ source.length < span.stop - 1 then none
  else inLines 1 (Text.brokenLines source) span

/-- Whether the column belongs to the span. -/
def contains (label : Label) (column : Nat) : Bool :=
  label.start ≤ column && column < label.stop

/-- The column from which the message hangs. -/
def middle (label : Label) : Nat := (label.start + label.stop) / 2

/-- The line as it is shown: without the blanks at its end, each character with
    its column. -/
def shown (label : Label) : List (Char × Nat) :=
  (Text.trimEnd label.text).zipIdx

/-- The number of terminal columns a character takes in the given column: tabs
    reach to the next multiple of four. -/
def cellWidth (c : Char) (column : Nat) : Nat :=
  if c = '\t' then 4 - column % 4
  else if Text.isBlank c then 1
  else Text.width c

/-- The source line. -/
def sourceCells (label : Label) : List Cell :=
  label.shown.flatMap fun (c, column) =>
    let labelled := label.contains column
    if Text.isBlank c then List.replicate (cellWidth c column) ⟨' ', labelled⟩
    else [⟨c, labelled⟩]

/-- A row of marks below the source line: a mark for each column up to two after
    the span, and the mark that fills the column if it is wide. -/
def markCells (label : Label) (mark filler : Nat → Char) : List Cell :=
  let widths := label.shown.map fun (c, column) => cellWidth c column
  (List.range (label.stop + 2)).flatMap fun column =>
    let marks := mark column :: List.replicate (widths.getD column 1 - 1) (filler column)
    marks.map fun c => ⟨c, c ≠ ' '⟩

/-- The row that underlines the span. -/
def underline (label : Label) : List Cell :=
  label.markCells
    (fun column =>
      if column = label.middle then (if label.contains column then '┬' else '│')
      else if label.contains column then '─' else ' ')
    (fun column => if label.contains column then '─' else ' ')

/-- The row that leads to the message. -/
def lead (label : Label) : List Cell :=
  label.markCells
    (fun column =>
      if column < label.middle then ' ' else if column = label.middle then '╰' else '─')
    (fun column => if column < label.middle then ' ' else '─')

end Label

/-- Cells of ordinary text. -/
def plainCells (text : String) : List Cell := text.toList.map fun c => ⟨c, false⟩

namespace Diagnostic

/-- The first line of the report. -/
def headline (diagnostic : Diagnostic) : String :=
  match diagnostic.severity with
  | .error => "Error: " ++ diagnostic.message
  | .warning => "Warning: " ++ diagnostic.message

/-- The lines of the report that show the source. -/
def sourceLines (diagnostic : Diagnostic) (label : Label) : List (List Cell) :=
  let blank := String.ofList (List.replicate ((toString label.line).length + 2) ' ')
  let margin := plainCells (blank ++ "│ ")
  if label.text.length < label.stop then [margin]
  else [
    plainCells s!" {label.line} │ " ++ label.sourceCells,
    margin ++ label.underline,
    margin ++ label.lead ++ plainCells (" " ++ diagnostic.message)]

/-- The lines of the report that give advice. -/
def adviceLines (diagnostic : Diagnostic) (margin : String) : List String :=
  (match diagnostic.help with
    | some help => [margin, margin ++ "Help: " ++ help]
    | none => []) ++
  match diagnostic.notes.getLast? with
  | some note => [margin, margin ++ "Note: " ++ note]
  | none => []

/-- The lines of the report. Without a place in the source there is only the
    first one. -/
def reportLines (diagnostic : Diagnostic) (filename : String) (source : List Char) :
    List (List Cell) :=
  plainCells diagnostic.headline ::
    match diagnostic.span.bind (Label.ofSpan? source) with
    | none => []
    | some label =>
        let width := (toString label.line).length + 2
        let blank := String.ofList (List.replicate width ' ')
        [plainCells (blank ++ s!"╭─[{filename}:{label.line}:{label.start + 1}]"),
          plainCells (blank ++ "│")] ++
        diagnostic.sourceLines label ++
        (diagnostic.adviceLines (blank ++ "│ ")).map plainCells ++
        [plainCells (String.ofList (List.replicate width '─') ++ "╯")]

/-- The escape sequence that colours the characters of a label. -/
def paint : Severity → String
  | .error => "\x1b[31m"
  | .warning => "\x1b[33m"

/-- The characters of a cell. -/
def cellText (severity : Severity) (coloured : Bool) (cell : Cell) : String :=
  if coloured && cell.labelled then paint severity ++ cell.char.toString ++ "\x1b[0m"
  else cell.char.toString

/-- The report as text. -/
def report (diagnostic : Diagnostic) (filename source : String) (coloured : Bool) : String :=
  String.join ((diagnostic.reportLines filename source.toList).map fun line =>
    String.join (line.map (cellText diagnostic.severity coloured)) ++ "\n")

/-- The report with its label in colour. -/
def render (diagnostic : Diagnostic) (filename source : String) : String :=
  diagnostic.report filename source true

end Diagnostic

end HlsEmit

/-! # Positions in a text

Offsets count bytes of the UTF-8 encoding. A position is a line, counted from
one, and the number of bytes between the start of that line and the offset.
-/

namespace HlsEmit.Text

/-- The number of bytes of the characters. -/
def byteSize : List Char → Nat
  | [] => 0
  | c :: rest => c.utf8Size + byteSize rest

@[simp] theorem byteSize_nil : byteSize [] = 0 := rfl

@[simp] theorem byteSize_cons (c : Char) (chars : List Char) :
    byteSize (c :: chars) = c.utf8Size + byteSize chars := rfl

@[simp] theorem byteSize_append (chars others : List Char) :
    byteSize (chars ++ others) = byteSize chars + byteSize others := by
  induction chars with
  | nil => simp
  | cons c rest ih => simp [ih, Nat.add_assoc]

/-- A place in a text. -/
structure Position where
  /-- The line, counted from one. -/
  line : Nat
  /-- The number of bytes since the line began. -/
  column : Nat
  deriving DecidableEq, Repr

namespace Position

/-- The start of a text. -/
def start : Position := ⟨1, 0⟩

/-- The position `count` bytes further on, where `chars` follow. An offset
    inside a character counts the bytes of it that lie before. -/
def advance (position : Position) : Nat → List Char → Position
  | 0, _ => position
  | _, [] => position
  | count + 1, c :: rest =>
      if c = '\n' then advance ⟨position.line + 1, 0⟩ count rest
      else
        advance ⟨position.line, position.column + min (count + 1) c.utf8Size⟩
          (count + 1 - c.utf8Size) rest

/-- The position of a byte offset. -/
def ofOffset (chars : List Char) (offset : Nat) : Position :=
  start.advance offset chars

end Position

/-- The lines of a text, each with the newline that ends it. -/
def linesOf : List Char → List (List Char)
  | [] => []
  | c :: rest =>
      if c = '\n' then [c] :: linesOf rest
      else
        match linesOf rest with
        | [] => [[c]]
        | line :: lines => (c :: line) :: lines

/-- The byte offset of a one-based column of a one-based line, moved back to the
    last byte of the text when it lies beyond. There is none for a line that the
    text does not have. -/
def offsetOf? (chars : List Char) (line column : Nat) : Option Nat :=
  let lines := linesOf chars
  if 0 < line && line ≤ lines.length then
    some (min (byteSize (lines.take (line - 1)).flatten + (column - 1)) (byteSize chars - 1))
  else none

end HlsEmit.Text

/-! # Lines

The lines of a text as a terminal shows them. Every kind of line break ends a
line, a carriage return and the newline after it being one break.
-/

namespace HlsEmit.Text

/-- Whether the character ends a line. -/
def isLineBreak (c : Char) : Bool :=
  ['\n', '\r', '\x0b', '\x0c', '\u0085', '\u2028', '\u2029'].contains c

/-- The lines of a text, each with the break that ends it. -/
def brokenLines : List Char → List (List Char)
  | [] => []
  | '\r' :: '\n' :: rest => ['\r', '\n'] :: brokenLines rest
  | c :: rest =>
      if isLineBreak c then [c] :: brokenLines rest
      else
        match brokenLines rest with
        | [] => [[c]]
        | line :: lines => (c :: line) :: lines

theorem flatten_brokenLines (chars : List Char) : (brokenLines chars).flatten = chars := by
  fun_induction brokenLines chars <;> simp_all

end HlsEmit.Text

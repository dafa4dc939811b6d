import HlsEmit.Text.Ranges

/-! # Blank characters

The Unicode property White_Space, and trimming by it.
-/

namespace HlsEmit.Text

/-- The characters with the property White_Space. -/
def blankRanges : Ranges :=
  [
    (0x0009, 0x000D), (0x0020, 0x0020), (0x0085, 0x0085), (0x00A0, 0x00A0), (0x1680, 0x1680),
    (0x2000, 0x200A), (0x2028, 0x2029), (0x202F, 0x202F), (0x205F, 0x205F), (0x3000, 0x3000)
  ]

/-- Whether the character is white space. -/
def isBlank (c : Char) : Bool := blankRanges.has c

/-- The characters without the white space at their end. -/
def trimEnd (chars : List Char) : List Char :=
  (chars.reverse.dropWhile isBlank).reverse

end HlsEmit.Text

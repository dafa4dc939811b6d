import HlsEmit.Text.Property.GraphemeExtend
import HlsEmit.Text.Property.Wide

/-! # Display width

The number of columns a character takes on a terminal.
-/

namespace HlsEmit.Text

/-- Two columns for wide characters, none for those that attach to the character
    before them, and one for all others. -/
def width (c : Char) : Nat :=
  if c.toNat < 128 then 1
  else if wideRanges.has c then 2
  else if graphemeExtendRanges.has c then 0
  else 1

end HlsEmit.Text

import HlsEmit.Text.Property.GraphemeExtend
import HlsEmit.Text.Property.Unprintable

/-! # Quoted texts

A text between quotation marks, with escapes for the marks, the backslash and
every character that could not be told from its surroundings in print.
-/

namespace HlsEmit.Text

/-- Whether the character has a printed form of its own. -/
def isPrintable (c : Char) : Bool :=
  if c.toNat < 127 then 32 ≤ c.toNat
  else !unprintableRanges.has c && !graphemeExtendRanges.has c

/-- The written form of one character. -/
def quoteChar (c : Char) : List Char :=
  match c with
  | '"' => ['\\', '"']
  | '\\' => ['\\', '\\']
  | '\t' => ['\\', 't']
  | '\n' => ['\\', 'n']
  | '\r' => ['\\', 'r']
  | '\x00' => ['\\', '0']
  | c =>
      if isPrintable c then [c]
      else '\\' :: 'u' :: '\x7b' :: Nat.toDigits 16 c.toNat ++ ['\x7d']

/-- The text in quotation marks. -/
def quoted (text : String) : String :=
  String.ofList ('"' :: text.toList.flatMap quoteChar ++ ['"'])

end HlsEmit.Text

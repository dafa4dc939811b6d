import HlsEmit.Text.Property.CaseIgnorable
import HlsEmit.Text.Property.Cased
import HlsEmit.Text.Property.LowerCase
import HlsEmit.Text.Property.UpperCase

/-! # Case mapping of texts

Lower and upper case of whole texts. A letter may become several, and a capital
sigma becomes a final one at the end of a word: after a cased letter and before
none, characters that do not end a word left aside.
-/

namespace HlsEmit.Text

/-- Whether the character is a letter with a case. -/
def isCased (c : Char) : Bool :=
  if c.toNat < 128 then c.isAlpha else casedRanges.has c

/-- Whether the character is passed over when the end of a word is looked for. -/
def isCaseIgnorable (c : Char) : Bool :=
  !c.isAlpha && caseIgnorableRanges.has c

/-- The lower case of a single character, its surroundings left aside. -/
def lowerChar (c : Char) : List Char :=
  if c.toNat < 128 then [c.toLower] else mapCase lowerRuns lowerSpecials c

/-- The upper case of a single character. -/
def upperChar (c : Char) : List Char :=
  if c.toNat < 128 then [c.toUpper] else mapCase upperRuns upperSpecials c

/-- Whether a cased letter comes first, case-ignorable characters left aside. -/
def startsCased (chars : List Char) : Bool :=
  (chars.dropWhile isCaseIgnorable).head?.any isCased

/-- The lower case of `rest`, which stands after the characters of `before`,
    given from the last to the first. -/
def lowerAfter (before : List Char) : List Char → List Char
  | [] => []
  | c :: rest =>
      let lowered :=
        if c = 'Σ' then
          if startsCased before && !startsCased rest then ['ς'] else ['σ']
        else lowerChar c
      lowered ++ lowerAfter (c :: before) rest

def lowerCase (text : String) : String :=
  String.ofList (lowerAfter [] text.toList)

def upperCase (text : String) : String :=
  String.ofList (text.toList.flatMap upperChar)

/-- The text with the letters `A` to `Z` in lower case and all else unchanged. -/
def foldAscii (text : String) : String :=
  String.ofList (text.toList.map Char.toLower)

end HlsEmit.Text

import HlsEmit.Diagnostic.Basic
import HlsEmit.Text.Blank
import HlsEmit.Text.Position

/-! # Places in a model description

A layer is found by its name in quotation marks where it stands as the value of
a key `name`. Escapes are not decoded, so the name is found only where it is
written without any.
-/

namespace HlsEmit

open Text (byteSize isBlank)

/-- The name as a string of the description. -/
def quotedName (name : String) : List Char :=
  '"' :: name.toList ++ ['"']

/-- Whether the text ends in the key `name` and a colon. The text is given from
    its end to its start. -/
def endsInNameKey (before : List Char) : Bool :=
  match before.dropWhile isBlank with
  | ':' :: key => "\"eman\"".toList.isPrefixOf (key.dropWhile isBlank)
  | _ => false

/-- The first offset at which the pattern stands after the key `name`. Of patterns
    that overlap only the first is considered: `pending` more characters belong to
    one that has been. The text before is given from its end to its start. -/
def nameOffset? (pattern before : List Char) (pending : Nat) :
    List Char → Option Nat
  | [] => none
  | c :: rest =>
      if pending = 0 ∧ pattern.isPrefixOf (c :: rest) then
        if endsInNameKey before then some (byteSize before)
        else nameOffset? pattern (c :: before) (pattern.length - 1) rest
      else nameOffset? pattern (c :: before) (pending - 1) rest

/-- The bytes of the first layer of that name, quotation marks included. -/
def layerSpan? (source : List Char) (name : String) : Option Span :=
  (nameOffset? (quotedName name) [] 0 source).map fun start =>
    ⟨start, start + byteSize (quotedName name)⟩

/-- The byte at a position. -/
def positionSpan? (source : List Char) (position : Text.Position) : Option Span :=
  (Text.offsetOf? source position.line position.column).map fun start => ⟨start, start + 1⟩

end HlsEmit

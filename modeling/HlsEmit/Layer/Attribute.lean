import HlsEmit.Decimal.Notation

/-! # Layer attributes

Scalar properties of a layer, and the text each of them contributes to generated
code.
-/

namespace HlsEmit

/-- A scalar attribute of a layer. -/
inductive Attribute where
  | bool (value : Bool)
  /-- A signed integer of 64 bits. -/
  | int (value : Int64)
  | float (value : Binary64)
  | text (value : String)
  deriving DecidableEq, Repr

namespace Attribute

/-- The text that stands for the attribute in generated code. -/
def render : Attribute → String
  | bool value => if value then "true" else "false"
  | int value => toString value.toInt
  | float value => value.positional
  | text value => value

/-- The integer, if the attribute is one. -/
def int? : Attribute → Option Int64
  | int value => some value
  | _ => none

def text? : Attribute → Option String
  | text value => some value
  | _ => none

end Attribute

end HlsEmit

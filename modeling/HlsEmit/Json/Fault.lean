import HlsEmit.Decimal.Notation
import HlsEmit.Text.Position
import HlsEmit.Text.Quoted

/-! # Faults in JSON texts

What can be wrong with a text: its syntax, or a value that does not fit its
place. A fault is located by the number of bytes that remain after it.
-/

namespace HlsEmit.Json

/-- A value that was found where another was wanted. -/
inductive Found where
  | null
  | bool (value : Bool)
  | integer (value : Int)
  | float (value : Binary64)
  | text (value : String)
  | sequence
  | map
  deriving DecidableEq, Repr

/-- The value in words. -/
def Found.description : Found → String
  | null => "null"
  | bool true => "boolean `true`"
  | bool false => "boolean `false`"
  | integer value => s!"integer `{value}`"
  | float value => s!"floating point `{value.scientific}`"
  | text value => "string " ++ Text.quoted value
  | sequence => "sequence"
  | map => "map"

/-- Why a value does not fit its place. -/
inductive Rejection where
  /-- The value has another type. -/
  | wrongType (found : Found) (wanted : String)
  /-- The value is out of range. -/
  | invalidValue (value : Int) (wanted : String)
  /-- A field is given twice. -/
  | duplicateField (key : String)
  /-- A field is not given. -/
  | missingField (key : String)
  /-- A list of fields ends too early. -/
  | invalidLength (length : Nat) (wanted : String) (fields : Nat)
  /-- A name is none of those expected. -/
  | unknownVariant (name : String) (expected : List String)
  /-- An attribute is neither a truth value nor a number nor a text. -/
  | noAttribute
  deriving DecidableEq, Repr

/-- The names in a list of alternatives. -/
def alternatives : List String → String
  | [first, second] => s!"`{first}` or `{second}`"
  | names => "one of " ++ ", ".intercalate (names.map fun name => s!"`{name}`")

/-- The rejection in words. -/
def Rejection.message : Rejection → String
  | wrongType found wanted => s!"invalid type: {found.description}, expected {wanted}"
  | invalidValue value wanted => s!"invalid value: integer `{value}`, expected {wanted}"
  | duplicateField key => s!"duplicate field `{key}`"
  | missingField key => s!"missing field `{key}`"
  | invalidLength length wanted fields =>
      s!"invalid length {length}, expected {wanted} with {fields} elements"
  | unknownVariant name expected =>
      s!"unknown variant `{name}`, expected {alternatives expected}"
  | noAttribute => "data did not match any variant of untagged enum AttrValue"

/-- What is wrong with a text. -/
inductive Cause where
  | endInList
  | endInObject
  | endInString
  | endInValue
  | expectedColon
  | expectedListEnd
  | expectedObjectEnd
  | expectedIdent
  | expectedValue
  | invalidEscape
  | invalidNumber
  | numberOutOfRange
  | controlCharacter
  | keyNotString
  | loneSurrogate
  | trailingComma
  | trailingCharacters
  | unexpectedHexEnd
  | recursionLimit
  | rejected (reason : Rejection)
  deriving DecidableEq, Repr

/-- The cause in words. -/
def Cause.message : Cause → String
  | endInList => "EOF while parsing a list"
  | endInObject => "EOF while parsing an object"
  | endInString => "EOF while parsing a string"
  | endInValue => "EOF while parsing a value"
  | expectedColon => "expected `:`"
  | expectedListEnd => "expected `,` or `]`"
  | expectedObjectEnd => "expected `,` or `\x7d`"
  | expectedIdent => "expected ident"
  | expectedValue => "expected value"
  | invalidEscape => "invalid escape"
  | invalidNumber => "invalid number"
  | numberOutOfRange => "number out of range"
  | controlCharacter => "control character (\\u0000-\\u001F) found while parsing a string"
  | keyNotString => "key must be a string"
  | loneSurrogate => "lone leading surrogate in hex escape"
  | trailingComma => "trailing comma"
  | trailingCharacters => "trailing characters"
  | unexpectedHexEnd => "unexpected end of hex escape"
  | recursionLimit => "recursion limit exceeded"
  | rejected reason => reason.message

/-- What is wrong with a text, and where. -/
structure Fault where
  cause : Cause
  /-- The number of bytes after the place. -/
  remaining : Nat
  deriving DecidableEq, Repr

def Fault.position (fault : Fault) (source : List Char) : Text.Position :=
  Text.Position.ofOffset source (Text.byteSize source - fault.remaining)

end HlsEmit.Json

import HlsEmit.Json.Number
import HlsEmit.Json.Text

/-! # Values that are passed over

The value of an unknown field is checked and forgotten. Its lists and objects may
be nested without limit, so the open brackets are kept on a stack.
-/

namespace HlsEmit.Json.Reader

/-- The fault for neither a comma nor a closing bracket. -/
def Bracket.expectedEnd : Bracket → Cause
  | .list => .expectedListEnd
  | .object => .expectedObjectEnd

/-- The fault for a text that ends between brackets. -/
def Bracket.unclosed : Bracket → Cause
  | .list => .endInList
  | .object => .endInObject

/-- The closing bracket. -/
def Bracket.closer : Bracket → Char
  | .list => ']'
  | .object => '\x7d'

/-- Pass over the start of a value: all of a scalar, or an opening bracket, which
    is returned. -/
def skipStart : Reader (Option Bracket) := do
  match ← token? with
  | none => failNext .endInValue
  | some 'n' => do bump; ident ['u', 'l', 'l']; pure none
  | some 't' => do bump; ident ['r', 'u', 'e']; pure none
  | some 'f' => do bump; ident ['a', 'l', 's', 'e']; pure none
  | some '"' => do skipText; pure none
  | some '[' => do bump; pure (some .list)
  | some '\x7b' => do bump; pure (some .object)
  | some c =>
      if c = '-' || c.isDigit then do skipNumber; pure none
      else failNext .expectedValue

/-- Pass over closing brackets and at most one comma, up to the next value. The
    brackets still open are returned, and none when the outermost is closed. A
    comma may come only where a value came before. -/
def skipClosers (afterValue : Bool) : List Bracket → Reader (List Bracket)
  | [] => pure []
  | bracket :: outer => do
      match ← token? with
      | none => failNext bracket.unclosed
      | some c =>
          if afterValue && c = ',' then do bump; pure (bracket :: outer)
          else if c = bracket.closer then do bump; skipClosers true outer
          else if afterValue then failNext bracket.expectedEnd
          else pure (bracket :: outer)

/-- Pass over the key and the colon that come before a value of an object. -/
def skipKey : List Bracket → Reader Unit
  | .object :: _ => do
      match ← token? with
      | none => failNext .endInObject
      | some '"' => do skipText; colon
      | some _ => failNext .keyNotString
  | _ => pure ()

/-- Pass over one value. -/
def skipValue : Reader Unit := do
  let _ ← iterate (fun stack : List Bracket => do
    let stack ← match ← skipStart with
      | some bracket => skipClosers false (bracket :: stack)
      | none => skipClosers true stack
    if stack.isEmpty then return .done []
    skipKey stack
    return .more stack) []

end HlsEmit.Json.Reader

import HlsEmit.Json.Skip
import HlsEmit.Layer.Basic

/-! # Typed JSON values

Readers for the types of values a model description is made of. A value of
another type is read, as far as it is a scalar, before it is refused, so a fault
inside it comes first.
-/

namespace HlsEmit.Json.Reader

variable {α : Type}

/-- The value that is next, where a value of another type is wanted. Lists and
    objects stay in place. -/
def wrongValue : Reader Found := do
  match ← token? with
  | some 'n' => do bump; ident ['u', 'l', 'l']; pure .null
  | some 't' => do bump; ident ['r', 'u', 'e']; pure (.bool true)
  | some 'f' => do bump; ident ['a', 'l', 's', 'e']; pure (.bool false)
  | some '"' => do return .text (← text)
  | some '[' => pure .sequence
  | some '\x7b' => pure .map
  | some c =>
      if c = '-' || c.isDigit then do return (← number).found
      else failNext .expectedValue
  | none => failNext .endInValue

/-- Refuse the value that is next. -/
def wrongType (wanted : String) : Reader α := do
  let found ← wrongValue
  failHere (.rejected (.wrongType found wanted))

def string : Reader String := do
  match ← token? with
  | some '"' => text
  | _ => wrongType "a string"

/-- An unsigned integer of 32 bits. -/
def unsigned32 : Reader UInt32 := do
  match ← token? with
  | some c =>
      if c = '-' || c.isDigit then do
        match ← number with
        | .natural value =>
            if value < Nat.pow 2 32 then pure (UInt32.ofNat value)
            else failHere (.rejected (.invalidValue value "u32"))
        | .negative magnitude => failHere (.rejected (.invalidValue (-magnitude) "u32"))
        | .float value => failHere (.rejected (.wrongType (.float value) "u32"))
      else wrongType "u32"
  | none => failNext .endInValue

/-- The null value, where nothing else makes sense. -/
def unit : Reader Unit := do
  match ← token? with
  | some 'n' => do bump; ident ['u', 'l', 'l']
  | _ => wrongType "unit"

/-- A value or null. -/
def optional (item : Reader α) : Reader (Option α) := do
  match ← token? with
  | some 'n' => do bump; ident ['u', 'l', 'l']; pure none
  | _ => some <$> item

/-- The values of a list, its opening bracket being passed. -/
def elements (item : Reader α) : Reader (List α) := do
  let (_, values) ← iterate (fun (first, values) => do
    if ← nextElement first then return .more (false, (← item) :: values)
    else return .done (first, values)) (true, ([] : List α))
  return values.reverse

def sequence (item : Reader α) : Reader (List α) := do
  match ← token? with
  | some '[' => within .list (.ok <$> elements item)
  | _ => wrongType "a sequence"

/-- The entries of an object, its opening bracket being passed. The last value of
    a key counts; a value that is rejected ends the reading. -/
def entries (item : Reader (Except Rejection α)) : Reader (Except Rejection (Table α)) := do
  let (_, table) ← iterate (fun (first, table) => do
    match table with
    | .error reason => return .done (first, .error reason)
    | .ok table =>
        if ← nextKey first then
          let key ← text
          colon
          return .more (false, (← item).map fun value => table.insert key value)
        else return .done (first, .ok table))
    (true, (.ok ∅ : Except Rejection (Table α)))
  return table

/-- An object whose keys are names. -/
def map (item : Reader (Except Rejection α)) : Reader (Table α) := do
  match ← token? with
  | some '\x7b' => within .object (entries item)
  | _ => wrongType "a map"

/-- What a name stands for. -/
def variant (names : List String) (ofName? : String → Option α) (name : String) : Reader α :=
  match ofName? name with
  | some value => pure value
  | none => failHere (.rejected (.unknownVariant name names))

/-- One of several names, alone or as the only key of an object with the value
    null. -/
def choice (names : List String) (ofName? : String → Option α) : Reader α := do
  match ← token? with
  | none => failNext .endInValue
  | some '"' => do variant names ofName? (← text)
  | some '\x7b' => do
      bump
      match ← token? with
      | none => failNext .endInObject
      | some '"' => do
          let value ← variant names ofName? (← text)
          colon
          unit
          match ← token? with
          | none => failHere .endInObject
          | some '\x7d' => do bump; pure value
          | some _ => failHere .expectedValue
      | some '\x7d' => failNext .expectedValue
      | some _ => failNext .keyNotString
  | some _ => failNext .expectedValue

/-- What an attribute may be, and everything else. -/
inductive Scalar where
  | bool (value : Bool)
  | number (value : Number)
  | text (value : String)
  /-- Null, a list or an object. -/
  | other

/-- Any value. Where a list or an object opens, `nested` reads it. -/
def scalarOr (nested : Bracket → Reader Unit) : Reader Scalar := do
  match ← token? with
  | none => failNext .endInValue
  | some 'n' => do bump; ident ['u', 'l', 'l']; pure .other
  | some 't' => do bump; ident ['r', 'u', 'e']; pure (.bool true)
  | some 'f' => do bump; ident ['a', 'l', 's', 'e']; pure (.bool false)
  | some '"' => do return .text (← Reader.text)
  | some '[' => do nested .list; pure .other
  | some '\x7b' => do nested .object; pure .other
  | some c =>
      if c = '-' || c.isDigit then do return .number (← Reader.number)
      else failNext .expectedValue

/-- Any value, in which at most `levels` lists and objects may be open at a time. -/
def value : Nat → Reader Scalar
  | 0 => scalarOr fun _ => failNext .recursionLimit
  | levels + 1 =>
      let inner := value levels
      scalarOr fun
        | .list => within .list do
            let _ ← elements inner
            return .ok ()
        | .object => within .object do
            return (← entries (.ok <$> inner)).map fun _ => ()

/-- The levels left for lists and objects inside an attribute. -/
def attributeLevels : Nat := 123

/-- An attribute. Integers beyond 64 bits become the nearest floating-point
    number. -/
def attributeValue : Reader (Except Rejection Attribute) := do
  match ← value attributeLevels with
  | .bool value => return .ok (.bool value)
  | .number (.natural value) =>
      return .ok (if value < Nat.pow 2 63 then .int (Int64.ofNat value) else .float (.ofNat value))
  | .number (.negative magnitude) => return .ok (.int (Int64.ofInt (-magnitude)))
  | .number (.float value) => return .ok (.float value)
  | .text value => return .ok (.text value)
  | .other => return .error .noAttribute

end HlsEmit.Json.Reader

import HlsEmit.Json.Value

/-! # Records

A record is written as an object, with its fields by name and in any order, or as
a list, with its fields in the order of the schema. Unknown fields of an object
are passed over; optional fields may be left out of an object and off the end of
a list.
-/

namespace HlsEmit.Json

variable {α : Type}

structure RecordField (α : Type) where
  key : String
  /-- Whether a record needs it. -/
  required : Bool := false
  /-- Read its value into a record. -/
  read : α → Reader α

/-- How a type of records is written. -/
structure Schema (α : Type) where
  /-- What messages call the type. -/
  title : String
  /-- The record in which no field has been read. -/
  blank : α
  fields : List (RecordField α)

/-- An object that has been read up to some key. -/
structure PartialRecord (α : Type) where
  /-- The keys so far, the last one first. -/
  keys : List String
  /-- The values so far, or why they are refused. -/
  result : Except Rejection α

namespace Schema

/-- The field of that name. -/
def field? (schema : Schema α) (key : String) : Option (RecordField α) :=
  schema.fields.find? (·.key = key)

/-- The first required field that is not among the keys. -/
def missing? (schema : Schema α) (keys : List String) : Option (RecordField α) :=
  schema.fields.find? fun field => field.required && !keys.contains field.key

/-- Read what comes after a key. -/
def readEntry (schema : Schema α) (keys : List String) (record : α) (key : String) :
    Reader (PartialRecord α) := do
  match schema.field? key with
  | none =>
      Reader.colon
      Reader.skipValue
      return ⟨key :: keys, .ok record⟩
  | some field =>
      if keys.contains key then return ⟨key :: keys, .error (.duplicateField key)⟩
      else do
        Reader.colon
        return ⟨key :: keys, .ok (← field.read record)⟩

/-- One more entry of an object. -/
def objectRound (schema : Schema α) (state : PartialRecord α) :
    Reader (Reader.Round (PartialRecord α)) := do
  match state.result with
  | .error _ => return .done state
  | .ok record =>
      if ← Reader.nextKey state.keys.isEmpty then
        return .more (← schema.readEntry state.keys record (← Reader.text))
      else return .done state

/-- The entries of an object. -/
def readObject (schema : Schema α) : Reader (Except Rejection α) := do
  let state ← Reader.iterate schema.objectRound ⟨[], .ok schema.blank⟩
  return do
    let record ← state.result
    match schema.missing? state.keys with
    | some field => .error (.missingField field.key)
    | none => .ok record

/-- The elements of a list, for the fields that are left. -/
def readElements (schema : Schema α) (index : Nat) (first : Bool) :
    List (RecordField α) → α → Reader (Except Rejection α)
  | [], record => return .ok record
  | field :: rest, record => do
      if ← Reader.nextElement first then
        schema.readElements (index + 1) false rest (← field.read record)
      else if field.required then
        return .error (.invalidLength index schema.title schema.fields.length)
      else schema.readElements (index + 1) first rest record

def readList (schema : Schema α) : Reader (Except Rejection α) :=
  schema.readElements 0 true schema.fields schema.blank

end Schema

def Reader.record (schema : Schema α) : Reader α := do
  match ← token? with
  | some '\x7b' => within .object schema.readObject
  | some '[' => within .list schema.readList
  | _ => wrongType schema.title

end HlsEmit.Json

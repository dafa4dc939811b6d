import HlsEmit.Json.Record
import HlsEmit.Model.Basic

/-! # Model descriptions

The written form of a model: a JSON document whose records are the model, its
layers, their variables and their precisions. The style of data passing is a
property of the whole model; a layer has no field for it.
-/

namespace HlsEmit.Model

open Json

def textField {α : Type} (key : String) (required : Bool) (set : α → String → α) :
    RecordField α where
  key := key
  required := required
  read := fun record => return set record (← Reader.string)

/-- A field with a text, or null for none. -/
def optionalTextField {α : Type} (key : String) (set : α → Option String → α) :
    RecordField α where
  key := key
  read := fun record => return set record (← Reader.optional Reader.string)

/-- A precision: its name and its definition. -/
def precisionSchema : Schema Precision where
  title := "struct PrecisionType"
  blank := { name := "" }
  fields := [
    textField "name" true fun record name => { record with name },
    textField "precision" false fun record precision => { record with precision }]

/-- A variable: its name, the type of its elements and its pipe. -/
def variableSchema : Schema Variable where
  title := "struct Variable"
  blank := { name := "", elementType := "" }
  fields := [
    textField "name" true fun record name => { record with name },
    textField "type" true fun record elementType => { record with elementType },
    optionalTextField "pipe" fun record pipe => { record with pipe }]

def readKind : Reader LayerKind :=
  Reader.choice (LayerKind.all.map LayerKind.name) LayerKind.ofName?

/-- The style of data passing. -/
def readIoStyle : Reader IoStyle :=
  Reader.choice (IoStyle.all.map IoStyle.name) IoStyle.ofName?

/-- The variable at one end of a layer, or null for none. -/
def readVariable : Reader (Option Variable) :=
  Reader.optional (Reader.record variableSchema)

/-- An object that has a record under every name. -/
def readRecords {α : Type} (schema : Schema α) : Reader (Table α) :=
  Reader.map (.ok <$> Reader.record schema)

/-- A layer, but for the style of data passing. -/
def layerSchema : Schema Layer where
  title := "struct Node"
  blank := { name := "", kind := .input, index := 0 }
  fields := [
    textField "name" true fun record name => { record with name },
    { key := "kind", required := true,
      read := fun record => return { record with kind := ← readKind } },
    { key := "index", required := true,
      read := fun record => return { record with index := ← Reader.unsigned32 } },
    { key := "input", read := fun record => return { record with input := ← readVariable } },
    { key := "output", read := fun record => return { record with output := ← readVariable } },
    { key := "attributes",
      read := fun record =>
        return { record with attributes := ← Reader.map Reader.attributeValue } },
    { key := "types",
      read := fun record => return { record with types := ← readRecords precisionSchema } },
    { key := "weights",
      read := fun record => return { record with weights := ← readRecords variableSchema } }]

/-- A model. Its layers still have the default style of data passing. -/
def modelSchema : Schema Model where
  title := "struct Model"
  blank := { name := "", layers := [] }
  fields := [
    textField "name" true fun record name => { record with name },
    optionalTextField "backend" fun record backend => { record with backend },
    { key := "io_type", read := fun record => return { record with ioStyle := ← readIoStyle } },
    { key := "layers", required := true,
      read := fun record =>
        return { record with layers := ← Reader.sequence (Reader.record layerSchema) } }]

/-- A whole document. -/
def readDocument : Reader Model := do
  let model ← Reader.record modelSchema
  match ← Reader.token? with
  | none => pure model
  | some _ => Reader.failNext .trailingCharacters

/-- The model that a text describes, as it is written. -/
def ofDocument (source : List Char) : Except Fault Model :=
  (readDocument.run source).map Prod.fst

end HlsEmit.Model

import HlsEmit.Files.Basic
import HlsEmit.Model.Document

/-! # Loading models

A text is a model if it is a description of one and no two of its layers share an
index. The style of data passing of the model then holds for every layer.
-/

namespace HlsEmit

/-- Why a model cannot be loaded. -/
inductive LoadError where
  /-- The file cannot be read. -/
  | unreadable (path : String) (reason : FileError)
  /-- The text describes no model. -/
  | malformed (cause : Json.Cause) (position : Text.Position)
  /-- Two layers share an index. -/
  | duplicateIndex (index : UInt32) (first second : String)
  deriving DecidableEq, Repr

/-- The error in words. -/
def LoadError.message : LoadError → String
  | unreadable path reason => s!"cannot read model '{path}': {reason.message}"
  | malformed cause position =>
      s!"invalid model description: {cause.message} at line {position.line} column " ++
        toString position.column
  | duplicateIndex index first second =>
      s!"layers '{first}' and '{second}' share index {index.toNat}"

namespace Model

/-- The first of the layers whose index is that of a layer before it, and that
    layer. The layers of `earlier` come before all others. -/
def indexClash? (earlier : List Layer) : List Layer → Option (Layer × Layer)
  | [] => none
  | layer :: rest =>
      match earlier.find? (·.index = layer.index) with
      | some first => some (first, layer)
      | none => indexClash? (layer :: earlier) rest

/-- The model whose layers all pass data on in its style. -/
def stampIoStyle (model : Model) : Model :=
  { model with layers := model.layers.map fun layer => { layer with ioStyle := model.ioStyle } }

/-- The model, unless two of its layers share an index. -/
def checked (model : Model) : Except LoadError Model :=
  match indexClash? [] model.layers with
  | some (first, second) => .error (.duplicateIndex second.index first.name second.name)
  | none => .ok model.stampIoStyle

/-- The model that a text describes. -/
def ofText (source : String) : Except LoadError Model :=
  match ofDocument source.toList with
  | .error fault => .error (.malformed fault.cause (fault.position source.toList))
  | .ok model => model.checked

/-- The model that the file at a path describes. -/
def load {m : Type → Type} [Monad m] (files : FileAccess m) (path : String) :
    m (Except LoadError Model) := do
  match ← files.read path with
  | .error reason => return .error (.unreadable path reason)
  | .ok source => return ofText source

end Model

end HlsEmit

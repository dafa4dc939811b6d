import HlsEmit.Layer.Basic

/-! # Models

A model is a finished list of layers with settings for the whole project.
-/

namespace HlsEmit

/-- A model to be emitted. -/
structure Model where
  name : String
  /-- The backend the model asks for. -/
  backend : Option String := none
  /-- How its layers pass data on. -/
  ioStyle : IoStyle := .parallel
  /-- Its layers in order. -/
  layers : List Layer
  deriving DecidableEq

/-- The first layer of that name. -/
def Model.layer? (model : Model) (name : String) : Option Layer :=
  model.layers.find? (·.name = name)

/-- The layers that produce code. -/
def Model.emittingLayers (model : Model) : List Layer :=
  model.layers.filter (·.kind.emitsCode)

end HlsEmit

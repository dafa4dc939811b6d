/-! # Layer kinds

The closed set of layers a model may be built from. Kinds are ordered as in
`LayerKind.all`, and every listing of kinds follows that order.
-/

namespace HlsEmit

/-- What a layer computes. -/
inductive LayerKind where
  /-- Data that enters the model. It computes nothing. -/
  | input
  | dense
  | activation
  | softmax
  /-- Pooling with a window along one axis. -/
  | pooling1D
  /-- Pooling with a window along two axes. -/
  | pooling2D
  /-- Pooling of a whole one-dimensional extent. -/
  | globalPooling1D
  /-- Pooling of a whole two-dimensional extent. -/
  | globalPooling2D
  deriving DecidableEq, Repr

namespace LayerKind

/-- Every kind, in kind order. -/
def all : List LayerKind :=
  [input, dense, activation, softmax, pooling1D, pooling2D, globalPooling1D, globalPooling2D]

theorem mem_all (kind : LayerKind) : kind ∈ all := by
  cases kind <;> decide

/-- The name of the kind in model descriptions and messages. -/
def name : LayerKind → String
  | input => "Input"
  | dense => "Dense"
  | activation => "Activation"
  | softmax => "Softmax"
  | pooling1D => "Pooling1D"
  | pooling2D => "Pooling2D"
  | globalPooling1D => "GlobalPooling1D"
  | globalPooling2D => "GlobalPooling2D"

/-- The kind of that name, spelled exactly so. -/
def ofName? (text : String) : Option LayerKind :=
  all.find? (·.name = text)

theorem ofName?_name (kind : LayerKind) : ofName? kind.name = some kind := by
  cases kind <;> decide

/-- What is said of a text that names no kind. -/
def unknownMessage (text : String) : String :=
  s!"unknown layer kind '{text}'"

/-- Inputs produce no code of their own; every other kind does. -/
def emitsCode (kind : LayerKind) : Bool := kind ≠ input

end LayerKind

end HlsEmit

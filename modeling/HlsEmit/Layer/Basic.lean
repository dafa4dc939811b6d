import HlsEmit.Layer.Attribute
import HlsEmit.Layer.Kind
import HlsEmit.Table

/-! # Layers

A layer arrives fully annotated: its shape is in its attributes, its numeric
precisions in its types, and the tensors it reads and writes are named. Nothing
here changes a layer; templates only read it.
-/

namespace HlsEmit

/-- A numeric precision, of which only the texts matter. -/
structure Precision where
  /-- The name of the type in generated code. -/
  name : String
  /-- The definition of the type in the target language. -/
  precision : String := ""
  deriving DecidableEq, Repr

/-- A tensor between layers, or an array of weights. -/
structure Variable where
  /-- The name of the array in generated code. -/
  name : String
  /-- The name of the type of its elements. -/
  elementType : String
  /-- The pipe that carries it between dataflow stages, where one is set. -/
  pipe : Option String := none
  deriving DecidableEq, Repr

/-- The pipe that carries the variable; one is named after it if none is set. -/
def Variable.pipeName (v : Variable) : String :=
  v.pipe.getD (v.name ++ "_pipe")

/-- How the layers of a generated project pass data on. -/
inductive IoStyle where
  /-- Whole arrays, from call to call. -/
  | parallel
  /-- Streams, from stage to stage. -/
  | stream
  deriving DecidableEq, Repr

namespace IoStyle

/-- Every style, in the order in which messages list them. -/
def all : List IoStyle := [parallel, stream]

/-- The name of the style in model descriptions and generated code. -/
def name : IoStyle → String
  | parallel => "io_parallel"
  | stream => "io_stream"

def ofName? (text : String) : Option IoStyle := all.find? (·.name = text)

end IoStyle

/-- One layer of a model. -/
structure Layer where
  name : String
  kind : LayerKind
  /-- Its number in the generated project. -/
  index : UInt32
  /-- How it passes data on, as the model says. -/
  ioStyle : IoStyle := .parallel
  input : Option Variable := none
  output : Option Variable := none
  attributes : Table Attribute := ∅
  /-- The precisions it computes with. -/
  types : Table Precision := ∅
  weights : Table Variable := ∅
  deriving DecidableEq

namespace Layer

def attribute? (layer : Layer) (name : String) : Option Attribute :=
  layer.attributes.find? name

def text? (layer : Layer) (name : String) : Option String :=
  (layer.attribute? name).bind Attribute.text?

/-- The number of the layer in decimal digits. -/
def indexText (layer : Layer) : String := toString layer.index.toNat

/-- The name of the configuration that belongs to the layer. -/
def configName (layer : Layer) : String := "config" ++ layer.indexText

end Layer

end HlsEmit

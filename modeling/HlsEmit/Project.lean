import HlsEmit.Backend.Basic
import HlsEmit.Model.Basic

/-! # Emitted projects

A project is what a backend makes of a model: the code of every layer in order.
Layers are independent, so a policy decides what a layer that fails does to the
others.
-/

namespace HlsEmit

/-- What to do about a layer that fails. -/
inductive FailurePolicy where
  /-- Give up at the first layer that fails. -/
  | abort
  /-- Keep the other layers and list the failures. -/
  | keepGoing
  deriving DecidableEq, Repr

instance : Inhabited FailurePolicy := ⟨.abort⟩

/-- The code of one layer. -/
structure LayerSource where
  layer : String
  /-- Its number in the project. -/
  index : UInt32
  config : String := ""
  /-- Its call, or the registration of its stage. -/
  invocation : String := ""
  /-- The start of its stage, where there are stages. -/
  streamCall : Option String := none
  /-- The headers its invocation needs. -/
  includes : List String := []
  deriving DecidableEq, Repr

/-- Put the text of a role in its place. -/
def LayerSource.set (source : LayerSource) (role : Role) (text : String) : LayerSource :=
  match role with
  | .config => { source with config := text }
  | .call | .taskSequence => { source with invocation := text }
  | .streamCall => { source with streamCall := some text }

structure Project where
  /-- The backend that emitted it. -/
  backend : String
  /-- The code of the layers, in order. -/
  layers : List LayerSource := []
  /-- The layers that failed and why, in order. -/
  failures : List (String × CodegenError) := []
  deriving DecidableEq, Repr

namespace Project

/-- The headers of all layers, each once, in order of first appearance. -/
def includes (project : Project) : List String :=
  (project.layers.flatMap LayerSource.includes).eraseDups

/-- The source text: headers, configurations, invocations and starts. -/
def toSource (project : Project) : String :=
  String.join (project.includes.map fun header => s!"#include \"{header}\"\n") ++
  (if project.layers.isEmpty then "" else "\n") ++
  String.join (project.layers.map fun layer => layer.config ++ "\n") ++
  String.join (project.layers.map fun layer => layer.invocation ++ "\n") ++
  String.join ((project.layers.filterMap LayerSource.streamCall).map (· ++ "\n"))

end Project

namespace Backend

/-- The code of a layer in every role that the backend uses for it. -/
def emitLayer (backend : Backend) (layer : Layer) : Except CodegenError LayerSource :=
  (backend.roles layer.ioStyle).foldlM
    (fun source role => (backend.format role layer).map (source.set role))
    { layer := layer.name, index := layer.index, includes := backend.includeHeaders layer.kind }

/-- What is logged while the roles of a layer are formatted, up to the first that
    fails. -/
def emitEvents (backend : Backend) (layer : Layer) : List Role → List Log.Event
  | [] => []
  | role :: rest =>
      backend.formatEvents role layer ++
        match backend.format role layer with
        | .ok _ => backend.emitEvents layer rest
        | .error _ => []

/-- The code of the layers and the failures among them. -/
def emitLayers (backend : Backend) (policy : FailurePolicy) :
    List Layer → Except CodegenError (List LayerSource × List (String × CodegenError))
  | [] => .ok ([], [])
  | layer :: rest =>
      match backend.emitLayer layer with
      | .ok source =>
          (backend.emitLayers policy rest).map fun (sources, failures) =>
            (source :: sources, failures)
      | .error reason =>
          match policy with
          | .abort => .error reason
          | .keepGoing =>
              (backend.emitLayers policy rest).map fun (sources, failures) =>
                (sources, (layer.name, reason) :: failures)

def emitModel (backend : Backend) (model : Model) (policy : FailurePolicy) :
    Except CodegenError Project :=
  (backend.emitLayers policy model.emittingLayers).map fun (sources, failures) =>
    { backend := backend.name, layers := sources, failures := failures }

/-- What is logged while a project is emitted that keeps going. -/
def projectEvents (backend : Backend) (model : Model) (project : Project) : List Log.Event :=
  model.emittingLayers.flatMap (fun layer =>
    backend.emitEvents layer (backend.roles layer.ioStyle)) ++
  project.failures.map (fun failure => .skippingLayer failure.1 failure.2.message) ++
  [.emitted backend.name project.layers.length project.failures.length]

end Backend

end HlsEmit

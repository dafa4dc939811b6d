import HlsEmit.Backend.Registry
import HlsEmit.Family.Activation
import HlsEmit.Family.Dense
import HlsEmit.Family.Pooling

/-! # Built-in backends

Every built-in backend has all families of its dialect, under its own name.
-/

namespace HlsEmit

/-- Every template specification of a dialect, family by family. -/
def Dialect.specs (backend : String) (dialect : Dialect) : List TemplateSpec :=
  Pooling.specs backend dialect ++ Dense.specs backend dialect ++
  Activation.specs backend dialect

/-- The backend with every family of the dialect. -/
def Backend.withFamilies (name : String) (dialect : Dialect) : Except CodegenError Backend := do
  let templates ← (dialect.specs name).mapM TemplateSpec.build
  Backend.build name dialect (templates.map LayerTemplate.toTemplate)

/-- The backends that are always there. -/
inductive Builtin where
  /-- The synthesis tool whose dialect is the default. -/
  | vivado
  /-- The same, wrapped for accelerator boards. -/
  | vivadoAccelerator
  /-- Its successor. -/
  | vitis
  /-- A compiler for channels last. -/
  | quartus
  /-- A compiler that uses the bodies of the default dialect. -/
  | catapult
  /-- A compiler with dataflow stages. -/
  | oneApi
  deriving DecidableEq, Repr

namespace Builtin

/-- Every built-in backend, in order of registration. -/
def all : List Builtin := [vivado, vivadoAccelerator, vitis, quartus, catapult, oneApi]

/-- The name of the backend. -/
def name : Builtin → String
  | vivado => "Vivado"
  | vivadoAccelerator => "VivadoAccelerator"
  | vitis => "Vitis"
  | quartus => "Quartus"
  | catapult => "Catapult"
  | oneApi => "oneAPI"

/-- The dialect of the backend. -/
def dialect : Builtin → Dialect
  | vivado | vivadoAccelerator | vitis | catapult => .vivado
  | quartus => .quartus
  | oneApi => .oneApi

/-- The backend itself. -/
def backend (builtin : Builtin) : Except CodegenError Backend :=
  Backend.withFamilies builtin.name builtin.dialect

instance : BackendFactory Builtin where
  build := backend

end Builtin

/-- A registry that holds every built-in backend, whose factories are found among
    those of `φ`. -/
def Registry.withBuiltin {φ : Type} [DecidableEq φ] [BackendFactory φ]
    (ofBuiltin : Builtin → φ) : Except CodegenError (Registry φ) :=
  Builtin.all.foldlM (fun registry builtin =>
    let (answer, next) := registry.register builtin.name (ofBuiltin builtin)
    answer.map fun _ => next) ∅

end HlsEmit

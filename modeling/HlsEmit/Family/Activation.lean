import HlsEmit.Family.Attributes
import HlsEmit.Family.Shape
import HlsEmit.Template.Basic

/-! # The activation family

Element-wise activations that look their values up in tables, and softmax.
-/

namespace HlsEmit.Activation

/-- What activations are expected to carry. -/
def family : LayerFamily where
  name := "activation"
  kinds := [.activation, .softmax]
  attributes
    | .softmax => ["n_in", "activation", "table_size", "implementation"]
    | _ => ["n_in", "activation", "table_size"]
  types
    | .softmax => ["exp_table_t", "inv_table_t", "accum_t"]
    | _ => ["table_t"]

def callHeaders : List String := ["nnet_utils/nnet_activation.h"]

def stageHeaders : List String :=
  ["nnet_utils/nnet_activation.h", "nnet_utils/nnet_activation_stream.h"]

/-- The name of the activation and, for softmax, its implementation, each with a
    default. -/
def activationName : Derivation :=
  .writing ["activation", "implementation"] fun _ layer =>
    .ok (
      if layer.kind = .softmax then
        [("activation", layer.lowered "activation" "softmax"),
          ("implementation", layer.lowered "implementation" "stable")]
      else [("activation", layer.lowered "activation" "linear")])

open ConfigLine

/-- The lines that every struct of the family starts with. -/
def commonLines : List ConfigLine :=
  sizes ["n_in", "table_size"] ++
  [constant "unsigned" "io_type" "nnet::" "iotype", unsigned "reuse_factor" "reuse"]

/-- What the constants of a dialect start with. -/
def storage : Dialect → String
  | .vivado => "static const"
  | .quartus | .oneApi => "static constexpr"

def config (dialect : Dialect) : LayerKind → ConfigStruct
  | .softmax =>
      { base := "activ_config", storage := storage dialect
        lines :=
          commonLines ++
          [constant "nnet::softmax_implementation" "implementation"
              "nnet::softmax_implementation::" "implementation",
            .typeName "exp_table_t", .typeName "inv_table_t", .typeName "accum_t"] }
  | _ =>
      { base := "activ_config", storage := storage dialect
        lines := commonLines ++ [.typeName "table_t"] }

/-- The kernel, which is named after the activation. -/
def operation : List Segment := [.placeholder "activation"]

/-- A specification with one body for the family. -/
def spec (backend : String) (role : Role) (body : String) : TemplateSpec where
  backend := backend
  family := family
  role := role
  shared := some body

/-- The configuration template. -/
def configSpec (backend : String) (dialect : Dialect) : TemplateSpec where
  backend := backend
  family := family
  role := .config
  bodies := family.kinds.map fun kind => (kind, (config dialect kind).body)
  derivations := [activationName]

def callSpec (backend : String) : TemplateSpec :=
  ((spec backend .call (Invocation.call operation [])).withIncludes callHeaders).derive
    activationName

/-- The template that registers stages. -/
def stageSpec (backend : String) : TemplateSpec :=
  ((spec backend .taskSequence (Invocation.stage operation)).withIncludes stageHeaders).derive
    activationName

/-- The template that starts stages. -/
def startSpec (backend : String) : TemplateSpec := spec backend .streamCall Invocation.start

/-- Every template of the family in the dialect. -/
def specs (backend : String) (dialect : Dialect) : List TemplateSpec :=
  [configSpec backend dialect, callSpec backend] ++
  if dialect.hasDataflow then [stageSpec backend, startSpec backend] else []

end HlsEmit.Activation

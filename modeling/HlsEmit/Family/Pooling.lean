import HlsEmit.Family.Attributes
import HlsEmit.Family.Shape
import HlsEmit.Template.Basic

/-! # The pooling family

Pooling with windows and pooling of whole extents, each in one and two
dimensions. The structs it extends speak of filters and channels, so the window
is also given as the filter, and the count of filters as the count of channels.
-/

namespace HlsEmit.Pooling

/-- What pooling layers are expected to carry. -/
def family : LayerFamily where
  name := "pooling"
  kinds := [.pooling1D, .pooling2D, .globalPooling1D, .globalPooling2D]
  attributes
    | .pooling1D =>
        ["n_in", "n_out", "n_filt", "stride_width", "pool_width", "pad_left", "pad_right",
          "count_pad", "pool_op", "data_format"]
    | .pooling2D =>
        ["in_height", "in_width", "out_height", "out_width", "n_filt", "stride_height",
          "stride_width", "pool_height", "pool_width", "pad_top", "pad_bottom", "pad_left",
          "pad_right", "count_pad", "pool_op", "data_format"]
    | .globalPooling1D => ["n_in", "n_filt", "pool_op", "data_format"]
    | .globalPooling2D => ["in_height", "in_width", "n_filt", "pool_op", "data_format"]
    | _ => []
  types _ := ["accum_t"]

/-- The headers of the pooling kernels. -/
def headers : List String := ["nnet_utils/nnet_pooling.h", "nnet_utils/nnet_pooling_stream.h"]

/-- Gives an attribute, if it is there, under a second name. -/
def copied (layer : Layer) (source name : String) : List (String × String) :=
  match layer.attribute? source with
  | some value => [(name, value.render)]
  | none => []

/-- The window as the filter and the filters as the channels. -/
def filterSlots : Derivation :=
  .writing ["filt_width", "filt_height", "n_chan"] fun _ layer =>
    .ok (copied layer "pool_width" "filt_width" ++ copied layer "pool_height" "filt_height" ++
      copied layer "n_filt" "n_chan")

/-- The implementation of the window, a line buffer if the layer does not say. -/
def implementation : Derivation :=
  .writing ["implementation"] fun _ layer =>
    .ok [("implementation", (layer.text? "conv_implementation").getD "LineBuffer")]

open ConfigLine

/-- The operation that is applied to each window. -/
def operationLine : ConfigLine := constant "nnet::Pool_Op" "pool_op" "nnet::" "pool_op"

/-- Whether padding counts as input. -/
def paddingLine : ConfigLine := constant "bool" "count_pad" "" "count_pad"

/-- How the window is implemented. -/
def implementationLine : ConfigLine :=
  constant "nnet::conv_implementation" "implementation" "nnet::conv_implementation::"
    "implementation"

/-- How often resources are used again. -/
def reuseLine : ConfigLine := unsigned "reuse_factor" "reuse"

/-- The struct of a kind in the dialects for channels last. -/
def intelConfig : LayerKind → ConfigStruct
  | .pooling1D =>
      { base := "pooling1d_config", storage := "static const"
        lines :=
          sizes ["stride_width", "pool_width"] ++ [blank] ++
          sizes ["n_in", "n_out", "filt_width"] ++ [blank] ++
          sizes ["n_filt", "n_chan"] ++ [blank, unsigned "in_width" "n_in", blank] ++
          sizes ["pad_left", "pad_right"] ++
          [paddingLine, blank, operationLine, .typeName "accum_t"] }
  | .pooling2D =>
      { base := "pooling2d_config", storage := "static const"
        lines :=
          sizes ["stride_height", "stride_width"] ++ [blank] ++
          sizes ["pool_height", "pool_width", "filt_height", "filt_width"] ++ [blank] ++
          sizes ["in_height", "in_width", "out_height", "out_width"] ++ [blank] ++
          sizes ["n_filt", "n_chan"] ++ [blank] ++
          sizes ["pad_top", "pad_bottom", "pad_left", "pad_right"] ++
          [paddingLine, blank, operationLine, .typeName "accum_t"] }
  | .globalPooling1D =>
      { base := "pooling1d_config", storage := "static const"
        lines := sizes ["n_in", "n_filt"] ++ [operationLine, .typeName "accum_t"] }
  | _ =>
      { base := "pooling2d_config", storage := "static const"
        lines :=
          sizes ["in_height", "in_width", "n_filt"] ++ [operationLine, .typeName "accum_t"] }

/-- The struct of a kind in the dialect for either order of channels. -/
def vivadoConfig : LayerKind → ConfigStruct
  | .pooling1D =>
      { base := "pooling1d_config", storage := "static const"
        lines :=
          sizes ["n_in", "n_out", "n_filt", "stride_width", "pool_width"] ++ [blank] ++
          sizes ["filt_width", "n_chan"] ++ [blank] ++
          sizes ["pad_left", "pad_right"] ++
          [paddingLine, operationLine, implementationLine, reuseLine, .typeName "accum_t"] }
  | .pooling2D =>
      { base := "pooling2d_config", storage := "static const"
        lines :=
          sizes ["in_height", "in_width", "n_filt", "stride_height", "stride_width",
            "pool_height", "pool_width"] ++ [blank] ++
          sizes ["filt_height", "filt_width", "n_chan"] ++ [blank] ++
          sizes ["out_height", "out_width", "pad_top", "pad_bottom", "pad_left", "pad_right"] ++
          [paddingLine, operationLine, implementationLine, reuseLine, .typeName "accum_t"] }
  | .globalPooling1D =>
      { base := "pooling1d_config", storage := "static const"
        lines := sizes ["n_in", "n_filt"] ++ [operationLine, reuseLine, .typeName "accum_t"] }
  | _ =>
      { base := "pooling2d_config", storage := "static const"
        lines :=
          sizes ["in_height", "in_width", "n_filt"] ++
          [operationLine, reuseLine, .typeName "accum_t"] }

def config : Dialect → LayerKind → ConfigStruct
  | .vivado => vivadoConfig
  | .quartus | .oneApi => intelConfig

/-- The kernel of a kind, for the layout of the layer. -/
def operation : LayerKind → List Segment
  | .pooling1D => [.literal "pooling1d_", .placeholder "data_format"]
  | .pooling2D => [.literal "pooling2d_", .placeholder "data_format"]
  | .globalPooling1D => [.literal "global_pooling1d_", .placeholder "data_format"]
  | _ => [.literal "global_pooling2d_", .placeholder "data_format"]

/-- A specification with one body per kind of the family. -/
def spec (backend : String) (role : Role) (body : LayerKind → String) : TemplateSpec where
  backend := backend
  family := family
  role := role
  bodies := family.kinds.map fun kind => (kind, body kind)

/-- The configuration template. -/
def configSpec (backend : String) (dialect : Dialect) : TemplateSpec :=
  let spec := (spec backend .config fun kind => (config dialect kind).body).derive filterSlots
  match dialect with
  | .vivado => spec.derive implementation
  | .quartus | .oneApi => spec

def callSpec (backend : String) (dialect : Dialect) : TemplateSpec :=
  ((spec backend .call fun kind => Invocation.call (operation kind) []).withIncludes
    headers).derive (Layout.derivation dialect)

/-- The template that registers stages. -/
def stageSpec (backend : String) (dialect : Dialect) : TemplateSpec :=
  ((spec backend .taskSequence fun kind => Invocation.stage (operation kind)).withIncludes
    headers).derive (Layout.derivation dialect)

/-- The template that starts stages. -/
def startSpec (backend : String) : TemplateSpec where
  backend := backend
  family := family
  role := .streamCall
  shared := some Invocation.start

/-- Every template of the family in the dialect. -/
def specs (backend : String) (dialect : Dialect) : List TemplateSpec :=
  [configSpec backend dialect, callSpec backend dialect] ++
  if dialect.hasDataflow then [stageSpec backend dialect, startSpec backend] else []

end HlsEmit.Pooling

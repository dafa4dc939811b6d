import HlsEmit.Family.Attributes
import HlsEmit.Family.Shape
import HlsEmit.Template.Basic

/-! # The dense family

Fully connected layers with an array of weights and one of biases. The numbers of
zero and other weights are worked out from the sizes of the layer, which have to
be consistent.
-/

namespace HlsEmit.Dense

/-- What dense layers are expected to carry. -/
def family : LayerFamily where
  name := "dense"
  kinds := [.dense]
  attributes _ :=
    ["n_in", "n_out", "reuse_factor", "strategy", "n_zeros", "rfpad", "bfpad", "product_type"]
  types _ := ["accum_t", "weight_t", "bias_t"]

def callHeaders : List String := ["nnet_utils/nnet_dense.h"]

def stageHeaders : List String := ["nnet_utils/nnet_dense.h", "nnet_utils/nnet_dense_stream.h"]

/-- The name of a weight array, if the layer has it. -/
def weightName (layer : Layer) (weight name : String) : List (String × String) :=
  match layer.weights.find? weight with
  | some v => [(name, v.name)]
  | none => []

/-- The names of the weights and of the biases. -/
def weightNames : Derivation :=
  .writing ["w", "b"] fun _ layer =>
    .ok (weightName layer "weight" "w" ++ weightName layer "bias" "b")

/-- Refuses a negative size. -/
def checkSize (layer : Layer) (name : String) (value : Int64) : Except CodegenError Unit :=
  if value.toInt < 0 then
    .error (.invalidAttribute layer.name name s!"is {value.toInt} but must not be negative")
  else .ok ()

/-- The number of weights other than zero in a matrix of the given sizes. The
    sizes must not be negative, the matrix must have a number of entries that a
    64-bit integer holds, and it must have room for the zeros. -/
def nonzeros (layer : Layer) (rows columns zeros : Int64) : Except CodegenError Int := do
  checkSize layer "n_in" rows
  checkSize layer "n_out" columns
  let total := rows.toInt * columns.toInt
  if Int64.maxValue.toInt < total then
    throw (.invalidAttribute layer.name "n_in"
      s!"times n_out ({rows.toInt} x {columns.toInt}) overflows the weight count")
  if zeros.toInt < 0 ∨ total < zeros.toInt then
    throw (.invalidAttribute layer.name "n_zeros"
      s!"is {zeros.toInt} but the weight matrix has {total} entries")
  return total - zeros.toInt

/-- The numbers of zero and of other weights. The latter needs both sizes. -/
def sparsity : Derivation :=
  .writing ["nzeros", "nonzeros"] fun _ layer => do
    let zeros := (← layer.integer? "n_zeros").getD 0
    let rows ← layer.integer? "n_in"
    let columns ← layer.integer? "n_out"
    match rows, columns with
    | some rows, some columns =>
        let count ← nonzeros layer rows columns zeros
        return [("nzeros", toString zeros.toInt), ("nonzeros", toString count)]
    | _, _ => return [("nzeros", toString zeros.toInt)]

/-- The strategy and the product, with their defaults, and the padding of blocks. -/
def strategy : Derivation :=
  .writing ["strategy", "product_type", "rfpad", "bfpad"] fun _ layer => do
    let reusePad := (← layer.integer? "rfpad").getD 0
    let blockPad := (← layer.integer? "bfpad").getD 0
    return [("strategy", layer.lowered "strategy" "latency"),
      ("product_type", layer.lowered "product_type" "mult"),
      ("rfpad", toString reusePad.toInt), ("bfpad", toString blockPad.toInt)]

open ConfigLine

/-- How data is passed on. -/
def ioLine : ConfigLine := constant "unsigned" "io_type" "nnet::" "iotype"

/-- How often resources are used again. -/
def reuseLine : ConfigLine := unsigned "reuse_factor" "reuse"

/-- Weights are not kept in block memory. -/
def storeLine : ConfigLine := fixed "bool" "store_weights_in_bram" "false"

/-- The types of accumulators, biases and weights. -/
def typeLines : List ConfigLine := [.typeName "accum_t", .typeName "bias_t", .typeName "weight_t"]

/-- The struct in the dialect for either order of channels. -/
def vivadoConfig : ConfigStruct where
  base := "dense_config"
  storage := "static const"
  lines :=
    sizes ["n_in", "n_out"] ++
    [ioLine, constant "unsigned" "strategy" "nnet::" "strategy", reuseLine,
      unsigned "n_zeros" "nzeros", unsigned "n_nonzeros" "nonzeros",
      fixed "unsigned" "multiplier_limit"
        "DIV_ROUNDUP(n_in * n_out, reuse_factor) - n_zeros / reuse_factor",
      storeLine] ++
    typeLines ++ [product "product_type"]

/-- The struct in the dialects for channels last. -/
def intelConfig : ConfigStruct where
  base := "dense_config"
  storage := "static constexpr"
  lines :=
    sizes ["n_in", "n_out"] ++
    [ioLine, unsigned "n_zeros" "nzeros", unsigned "n_nonzeros" "nonzeros", storeLine, blank,
      unsigned "rf_pad" "rfpad", unsigned "bf_pad" "bfpad", blank, reuseLine,
      fixed "unsigned" "compressed_block_factor" "DIV_ROUNDUP(n_nonzeros, reuse_factor)",
      fixed "unsigned" "reuse_factor_rounded" "reuse_factor + rf_pad",
      fixed "unsigned" "block_factor" "DIV_ROUNDUP(n_in * n_out, reuse_factor)",
      fixed "unsigned" "block_factor_rounded" "block_factor + bf_pad",
      fixed "unsigned" "multiplier_factor" "MIN(n_in, reuse_factor)",
      fixed "unsigned" "multiplier_limit" "DIV_ROUNDUP(n_in * n_out, multiplier_factor)",
      fixed "unsigned" "multiplier_scale" "multiplier_limit / n_out", blank] ++
    typeLines ++ [blank, product "product_type"]

def config : Dialect → ConfigStruct
  | .vivado => vivadoConfig
  | .quartus | .oneApi => intelConfig

/-- The kernel for calls, which depends on the strategy in all dialects but one. -/
def operation : Dialect → List Segment
  | .vivado => [.literal "dense"]
  | .quartus | .oneApi => [.literal "dense_", .placeholder "strategy"]

/-- A specification with one body for the family. -/
def spec (backend : String) (role : Role) (body : String) : TemplateSpec where
  backend := backend
  family := family
  role := role
  shared := some body

/-- The configuration template. -/
def configSpec (backend : String) (dialect : Dialect) : TemplateSpec :=
  ((spec backend .config (config dialect).body).derive sparsity).derive strategy

def callSpec (backend : String) (dialect : Dialect) : TemplateSpec :=
  (((spec backend .call (Invocation.call (operation dialect) ["w", "b"])).withIncludes
    callHeaders).derive strategy).derive weightNames

/-- The template that registers stages. -/
def stageSpec (backend : String) (dialect : Dialect) : TemplateSpec :=
  ((spec backend .taskSequence (Invocation.stage (operation dialect))).withIncludes
    stageHeaders).derive strategy

/-- The template that starts stages. -/
def startSpec (backend : String) : TemplateSpec :=
  (spec backend .streamCall (Invocation.startWith "w" "b")).derive weightNames

/-- Every template of the family in the dialect. -/
def specs (backend : String) (dialect : Dialect) : List TemplateSpec :=
  [configSpec backend dialect, callSpec backend dialect] ++
  if dialect.hasDataflow then [stageSpec backend dialect, startSpec backend] else []

end HlsEmit.Dense

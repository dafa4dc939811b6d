import HlsEmit.Backend.Dialect
import HlsEmit.Template.Derivation
import HlsEmit.Text.CaseMap

/-! # Attributes as families read them

What several families ask of the attributes of a layer: an integer, a text in
lower case, and the order of its channels.
-/

namespace HlsEmit

namespace Layer

/-- The integer attribute of that name. Any other attribute of the name is
    refused. -/
def integer? (layer : Layer) (name : String) : Except CodegenError (Option Int64) :=
  match layer.attribute? name with
  | none => .ok none
  | some (.int value) => .ok (some value)
  | some other =>
      .error (.invalidAttribute layer.name name s!"must be an integer, got '{other.render}'")

/-- The text of an attribute in lower case, or `default` if there is none. -/
def lowered (layer : Layer) (name default : String) : String :=
  ((layer.attribute? name).map fun value => Text.lowerCase value.render).getD default

/-- Whether the channels come before the extents. A layer that does not say has
    them last. -/
def channelsFirst (layer : Layer) : Bool := layer.text? "data_format" = some "channels_first"

end Layer

namespace Layout

/-- Refuses layers with channels first and calls the layout of all others `cl`. -/
def channelsLastOnly : Derivation :=
  .writing ["data_format"] fun context layer =>
    if layer.channelsFirst then
      .error (.unsupportedLayout "channels_first" context.backend layer.name)
    else .ok [("data_format", "cl")]

/-- Calls channels first `cf` and channels last `cl`. -/
def channelFormat : Derivation :=
  .writing ["data_format"] fun _ layer =>
    .ok [("data_format", if layer.channelsFirst then "cf" else "cl")]

/-- How the dialect treats the order of channels. -/
def derivation : Dialect → Derivation
  | .vivado => channelFormat
  | .quartus | .oneApi => channelsLastOnly

end Layout

end HlsEmit

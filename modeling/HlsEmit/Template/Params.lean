import HlsEmit.Layer.Basic
import HlsEmit.Template.Role

/-! # Template parameters

Parameters give a text to each placeholder name. The defaults of a layer come
from three sources, each of which overrides the ones before: the attributes, the
types, and the structural parameters of the role.
-/

namespace HlsEmit

/-- The texts of placeholder names. -/
abbrev Params := Table String

namespace Params

/-- The attributes under their own names. -/
def attributeBindings (layer : Layer) : List (String × String) :=
  layer.attributes.entries.map fun entry => (entry.1, entry.2.render)

/-- The name and the definition of every type, under dotted names. -/
def typeBindings (layer : Layer) : List (String × String) :=
  layer.types.entries.flatMap fun entry =>
    [(entry.1 ++ ".name", entry.2.name), (entry.1 ++ ".precision", entry.2.precision)]

/-- How often the resources of the layer are used again, once if it does not say. -/
def reuseFactor (layer : Layer) : String :=
  ((layer.attribute? "reuse_factor").map Attribute.render).getD "1"

/-- A binding for each of the given variables that the layer has. -/
def variableBindings (v : Option Variable) (typeName valueName : String)
    (value : Variable → String) : List (String × String) :=
  match v with
  | some v => [(typeName, v.elementType), (valueName, value v)]
  | none => []

/-- The structural parameters of the role. Those of a variable that the layer
    lacks are absent. -/
def structuralBindings (layer : Layer) : Role → List (String × String)
  | .config =>
      [("index", layer.indexText), ("name", layer.name), ("iotype", layer.ioStyle.name),
        ("reuse", reuseFactor layer)]
  | .call =>
      [("index", layer.indexText), ("name", layer.name), ("iotype", layer.ioStyle.name),
        ("reuse", reuseFactor layer), ("config", layer.configName)] ++
      variableBindings layer.input "input_t" "input" Variable.name ++
      variableBindings layer.output "output_t" "output" Variable.name
  | .taskSequence =>
      [("index", layer.indexText), ("name", layer.name), ("iotype", layer.ioStyle.name),
        ("reuse", reuseFactor layer), ("config", layer.configName)] ++
      variableBindings layer.input "input_t" "input_pipe" Variable.pipeName ++
      variableBindings layer.output "output_t" "output_pipe" Variable.pipeName
  | .streamCall =>
      [("index", layer.indexText), ("name", layer.name), ("config", layer.configName)]

/-- The parameters a template of the role starts from. -/
def defaults (role : Role) (layer : Layer) : Params :=
  (((∅ : Params).insertAll (attributeBindings layer)).insertAll (typeBindings layer)).insertAll
    (structuralBindings layer role)

end Params

end HlsEmit

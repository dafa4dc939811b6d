import HlsEmit.Diagnostic.Locate
import HlsEmit.Error
import HlsEmit.Model.Load

/-! # Diagnostics of failures

Every failure of loading and of code generation has a diagnostic. It points into
the description at the place where the failure can be mended.
-/

namespace HlsEmit.Diagnostic

/-- The diagnostic of a model that cannot be loaded. -/
def ofLoadError (failure : LoadError) (source : String) : Diagnostic :=
  match failure with
  | .malformed _ position => error failure.message (positionSpan? source.toList position)
  | .duplicateIndex _ first second =>
      ((error failure.message (layerSpan? source.toList second)).withNote
        s!"'{first}' is declared first").withHelp "every layer needs a unique index"
  | .unreadable .. => error failure.message none

/-- What to add to a layer that lacks a parameter: the part of the placeholder
    before its first point. -/
def missingName (placeholder : String) : String :=
  String.ofList (placeholder.toList.takeWhile (· ≠ '.'))

/-- The help for a backend that is not registered. -/
def availableHelp (names : List String) : String :=
  "available backends: " ++ ", ".intercalate names

/-- The diagnostic of a layer for which no code can be generated. -/
def ofCodegenError (layer : String) (failure : CodegenError) (source : String) : Diagnostic :=
  let plain := error failure.message (layerSpan? source.toList layer)
  match failure with
  | .backendNotFound _ known => plain.withHelp (availableHelp known)
  | .unsupportedLayout .. =>
      plain.withHelp "set \"data_format\": \"channels_last\" on the layer"
  | .missingParameter placeholder .. =>
      plain.withNote s!"add '{missingName placeholder}' to the layer's attributes or types"
  | _ => plain

end HlsEmit.Diagnostic

import HlsEmit.Layer.Kind
import HlsEmit.Template.Role

/-! # Errors of code generation

Why a template set, a backend or a layer is refused. Every failure is decided by
its inputs, so none is worth a second try. Callers branch on the category.
-/

namespace HlsEmit

/-- The coarse category of an error. -/
inductive ErrorCategory where
  | backendNotFound
  | duplicateBackend
  | unknownKind
  | missingPlaceholder
  | unsupportedLayout
  | invalidTemplate
  | invalidAttribute
  deriving DecidableEq, Repr

/-- Why code generation fails. -/
inductive CodegenError where
  /-- No backend is registered under the name. -/
  | backendNotFound (name : String) (known : List String)
  /-- The name is registered for another factory. -/
  | duplicateBackend (name : String)
  /-- The template does not cover the kind. -/
  | unknownKind (kind : LayerKind) (template : String)
  /-- The template declares the kind and has no body for it. -/
  | missingTemplateBody (kind : LayerKind) (template : String)
  /-- A placeholder of the body has no value for this layer. -/
  | missingParameter (placeholder : String) (kind : LayerKind) (template : String)
  /-- A placeholder of the body is provided by nothing. -/
  | unboundPlaceholder (placeholder : String) (kind : LayerKind) (template : String)
  /-- The bodies of the template cannot be used. -/
  | malformedTemplate (template : String) (reason : String)
  /-- The backend cannot emit the data layout of the layer. -/
  | unsupportedLayout (layout backend layer : String)
  /-- Two templates of a backend cover the same kind in the same role. -/
  | conflictingTemplates (backend : String) (role : Role) (kind : LayerKind)
      (first second : String)
  /-- An attribute of the layer has a value that cannot be used. -/
  | invalidAttribute (layer attr reason : String)
  deriving DecidableEq, Repr

namespace CodegenError

/-- The error in words. -/
def message : CodegenError → String
  | backendNotFound name known =>
      s!"backend '{name}' not found (available: " ++ ", ".intercalate known ++ ")"
  | duplicateBackend name => s!"backend '{name}' is already registered"
  | unknownKind kind template =>
      s!"layer kind '{kind.name}' is not supported by template '{template}'"
  | missingTemplateBody kind template =>
      s!"template '{template}' declares '{kind.name}' but has no body for it"
  | missingParameter placeholder kind template =>
      s!"missing parameter for placeholder '{placeholder}' in {kind.name} template '{template}'"
  | unboundPlaceholder placeholder kind template =>
      s!"placeholder '{placeholder}' in {kind.name} body of '{template}' is never provided"
  | malformedTemplate template reason => s!"malformed template '{template}': {reason}"
  | unsupportedLayout layout backend layer =>
      s!"{layout} not supported for {backend} (layer '{layer}')"
  | conflictingTemplates backend role kind first second =>
      s!"backend '{backend}' has two {role.name} templates for {kind.name}: " ++
        s!"'{first}' and '{second}'"
  | invalidAttribute layer attr reason =>
      s!"layer '{layer}': attribute '{attr}' {reason}"

def category : CodegenError → ErrorCategory
  | backendNotFound .. => .backendNotFound
  | duplicateBackend .. => .duplicateBackend
  | unknownKind .. => .unknownKind
  | missingTemplateBody .. | missingParameter .. => .missingPlaceholder
  | unsupportedLayout .. => .unsupportedLayout
  | unboundPlaceholder .. | malformedTemplate .. | conflictingTemplates .. => .invalidTemplate
  | invalidAttribute .. => .invalidAttribute

end CodegenError

end HlsEmit

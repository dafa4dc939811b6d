import HlsEmit.Log.Event
import HlsEmit.Template.Body
import HlsEmit.Template.Derivation
import HlsEmit.Text.Quoted

/-! # Templates

A template emits one role for the kinds of one family. It is described by a
specification, and building it checks the specification once: every kind has a
body, every body can be read, and every placeholder is provided by the role, the
vocabulary of the kind or a derivation. Formatting a layer then fills the body of
its kind from the default parameters and the derivations.
-/

namespace HlsEmit

/-- A template set with a body for each of its kinds. -/
structure LayerTemplate where
  /-- The name, made of backend, family and role. -/
  name : String
  /-- The backend the template belongs to. -/
  backend : String
  role : Role
  kinds : List LayerKind
  bodies : List (LayerKind × TemplateBody)
  /-- The headers that code of this template needs. -/
  includes : List String
  /-- The rewrites of the default parameters, in order. -/
  derivations : List Derivation

namespace LayerTemplate

/-- Whether the template covers the kind. -/
def supports (template : LayerTemplate) (kind : LayerKind) : Bool := kind ∈ template.kinds

/-- What its derivations are told. -/
def context (template : LayerTemplate) : DeriveContext := ⟨template.backend, template.name⟩

/-- The parameters of a layer: the defaults of the role, rewritten by every
    derivation in turn. The first that refuses the layer decides. -/
def derive (template : LayerTemplate) (layer : Layer) : Except CodegenError Params :=
  template.derivations.foldlM (fun params d => d.apply template.context layer params)
    (Params.defaults template.role layer)

def bodyFor (template : LayerTemplate) (kind : LayerKind) : Except CodegenError TemplateBody :=
  match template.bodies.lookup kind with
  | some body => .ok body
  | none => .error (.missingTemplateBody kind template.name)

/-- The code of a layer. -/
def format (template : LayerTemplate) (layer : Layer) : Except CodegenError String := do
  unless template.supports layer.kind do
    throw (.unknownKind layer.kind template.name)
  let params ← template.derive layer
  let body ← template.bodyFor layer.kind
  (body.render params).mapError fun placeholder =>
    .missingParameter placeholder layer.kind template.name

/-- What is logged while a layer is formatted: one event when its parameters and
    its body are found. -/
def events (template : LayerTemplate) (layer : Layer) : List Log.Event :=
  match template.supports layer.kind, template.derive layer, template.bodyFor layer.kind with
  | true, .ok params, .ok _ => [.rendering template.name layer.name params.size]
  | _, _, _ => []

/-- The debugging text of a template. -/
def debugText (template : LayerTemplate) : String :=
  "LayerTemplate \x7b name: " ++ Text.quoted template.name ++ ", role: " ++
    template.role.debugName ++ ", kinds: [" ++
    ", ".intercalate (template.kinds.map LayerKind.name) ++ "] \x7d"

end LayerTemplate

/-- The specification of a template. -/
structure TemplateSpec where
  /-- The backend the template is for. -/
  backend : String
  /-- The family whose kinds it covers. -/
  family : LayerFamily
  role : Role
  /-- Bodies for single kinds, in the order in which they were given. -/
  bodies : List (LayerKind × String) := []
  /-- A body for every kind without its own. -/
  shared : Option String := none
  /-- The headers that its code needs. -/
  includes : List String := []
  /-- The rewrites of the default parameters, in order. -/
  derivations : List Derivation := []

namespace TemplateSpec

/-- Give a body for one kind. -/
def body (spec : TemplateSpec) (kind : LayerKind) (text : String) : TemplateSpec :=
  { spec with bodies := spec.bodies ++ [(kind, text)] }

/-- Give the body for every kind without its own. -/
def sharedBody (spec : TemplateSpec) (text : String) : TemplateSpec :=
  { spec with shared := some text }

/-- Add headers. -/
def withIncludes (spec : TemplateSpec) (headers : List String) : TemplateSpec :=
  { spec with includes := spec.includes ++ headers }

/-- Add a derivation. -/
def derive (spec : TemplateSpec) (derivation : Derivation) : TemplateSpec :=
  { spec with derivations := spec.derivations ++ [derivation] }

def name (spec : TemplateSpec) : String :=
  s!"{spec.backend}:{spec.family.name}:{spec.role.name}"

/-- The error for bodies that cannot be used. -/
def malformed (spec : TemplateSpec) (reason : String) : CodegenError :=
  .malformedTemplate spec.name reason

/-- Read a body. -/
def parseBody (spec : TemplateSpec) (text : String) : Except CodegenError TemplateBody :=
  (TemplateBody.parse text).mapError fun reason => spec.malformed reason.message

/-- Read the bodies of single kinds, `done` being those before them. -/
def readBodies (spec : TemplateSpec) (done : List (LayerKind × TemplateBody)) :
    List (LayerKind × String) → Except CodegenError (List (LayerKind × TemplateBody))
  | [] => .ok done
  | (kind, text) :: rest => do
      unless kind ∈ spec.family.kinds do
        throw (spec.malformed
          s!"body given for {kind.name} outside family '{spec.family.name}'")
      let body ← spec.parseBody text
      if (done.lookup kind).isSome then
        throw (spec.malformed s!"two bodies given for {kind.name}")
      spec.readBodies (done ++ [(kind, body)]) rest

/-- The names a body for the kind may use. -/
def provided (spec : TemplateSpec) (kind : LayerKind) : List String :=
  spec.family.vocabulary kind ++ spec.role.structuralNames ++
    spec.derivations.flatMap Derivation.provides

/-- The body of a kind: its own if it has one, and otherwise the shared one. Its
    placeholders have to be provided. -/
def chooseBody (spec : TemplateSpec) (own : List (LayerKind × TemplateBody))
    (shared : Option TemplateBody) (kind : LayerKind) :
    Except CodegenError (LayerKind × TemplateBody) :=
  match (own.lookup kind).or shared with
  | none => .error (.missingTemplateBody kind spec.name)
  | some body =>
      match body.placeholders.find? (· ∉ spec.provided kind) with
      | some placeholder => .error (.unboundPlaceholder placeholder kind spec.name)
      | none => .ok (kind, body)

/-- Check the specification and build the template. -/
def build (spec : TemplateSpec) : Except CodegenError LayerTemplate := do
  let own ← spec.readBodies [] spec.bodies
  let shared ← spec.shared.mapM spec.parseBody
  let bodies ← spec.family.kinds.mapM (spec.chooseBody own shared)
  return {
    name := spec.name
    backend := spec.backend
    role := spec.role
    kinds := spec.family.kinds
    bodies := bodies
    includes := spec.includes
    derivations := spec.derivations }

end TemplateSpec

end HlsEmit

import HlsEmit.Backend.Dialect
import HlsEmit.Template.Basic

/-! # Backends

A backend is a named list of templates in which no two cover the same kind in
the same role. So each role of each kind has at most one template, and a look-up
needs no order among them.
-/

namespace HlsEmit

/-- Anything that emits one role for some kinds. -/
structure Template where
  name : String
  role : Role
  kinds : List LayerKind
  /-- The headers that its code needs. -/
  includes : List String := []
  /-- The code of a layer. -/
  format : Layer → Except CodegenError String
  /-- What is logged while a layer is formatted. -/
  events : Layer → List Log.Event := fun _ => []

/-- A template set as a template. -/
def LayerTemplate.toTemplate (template : LayerTemplate) : Template where
  name := template.name
  role := template.role
  kinds := template.kinds
  includes := template.includes
  format := template.format
  events := template.events

/-- Whether the template covers the kind. -/
def Template.supports (template : Template) (kind : LayerKind) : Bool := kind ∈ template.kinds

/-- A declaration of a template to cover a kind. -/
structure Offer where
  /-- The role of the template. -/
  role : Role
  /-- The kind it covers. -/
  kind : LayerKind
  template : String
  deriving DecidableEq, Repr

namespace Offer

/-- What is offered, whoever offers it. -/
def slot (offer : Offer) : Role × LayerKind := (offer.role, offer.kind)

/-- The first offer of a slot that is taken, with the offer that took it. The
    offers of `held` come first. -/
def conflict? (held : List Offer) : List Offer → Option (Offer × Offer)
  | [] => none
  | offer :: rest =>
      match held.find? (·.slot = offer.slot) with
      | some first => some (first, offer)
      | none => conflict? (held ++ [offer]) rest

theorem conflict?_eq_none_iff (held offers : List Offer) :
    conflict? held offers = none ↔
      (offers.map slot).Nodup ∧ ∀ offer ∈ offers, ∀ first ∈ held, first.slot ≠ offer.slot := by
  induction offers generalizing held with
  | nil => simp [conflict?]
  | cons offer rest ih =>
      simp only [conflict?]
      split
      · rename_i first found
        have inside := List.mem_of_find?_eq_some found
        have same : first.slot = offer.slot := by simpa using List.find?_some found
        simp only [reduceCtorEq, false_iff, not_and]
        intro _ distinct
        exact distinct offer (by simp) first inside same
      · rename_i absent
        have free : ∀ first ∈ held, first.slot ≠ offer.slot := by simpa using absent
        rw [ih]
        constructor
        · rintro ⟨distinct, fresh⟩
          refine ⟨?_, ?_⟩
          · simp only [List.map_cons, List.nodup_cons, List.mem_map, not_exists, not_and]
            refine ⟨fun other inside same => ?_, distinct⟩
            exact fresh other inside offer (by simp) same.symm
          · intro other inside first held'
            rcases List.mem_cons.mp inside with rfl | inside
            · exact free first held'
            · exact fresh other inside first (by simp [held'])
        · rintro ⟨distinct, fresh⟩
          simp only [List.map_cons, List.nodup_cons, List.mem_map, not_exists, not_and] at distinct
          refine ⟨distinct.2, fun other inside first held' => ?_⟩
          rcases List.mem_append.mp held' with held' | last
          · exact fresh other (by simp [inside]) first held'
          · simp only [List.mem_singleton] at last
            subst last
            exact fun same => distinct.1 other inside same.symm

end Offer

/-- The offers of a template, in the order of its kinds. -/
def Template.offers (template : Template) : List Offer :=
  template.kinds.map fun kind => ⟨template.role, kind, template.name⟩

/-- A target of code generation. -/
structure Backend where
  name : String
  dialect : Dialect
  templates : List Template
  /-- No two templates cover the same kind in the same role. -/
  distinct : ((templates.flatMap Template.offers).map Offer.slot).Nodup

namespace Backend

/-- The backend of the given templates, unless two of them conflict. -/
def build (name : String) (dialect : Dialect) (templates : List Template) :
    Except CodegenError Backend :=
  match h : Offer.conflict? [] (templates.flatMap Template.offers) with
  | some (first, second) =>
      .error (.conflictingTemplates name second.role second.kind first.template second.template)
  | none => .ok ⟨name, dialect, templates, ((Offer.conflict?_eq_none_iff _ _).mp h).1⟩

/-- What is logged when the backend has been built. -/
def builtEvent (backend : Backend) : Log.Event :=
  .backendBuilt backend.name backend.templates.length

def template? (backend : Backend) (role : Role) (kind : LayerKind) : Option Template :=
  backend.templates.find? fun template => template.role = role && template.supports kind

def template (backend : Backend) (role : Role) (kind : LayerKind) :
    Except CodegenError Template :=
  match backend.template? role kind with
  | some template => .ok template
  | none => .error (.unknownKind kind s!"{backend.name}:{role.name}")

def supports (backend : Backend) (role : Role) (kind : LayerKind) : Bool :=
  (backend.template? role kind).isSome

/-- The code of a layer in a role. -/
def format (backend : Backend) (role : Role) (layer : Layer) : Except CodegenError String := do
  let template ← backend.template role layer.kind
  template.format layer

/-- What is logged while a layer is formatted. -/
def formatEvents (backend : Backend) (role : Role) (layer : Layer) : List Log.Event :=
  match backend.template? role layer.kind with
  | some template =>
      .format backend.name template.name layer.name :: template.events layer
  | none => []

/-- The kinds with a template for the role, in kind order. -/
def kinds (backend : Backend) (role : Role) : List LayerKind :=
  LayerKind.all.filter (backend.supports role)

/-- The roles that are emitted for a layer: stages where the backend has them and
    the model streams, and calls otherwise. -/
def roles (backend : Backend) (style : IoStyle) : List Role :=
  match backend.dialect.hasDataflow, style with
  | true, .stream => [.config, .taskSequence, .streamCall]
  | _, _ => [.config, .call]

/-- The headers that invocations of the kind need, each once, in order of first
    appearance. -/
def includeHeaders (backend : Backend) (kind : LayerKind) : List String :=
  ([Role.call, Role.taskSequence].flatMap fun role =>
    ((backend.template? role kind).map Template.includes).getD []).eraseDups

/-- The debugging text of a backend. -/
def debugText (backend : Backend) : String :=
  "Backend \x7b name: " ++ Text.quoted backend.name ++ ", dialect: " ++
    backend.dialect.debugName ++ ", templates: " ++ toString backend.templates.length ++ " \x7d"

end Backend

end HlsEmit

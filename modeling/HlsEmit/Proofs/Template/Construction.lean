import HlsEmit.Proofs.Template.BodySyntax
import HlsEmit.Proofs.Template.Validation

/-! # Templates whose bodies are written from segments

A specification is usually made from segments, one list for each kind, either as
a body of its own for every kind or as one shared body. If the placeholders are
dotted names that the specification provides, building it succeeds, and the body
of each kind consists of its segments.
-/

namespace HlsEmit

namespace TemplateSpec

/-- The bodies of a specification are the written forms of segments. -/
inductive IsWritten (spec : TemplateSpec) (segments : LayerKind → List Segment) : Prop
  | own : spec.bodies = spec.family.kinds.map (fun kind =>
      (kind, TemplateBody.unparse (segments kind))) → spec.shared = none → IsWritten spec segments
  | shared {every : List Segment} : spec.bodies = [] →
      spec.shared = some (TemplateBody.unparse every) → spec.family.kinds ≠ [] →
      (∀ kind ∈ spec.family.kinds, segments kind = every) → IsWritten spec segments

/-- The placeholders of all bodies are dotted names that are provided. -/
structure IsBound (spec : TemplateSpec) (segments : LayerKind → List Segment) : Prop where
  distinct : spec.family.kinds.Nodup
  named : ∀ kind ∈ spec.family.kinds, ∀ segment ∈ segments kind, segment.IsNamed
  provided : ∀ kind ∈ spec.family.kinds, ∀ name ∈ TemplateBody.placeholders ⟨segments kind⟩,
    name ∈ spec.provided kind

instance (spec : TemplateSpec) (segments : LayerKind → List Segment) :
    Decidable (spec.IsBound segments) :=
  decidable_of_iff (spec.family.kinds.Nodup ∧
      (∀ kind ∈ spec.family.kinds, ∀ segment ∈ segments kind, segment.IsNamed) ∧
      ∀ kind ∈ spec.family.kinds, ∀ name ∈ TemplateBody.placeholders ⟨segments kind⟩,
        name ∈ spec.provided kind)
    ⟨fun ⟨distinct, named, provided⟩ => ⟨distinct, named, provided⟩,
      fun bound => ⟨bound.distinct, bound.named, bound.provided⟩⟩

/-- What is provided does not depend on the name of the backend. -/
theorem IsBound.withBackend {spec : TemplateSpec} {segments : LayerKind → List Segment}
    (bound : spec.IsBound segments) (backend : String) :
    { spec with backend := backend }.IsBound segments :=
  ⟨bound.distinct, bound.named, bound.provided⟩

/-- The template of a specification whose bodies are written from segments. -/
def templateOf (spec : TemplateSpec) (segments : LayerKind → List Segment) : LayerTemplate where
  name := spec.name
  backend := spec.backend
  role := spec.role
  kinds := spec.family.kinds
  bodies := spec.family.kinds.map fun kind => (kind, TemplateBody.normalize (segments kind))
  includes := spec.includes
  derivations := spec.derivations

theorem lookup_map {β : Type} (value : LayerKind → β) (kinds : List LayerKind)
    (kind : LayerKind) : (kinds.map fun k => (k, value k)).lookup kind =
      if kind ∈ kinds then some (value kind) else none := by
  induction kinds with
  | nil => rfl
  | cons first rest ih =>
      by_cases here : kind = first
      · subst here
        simp
      · have differ : (kind == first) = false := by simpa using here
        simp [List.lookup_cons, here, differ, ih]

theorem parseBody_unparse (spec : TemplateSpec) {segments : List Segment}
    (named : ∀ segment ∈ segments, segment.IsNamed) :
    spec.parseBody (TemplateBody.unparse segments) = .ok (TemplateBody.normalize segments) := by
  rw [parseBody, TemplateBody.parse_unparse named]
  rfl

theorem readBodies_map {spec : TemplateSpec} {segments : LayerKind → List Segment}
    {done kinds : List LayerKind} (covered : ∀ kind ∈ kinds, kind ∈ spec.family.kinds)
    (distinct : (done ++ kinds).Nodup)
    (named : ∀ kind ∈ kinds, ∀ segment ∈ segments kind, segment.IsNamed) :
    spec.readBodies (done.map fun kind => (kind, TemplateBody.normalize (segments kind)))
        (kinds.map fun kind => (kind, TemplateBody.unparse (segments kind))) =
      .ok ((done ++ kinds).map fun kind => (kind, TemplateBody.normalize (segments kind))) := by
  induction kinds generalizing done with
  | nil => simp [readBodies]
  | cons kind rest ih =>
      have inside : kind ∈ spec.family.kinds := covered kind (by simp)
      have fresh : kind ∉ done := by
        intro member
        exact (List.nodup_append.mp distinct).2.2 kind member kind (by simp) rfl
      have others := @ih (done ++ [kind]) (fun other member => covered other (by simp [member]))
        (by simpa using distinct) (fun other member => named other (by simp [member]))
      simp only [List.map_append, List.map_cons, List.map_nil, List.append_assoc,
        List.singleton_append] at others
      simp only [List.map_cons, readBodies, inside, parseBody_unparse spec (named kind (by simp)),
        lookup_map, fresh, if_true, if_false, Option.isSome_none, Bool.false_eq_true]
      simpa [pure, Except.pure, bind, Except.bind] using others

theorem chooseBody_of_isWritten {spec : TemplateSpec} {segments : LayerKind → List Segment}
    {own : List (LayerKind × TemplateBody)} {shared : Option TemplateBody} {kind : LayerKind}
    (chosen : (own.lookup kind).or shared = some (TemplateBody.normalize (segments kind)))
    (provided : ∀ name ∈ TemplateBody.placeholders ⟨segments kind⟩,
      name ∈ spec.provided kind) :
    spec.chooseBody own shared kind = .ok (kind, TemplateBody.normalize (segments kind)) := by
  have bound : (TemplateBody.normalize (segments kind)).placeholders.find?
      (· ∉ spec.provided kind) = none := by
    rw [List.find?_eq_none]
    intro name listed
    rw [TemplateBody.mem_placeholders_iff, TemplateBody.placeholder_mem_normalize_iff] at listed
    have written := (TemplateBody.mem_placeholders_iff ⟨segments kind⟩ name).mpr listed
    simpa using provided name written
  simp only [chooseBody, chosen, bound]

theorem build_of_chosen {spec : TemplateSpec} {segments : LayerKind → List Segment}
    {own : List (LayerKind × TemplateBody)} {shared : Option TemplateBody}
    (read : spec.readBodies [] spec.bodies = .ok own)
    (readShared : spec.shared.mapM spec.parseBody = .ok shared)
    (chosen : ∀ kind ∈ spec.family.kinds,
      (own.lookup kind).or shared = some (TemplateBody.normalize (segments kind)))
    (bound : spec.IsBound segments) : spec.build = .ok (spec.templateOf segments) := by
  have bodies := Outcome.mapM_eq_ok_map fun kind covered =>
    chooseBody_of_isWritten (chosen kind covered) (bound.provided kind covered)
  simp [build, read, readShared, bodies, templateOf, bind, Except.bind, pure, Except.pure]

/-- A specification with bound placeholders is built as it is written. -/
theorem build_of_isWritten {spec : TemplateSpec} {segments : LayerKind → List Segment}
    (written : spec.IsWritten segments) (bound : spec.IsBound segments) :
    spec.build = .ok (spec.templateOf segments) := by
  cases written with
  | own bodies shared =>
      have read : spec.readBodies [] _ = .ok _ :=
        @readBodies_map spec segments [] _ (fun kind member => member) bound.distinct bound.named
      refine build_of_chosen (bodies ▸ read) (by rw [shared]; rfl) (fun kind covered => ?_) bound
      simp [lookup_map, covered]
  | @shared every bodies shared inhabited same =>
      obtain ⟨kind, covered⟩ := List.exists_mem_of_ne_nil _ inhabited
      have named : ∀ segment ∈ every, segment.IsNamed :=
        same kind covered ▸ bound.named kind covered
      have readShared : spec.shared.mapM spec.parseBody =
          .ok (some (TemplateBody.normalize every)) := by
        rw [shared, Option.mapM_some, parseBody_unparse spec named]
        rfl
      refine build_of_chosen (by rw [bodies]; rfl) readShared (fun kind covered => ?_) bound
      rw [same kind covered]
      rfl

end TemplateSpec

end HlsEmit

import HlsEmit.Proofs.Backend.Dispatch

/-! # Building a backend from templates

The offers of the templates are taken in order, template by template and kind by kind. The
first offer of a slot that is taken decides the error. Where there is none, a slot belongs
to one template, and what the backend answers follows from this template.
-/

namespace HlsEmit

namespace Offer

/-- The second is the first of the offers whose slot is taken, and the first one took it. -/
structure IsFirstConflict (offers : List Offer) (first second : Offer) : Prop where
  same : first.slot = second.slot
  reached : ∃ taken rest, offers = taken ++ second :: rest ∧ first ∈ taken ∧
    (taken.map slot).Nodup

theorem conflict?_eq_some_iff {held offers : List Offer} (apart : (held.map slot).Nodup)
    {first second : Offer} : conflict? held offers = some (first, second) ↔
      first.slot = second.slot ∧ ∃ taken rest, offers = taken ++ second :: rest ∧
        first ∈ held ++ taken ∧ ((held ++ taken).map slot).Nodup := by
  induction offers generalizing held with
  | nil => simp [conflict?]
  | cons offer others ih =>
      rw [conflict?]
      cases found : held.find? (·.slot = offer.slot) with
      | some holder =>
          have member := List.mem_of_find?_eq_some found
          have taken : holder.slot = offer.slot := by simpa using List.find?_some found
          constructor
          · intro decided
            obtain ⟨rfl, rfl⟩ := Prod.mk.inj (Option.some.inj decided)
            exact ⟨taken, [], others, rfl, by simpa using member, by simpa using apart⟩
          · rintro ⟨same, before, rest, shape, inside, distinct⟩
            cases before with
            | nil =>
                obtain ⟨rfl, rfl⟩ := List.cons.inj shape
                have only : holder = first := List.inj_on_of_nodup_map apart member
                  (by simpa using inside) (taken.trans same.symm)
                rw [only]
            | cons head before =>
                obtain ⟨rfl, -⟩ := List.cons.inj shape
                rw [List.map_append, List.nodup_append] at distinct
                exact absurd taken (distinct.2.2 _ (List.mem_map_of_mem member) _ (by simp))
      | none =>
          have free : ∀ other ∈ held, other.slot ≠ offer.slot := by simpa using found
          have next : ((held ++ [offer]).map slot).Nodup := by
            rw [List.map_append, List.nodup_append]
            exact ⟨apart, by simp, by simpa using free⟩
          change conflict? (held ++ [offer]) others = _ ↔ _
          rw [ih next]
          constructor
          · rintro ⟨same, taken, rest, rfl, inside, distinct⟩
            exact ⟨same, offer :: taken, rest, rfl, by simpa using inside, by simpa using distinct⟩
          · rintro ⟨same, before, rest, shape, inside, distinct⟩
            cases before with
            | nil =>
                obtain ⟨rfl, -⟩ := List.cons.inj shape
                exact absurd same (free first (by simpa using inside))
            | cons head before =>
                obtain ⟨rfl, rfl⟩ := List.cons.inj shape
                exact ⟨same, before, rest, rfl, by simpa using inside, by simpa using distinct⟩

theorem conflict?_nil_eq_some_iff {offers : List Offer} {first second : Offer} :
    conflict? [] offers = some (first, second) ↔ IsFirstConflict offers first second := by
  have apart : (([] : List Offer).map slot).Nodup := List.nodup_nil
  rw [conflict?_eq_some_iff apart]
  constructor
  · rintro ⟨same, reached⟩
    exact ⟨same, reached⟩
  · intro conflict
    exact ⟨conflict.same, conflict.reached⟩

end Offer

/-- The code of a layer of a kind that is known to be covered. -/
def LayerTemplate.formatCovered (template : LayerTemplate) (layer : Layer) :
    Except CodegenError String := do
  let params ← template.derive layer
  let body ← template.bodyFor layer.kind
  (body.render params).mapError fun placeholder =>
    .missingParameter placeholder layer.kind template.name

theorem LayerTemplate.format_of_supports {template : LayerTemplate} {layer : Layer}
    (supported : template.supports layer.kind = true) :
    template.format layer = template.formatCovered layer := by
  rw [format, supported]
  rfl

namespace Backend

/-- What a backend of the given templates answers. -/
structure Answers (backend : Backend) (templates : List Template) : Prop where
  /-- A slot belongs to one template at most, and to no template twice. -/
  apart : templates.Pairwise fun earlier later =>
    earlier.role = later.role → earlier.kinds.Disjoint later.kinds
  once : ∀ template ∈ templates, template.kinds.Nodup
  template_eq_ok_iff : ∀ role kind template, backend.template role kind = .ok template ↔
    template ∈ templates ∧ template.role = role ∧ kind ∈ template.kinds
  template_eq_error_iff : ∀ role kind reason, backend.template role kind = .error reason ↔
    (∀ template ∈ templates, template.role = role → kind ∉ template.kinds) ∧
      reason = .unknownKind kind s!"{backend.name}:{role.name}"
  supports_iff : ∀ role kind, backend.supports role kind = true ↔
    ∃ template, backend.template role kind = .ok template
  /-- The supported kinds are listed in the order in which kinds are declared. -/
  kinds_sorted : ∀ role, (backend.kinds role).Pairwise
    fun kind other => kind.ctorIdx < other.ctorIdx
  mem_kinds_iff : ∀ role kind, kind ∈ backend.kinds role ↔ backend.supports role kind = true
  /-- A layer is formatted by the template of its kind, which always covers the kind. -/
  format_eq : ∀ role layer template, backend.template role layer.kind = .ok template →
    backend.format role layer = template.format layer ∧ template.supports layer.kind = true ∧
      ∀ set : LayerTemplate, set.toTemplate = template →
        set.format layer = set.formatCovered layer
  format_eq_error : ∀ role layer reason, backend.template role layer.kind = .error reason →
    backend.format role layer = .error reason

variable {name : String} {dialect : Dialect} {templates : List Template} {backend : Backend}
  {role : Role} {kind : LayerKind} {reason : CodegenError}

theorem build_eq_error_iff : build name dialect templates = .error reason ↔
    ∃ first second, Offer.IsFirstConflict (templates.flatMap Template.offers) first second ∧
      reason =
        .conflictingTemplates name second.role second.kind first.template second.template := by
  simp only [← Offer.conflict?_nil_eq_some_iff]
  unfold build
  split
  · rename_i first second found
    constructor
    · intro failed
      exact ⟨first, second, found, (Except.error.inj failed).symm⟩
    · rintro ⟨other, last, also, rfl⟩
      obtain ⟨rfl, rfl⟩ := Prod.mk.inj (Option.some.inj (found.symm.trans also))
      rfl
  · rename_i free
    constructor
    · intro failed
      cases failed
    · rintro ⟨first, second, found, -⟩
      rw [free] at found
      cases found

theorem build_eq_ok_iff : build name dialect templates = .ok backend ↔
    backend.name = name ∧ backend.dialect = dialect ∧ backend.templates = templates := by
  constructor
  · intro built
    unfold build at built
    split at built
    · cases built
    · obtain rfl := Except.ok.inj built
      exact ⟨rfl, rfl, rfl⟩
  · rintro ⟨rfl, rfl, rfl⟩
    exact build_eq_ok_of_nodup backend.distinct

theorem template_eq_ok_iff {template : Template} : backend.template role kind = .ok template ↔
    template ∈ backend.templates ∧ template.role = role ∧ kind ∈ template.kinds := by
  rw [← template?_eq_some_iff, Backend.template]
  cases backend.template? role kind <;> simp

theorem template_eq_error_iff : backend.template role kind = .error reason ↔
    (∀ template ∈ backend.templates, template.role = role → kind ∉ template.kinds) ∧
      reason = .unknownKind kind s!"{backend.name}:{role.name}" := by
  rw [Backend.template]
  cases found : backend.template? role kind with
  | some template =>
      obtain ⟨member, ofRole, covered⟩ := template?_eq_some_iff.mp found
      constructor
      · intro failed
        cases failed
      · rintro ⟨free, -⟩
        exact absurd covered (free template member ofRole)
  | none =>
      have free : ∀ template ∈ backend.templates, template.role = role →
          kind ∉ template.kinds := by
        intro template member ofRole covered
        rw [template?_eq_some_iff.mpr ⟨member, ofRole, covered⟩] at found
        cases found
      constructor
      · intro failed
        exact ⟨free, (Except.error.inj failed).symm⟩
      · rintro ⟨-, rfl⟩
        rfl

theorem supports_iff_template : backend.supports role kind = true ↔
    ∃ template, backend.template role kind = .ok template := by
  simp only [supports_iff, template_eq_ok_iff]

theorem kinds_pairwise (backend : Backend) (role : Role) :
    (backend.kinds role).Pairwise fun kind other => kind.ctorIdx < other.ctorIdx := by
  have all : LayerKind.all.Pairwise fun kind other => kind.ctorIdx < other.ctorIdx := by decide
  exact all.filter _

theorem mem_kinds : kind ∈ backend.kinds role ↔ backend.supports role kind = true := by
  simp [kinds, LayerKind.mem_all]

theorem pairwise_disjoint_kinds (backend : Backend) : backend.templates.Pairwise
    fun earlier later => earlier.role = later.role → earlier.kinds.Disjoint later.kinds := by
  have distinct := backend.distinct
  rw [List.map_flatMap, List.nodup_flatMap] at distinct
  apply distinct.2.imp
  intro earlier later disjoint same kind covered also
  exact disjoint (Template.slot_mem_offers.mpr ⟨same, covered⟩)
    (Template.slot_mem_offers.mpr ⟨rfl, also⟩)

theorem nodup_kinds {template : Template} (member : template ∈ backend.templates) :
    template.kinds.Nodup := by
  have distinct := backend.distinct
  rw [List.map_flatMap, List.nodup_flatMap] at distinct
  have slots := distinct.1 template member
  rw [Template.offers, List.map_map] at slots
  exact slots.of_map

theorem answers (backend : Backend) : backend.Answers backend.templates where
  apart := backend.pairwise_disjoint_kinds
  once _ := nodup_kinds
  template_eq_ok_iff _ _ _ := template_eq_ok_iff
  template_eq_error_iff _ _ _ := template_eq_error_iff
  supports_iff _ _ := supports_iff_template
  kinds_sorted := backend.kinds_pairwise
  mem_kinds_iff _ _ := mem_kinds
  format_eq := by
    intro role layer template found
    have covered := (template_eq_ok_iff.mp found).2.2
    refine ⟨by rw [format, found]; rfl, decide_eq_true covered, ?_⟩
    rintro set rfl
    exact LayerTemplate.format_of_supports (decide_eq_true covered)
  format_eq_error := by
    intro role layer reason unknown
    rw [format, unknown]
    rfl

/-- A backend cannot be built exactly if two offers share a slot, and then the first
    conflict is named. Otherwise it answers as its templates say. -/
theorem build_conflicts_or_answers (name : String) (dialect : Dialect)
    (templates : List Template) :
    ((∃ reason, build name dialect templates = .error reason) ↔
      ¬ ((templates.flatMap Template.offers).map Offer.slot).Nodup) ∧
    (∀ reason, build name dialect templates = .error reason ↔
      ∃ first second, Offer.IsFirstConflict (templates.flatMap Template.offers) first second ∧
        reason =
          .conflictingTemplates name second.role second.kind first.template second.template) ∧
    ∀ backend, build name dialect templates = .ok backend →
      backend.name = name ∧ backend.dialect = dialect ∧ backend.Answers templates := by
  refine ⟨⟨?_, ?_⟩, fun _ => build_eq_error_iff, ?_⟩
  · rintro ⟨reason, failed⟩ distinct
    rw [build_eq_ok_of_nodup distinct] at failed
    cases failed
  · intro repeated
    cases result : build name dialect templates with
    | error reason => exact ⟨reason, rfl⟩
    | ok backend =>
        obtain ⟨-, -, rfl⟩ := build_eq_ok_iff.mp result
        exact absurd backend.distinct repeated
  · intro backend built
    obtain ⟨rfl, rfl, rfl⟩ := build_eq_ok_iff.mp built
    exact ⟨rfl, rfl, backend.answers⟩

/-- A template that declares a kind twice is in conflict with itself. -/
example (format : Layer → Except CodegenError String) :
    build "b" .vivado
        [{ name := "t", role := .call, kinds := [.dense, .dense], format := format }] =
      .error (.conflictingTemplates "b" .call .dense "t" "t") := rfl

end Backend

end HlsEmit

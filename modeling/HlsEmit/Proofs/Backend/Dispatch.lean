import HlsEmit.Proofs.Backend.Sheets
import HlsEmit.Project
import Mathlib.Data.List.Nodup

/-! # Which template formats a layer

The templates of a backend share no slot, so the template that covers a kind in a
role is found wherever it stands. On a backend with all families of a dialect this
is the template of a sheet, and its text is that of the segments of the sheet, under
the default parameters of the layer as the derivations rewrite them.
-/

namespace HlsEmit

theorem Template.slot_mem_offers {template : Template} {role : Role} {kind : LayerKind} :
    (role, kind) ∈ template.offers.map Offer.slot ↔
      template.role = role ∧ kind ∈ template.kinds := by
  simp only [offers, List.map_map, List.mem_map, Function.comp_apply, Offer.slot, Prod.mk.injEq]
  constructor
  · rintro ⟨other, covered, same, rfl⟩
    exact ⟨same, covered⟩
  · rintro ⟨same, covered⟩
    exact ⟨kind, covered, same, rfl⟩

namespace Backend

variable {backend : Backend} {role : Role} {kind : LayerKind} {layer : Layer}

theorem eq_of_shared_slot {template other : Template} (member : template ∈ backend.templates)
    (inside : other ∈ backend.templates) (same : template.role = other.role)
    (covered : kind ∈ template.kinds) (also : kind ∈ other.kinds) : template = other := by
  have distinct := backend.distinct
  rw [List.map_flatMap, List.nodup_flatMap] at distinct
  have symmetric : Std.Symm
      (Function.onFun List.Disjoint fun other : Template => other.offers.map Offer.slot) :=
    ⟨fun _ _ apart _ left right => apart right left⟩
  by_contra differ
  have disjoint := distinct.2.forall member inside differ
  exact disjoint (Template.slot_mem_offers.mpr ⟨same, covered⟩)
    (Template.slot_mem_offers.mpr ⟨rfl, also⟩)

theorem template?_eq_some_iff {template : Template} :
    backend.template? role kind = some template ↔
      template ∈ backend.templates ∧ template.role = role ∧ kind ∈ template.kinds := by
  have covers : ∀ other : Template, (decide (other.role = role) && other.supports kind) = true ↔
      other.role = role ∧ kind ∈ other.kinds := by
    intro other
    simp [Template.supports]
  rw [template?]
  constructor
  · intro found
    have holds := List.find?_some found
    exact ⟨List.mem_of_find?_eq_some found, (covers template).mp holds⟩
  · rintro ⟨member, ofRole, covered⟩
    cases found : backend.templates.find? fun template =>
        decide (template.role = role) && template.supports kind with
    | none =>
        exact absurd ((covers template).mpr ⟨ofRole, covered⟩)
          (List.find?_eq_none.mp found template member)
    | some other =>
        have holds := List.find?_some found
        obtain ⟨otherRole, also⟩ := (covers other).mp holds
        have inside : other ∈ backend.templates := List.mem_of_find?_eq_some found
        rw [eq_of_shared_slot inside member (otherRole.trans ofRole.symm) also covered]

theorem format_of_mem {template : Template} (member : template ∈ backend.templates)
    (covered : layer.kind ∈ template.kinds) :
    backend.format template.role layer = template.format layer := by
  have found := template?_eq_some_iff.mpr ⟨member, rfl, covered⟩
  rw [format, Backend.template, found]
  rfl

theorem supports_iff : backend.supports role kind = true ↔
    ∃ template ∈ backend.templates, template.role = role ∧ kind ∈ template.kinds := by
  rw [supports, Option.isSome_iff_exists]
  simp only [template?_eq_some_iff]

theorem format_of_not_supports (unsupported : backend.supports role layer.kind = false) :
    backend.format role layer =
      .error (.unknownKind layer.kind s!"{backend.name}:{role.name}") := by
  rw [supports, Option.isSome_eq_false_iff, Option.isNone_iff_eq_none] at unsupported
  rw [format, template, unsupported]
  rfl

theorem supports_of_format {text : String} (formatted : backend.format role layer = .ok text) :
    backend.supports role layer.kind = true := by
  rw [format, Backend.template] at formatted
  cases found : backend.template? role layer.kind with
  | none =>
      rw [found] at formatted
      cases formatted
  | some template => rw [supports, found, Option.isSome_some]

end Backend

namespace Sheet

variable {sheet : Sheet} {layer : Layer}

/-- The values that a layer has for the body of its kind. -/
def Gives (sheet : Sheet) (layer : Layer) (params : Params) : Prop :=
  Derivation.Run sheet.spec.context layer sheet.spec.derivations
    (Params.defaults sheet.spec.role layer) params

theorem format_template (covered : layer.kind ∈ sheet.spec.family.kinds) :
    sheet.template.format layer = (sheet.template.derive layer).bind fun params =>
      (TemplateBody.render ⟨sheet.segments layer.kind⟩ params).mapError fun placeholder =>
        .missingParameter placeholder layer.kind sheet.spec.name := by
  have supported : sheet.template.supports layer.kind = true := decide_eq_true covered
  have body : sheet.template.bodyFor layer.kind =
      .ok (TemplateBody.normalize (sheet.segments layer.kind)) := by
    simp [LayerTemplate.bodyFor, template, TemplateSpec.templateOf, TemplateSpec.lookup_map,
      covered]
  simp only [LayerTemplate.format, supported, body, bind, Except.bind,
    TemplateBody.render_normalize]
  rfl

theorem derive_eq_ok_iff {params : Params} :
    sheet.template.derive layer = .ok params ↔ sheet.Gives layer params :=
  Derivation.foldlM_eq_ok_iff

theorem format_eq_ok_iff (covered : layer.kind ∈ sheet.spec.family.kinds) {text : String} :
    sheet.template.format layer = .ok text ↔ ∃ params, sheet.Gives layer params ∧
      TemplateBody.render ⟨sheet.segments layer.kind⟩ params = .ok text := by
  rw [format_template covered]
  constructor
  · intro formatted
    obtain ⟨params, derived, rendered⟩ := Outcome.bind_eq_ok_iff.mp formatted
    refine ⟨params, derive_eq_ok_iff.mp derived, ?_⟩
    cases result : TemplateBody.render ⟨sheet.segments layer.kind⟩ params with
    | ok other =>
        rw [result] at rendered
        obtain rfl : other = text := Except.ok.inj rendered
        rfl
    | error placeholder =>
        rw [result] at rendered
        cases rendered
  · rintro ⟨params, given, rendered⟩
    apply Outcome.bind_eq_ok_iff.mpr
    exact ⟨params, derive_eq_ok_iff.mpr given, by rw [rendered]; rfl⟩

/-- Formatting fails in a derivation or at a placeholder without a value. -/
theorem format_eq_error_cases (covered : layer.kind ∈ sheet.spec.family.kinds)
    {reason : CodegenError} (failed : sheet.template.format layer = .error reason) :
    (∃ d ∈ sheet.spec.derivations, ∃ params,
        d.apply sheet.spec.context layer params = .error reason) ∨
      ∃ params placeholder, sheet.Gives layer params ∧
        .placeholder placeholder ∈ sheet.segments layer.kind ∧
        params.contains placeholder = false ∧
        reason = .missingParameter placeholder layer.kind sheet.spec.name := by
  rw [format_template covered] at failed
  rcases Outcome.bind_eq_error_iff.mp failed with refused | ⟨params, derived, rendering⟩
  · obtain ⟨before, d, after, reached, shape, _, fails⟩ :=
      Derivation.foldlM_eq_error_iff.mp refused
    have member : d ∈ sheet.spec.derivations := by
      change sheet.spec.derivations = _ at shape
      rw [shape]
      simp
    exact .inl ⟨d, member, reached, fails⟩
  · obtain ⟨placeholder, missing, rfl⟩ := Outcome.mapError_eq_error_iff.mp rendering
    obtain ⟨listed, absent⟩ := TemplateBody.missing_of_render missing
    exact .inr ⟨params, placeholder, derive_eq_ok_iff.mp derived,
      (TemplateBody.mem_placeholders_iff _ _).mp listed, absent, rfl⟩

end Sheet

namespace Backend

variable {name : String} {dialect : Dialect} {role : Role} {layer : Layer} {text : String}

theorem format_of_sheet {sheet : Sheet} (member : sheet ∈ dialect.sheets name)
    (covered : layer.kind ∈ sheet.spec.family.kinds) :
    (ofDialect name dialect).format sheet.spec.role layer = sheet.template.format layer := by
  have inside : sheet.template.toTemplate ∈ (ofDialect name dialect).templates :=
    List.mem_map_of_mem member
  exact format_of_mem inside covered

theorem exists_sheet_of_supports {kind : LayerKind}
    (supported : (ofDialect name dialect).supports role kind = true) :
    ∃ sheet ∈ dialect.sheets name, sheet.spec.role = role ∧
      kind ∈ sheet.spec.family.kinds := by
  obtain ⟨template, member, ofRole, covered⟩ := supports_iff.mp supported
  obtain ⟨sheet, inside, rfl⟩ := List.mem_map.mp member
  exact ⟨sheet, inside, ofRole, covered⟩

/-- A layer that is formatted has a sheet whose segments make its text. -/
theorem exists_sheet_of_format (formatted : (ofDialect name dialect).format role layer = .ok text) :
    ∃ sheet ∈ dialect.sheets name, sheet.spec.role = role ∧
      layer.kind ∈ sheet.spec.family.kinds ∧ ∃ params, sheet.Gives layer params ∧
        TemplateBody.render ⟨sheet.segments layer.kind⟩ params = .ok text := by
  obtain ⟨sheet, member, rfl, covered⟩ := exists_sheet_of_supports (supports_of_format formatted)
  rw [format_of_sheet member covered] at formatted
  exact ⟨sheet, member, rfl, covered, (Sheet.format_eq_ok_iff covered).mp formatted⟩

/-- Two layers of one kind have the same outcome if they have it on every sheet of the role. -/
theorem format_congr {other : Layer} (kind : other.kind = layer.kind)
    (each : ∀ sheet ∈ dialect.sheets name, sheet.spec.role = role →
      layer.kind ∈ sheet.spec.family.kinds →
      sheet.template.format other = sheet.template.format layer) :
    (ofDialect name dialect).format role other = (ofDialect name dialect).format role layer := by
  cases supported : (ofDialect name dialect).supports role layer.kind with
  | false =>
      rw [format_of_not_supports supported, format_of_not_supports (kind ▸ supported), kind]
  | true =>
      obtain ⟨sheet, member, rfl, covered⟩ := exists_sheet_of_supports supported
      rw [format_of_sheet member covered, format_of_sheet member (kind ▸ covered)]
      exact each sheet member rfl covered

end Backend

end HlsEmit

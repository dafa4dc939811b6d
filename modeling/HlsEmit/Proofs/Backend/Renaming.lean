import HlsEmit.Proofs.Backend.Dispatch

/-! # Backends of one dialect under different names

The name of a backend is told to the templates and to the derivations, and both put it
only into errors. So a backend of a dialect generates what the nameless backend of that
dialect generates, and fails where that one fails, with its own name in front of the names
in the error. The two dialects for channels last have the same sheets for configurations
and calls.
-/

namespace HlsEmit

namespace CodegenError

/-- The error with a text in front of every name of a backend or a template. -/
def named (name : String) : CodegenError → CodegenError
  | unknownKind kind template => .unknownKind kind (name ++ template)
  | missingTemplateBody kind template => .missingTemplateBody kind (name ++ template)
  | missingParameter placeholder kind template =>
      .missingParameter placeholder kind (name ++ template)
  | unboundPlaceholder placeholder kind template =>
      .unboundPlaceholder placeholder kind (name ++ template)
  | malformedTemplate template reason => .malformedTemplate (name ++ template) reason
  | unsupportedLayout layout backend layer => .unsupportedLayout layout (name ++ backend) layer
  | conflictingTemplates backend role kind first second =>
      .conflictingTemplates (name ++ backend) role kind (name ++ first) (name ++ second)
  | backendNotFound backend known => .backendNotFound (name ++ backend) known
  | duplicateBackend backend => .duplicateBackend (name ++ backend)
  | invalidAttribute layer attr reason => .invalidAttribute layer attr reason

end CodegenError

/-- The outcomes are the same value, or errors that differ only where the first names the
    backend `a` and the second the backend `b`. -/
inductive SameUpToName {α : Type} (a b : String) :
    Except CodegenError α → Except CodegenError α → Prop
  | value (v : α) : SameUpToName a b (.ok v) (.ok v)
  | error (reason : CodegenError) :
      SameUpToName a b (.error (reason.named a)) (.error (reason.named b))

theorem sameUpToName_mapError {α : Type} (a b : String) (x : Except CodegenError α) :
    SameUpToName a b (x.mapError (.named a)) (x.mapError (.named b)) := by
  cases x with
  | ok v => exact .value v
  | error reason => exact .error reason

theorem mapError_named_of_invalid {α : Type} (name : String) {x : Except CodegenError α}
    {layer : String} (invalid : ∀ reason, x = .error reason →
      ∃ attr why, reason = .invalidAttribute layer attr why) : x = x.mapError (.named name) := by
  cases x with
  | ok v => rfl
  | error reason =>
      obtain ⟨attr, why, rfl⟩ := invalid reason rfl
      rfl

/-- A derivation is told names, and puts them only into errors. -/
theorem Dialect.Derives.apply_eq_mapError {dialect : Dialect} {family : LayerFamily} {role : Role}
    {d : Derivation} (derives : dialect.Derives family role d) (name template nameless : String)
    (layer : Layer) (params : Params) : d.apply ⟨name, template⟩ layer params =
      (d.apply ⟨"", nameless⟩ layer params).mapError (.named name) := by
  cases derives with
  | layout =>
      have last : Layout.channelsLastOnly.apply ⟨name, template⟩ layer params =
          (Layout.channelsLastOnly.apply ⟨"", nameless⟩ layer params).mapError (.named name) := by
        simp only [Layout.channelsLastOnly, Derivation.writing]
        by_cases first : layer.channelsFirst = true
        · simp [first, Except.map, Except.mapError, CodegenError.named]
        · simp [first, Except.map, Except.mapError]
      cases dialect with
      | vivado => rfl
      | quartus | oneApi => exact last
  | sparsity =>
      exact mapError_named_of_invalid name fun _ => Dense.sparsity_eq_error
  | strategy =>
      exact mapError_named_of_invalid name fun _ => Dense.strategy_eq_error
  | filterSlots | implementation | weightNames | activationName => rfl

namespace Sheet

/-- The sheet for a backend of another name. -/
def under (name : String) (sheet : Sheet) : Sheet :=
  { sheet with spec := { sheet.spec with backend := name } }

theorem name_under (name : String) (sheet : Sheet) :
    (sheet.under name).spec.name = name ++ (sheet.under "").spec.name := by
  simp only [under, TemplateSpec.name, toString, String.append_assoc, String.empty_append]

theorem derive_under {dialect : Dialect} {sheet : Sheet} (made : sheet.IsOf dialect)
    (name : String) (layer : Layer) : (sheet.under name).template.derive layer =
      ((sheet.under "").template.derive layer).mapError (.named name) := by
  apply Outcome.foldlM_eq_mapError
  intro d member params
  exact (made.derives d member).apply_eq_mapError _ _ _ layer params

theorem format_under {dialect : Dialect} {sheet : Sheet} (made : sheet.IsOf dialect)
    (name : String) {layer : Layer} (covered : layer.kind ∈ sheet.spec.family.kinds) :
    (sheet.under name).template.format layer =
      ((sheet.under "").template.format layer).mapError (.named name) := by
  rw [@format_template (sheet.under name) layer covered,
    @format_template (sheet.under "") layer covered, Outcome.mapError_bind,
    derive_under made name layer]
  congr
  funext params
  rw [Outcome.mapError_mapError, name_under name]
  rfl

end Sheet

/-- The sheet of a dialect for a kind in a role, for no backend in particular. -/
def Dialect.sheet? (dialect : Dialect) (role : Role) (kind : LayerKind) : Option Sheet :=
  (dialect.sheets "").find? fun sheet => sheet.spec.role = role && kind ∈ sheet.spec.family.kinds

/-- The dialects for channels last differ in the sheets of stages only. -/
theorem Dialect.sheet?_quartus {role : Role} (plain : role = .config ∨ role = .call)
    (kind : LayerKind) : Dialect.quartus.sheet? role kind = Dialect.oneApi.sheet? role kind := by
  have sheets : Dialect.quartus.sheets "" = (Dialect.oneApi.sheets "").filter fun sheet =>
      sheet.spec.role = .config || sheet.spec.role = .call := rfl
  rw [sheet?, sheet?, sheets, List.find?_filter]
  congr
  funext sheet
  by_cases same : sheet.spec.role = role
  · rcases plain with rfl | rfl <;> simp [same]
  · simp [same]

namespace Backend

variable {role : Role} {layer : Layer}

theorem template?_ofDialect (name : String) (dialect : Dialect) (role : Role) (kind : LayerKind) :
    (ofDialect name dialect).template? role kind =
      (dialect.sheet? role kind).map fun sheet => (sheet.under name).template.toTemplate := by
  have templates : (ofDialect name dialect).templates =
      (dialect.sheets "").map fun sheet => (sheet.under name).template.toTemplate := by
    change (dialect.sheets name).map (fun sheet => sheet.template.toTemplate) = _
    rw [Dialect.sheets_eq_map, List.map_map]
    rfl
  rw [template?, templates, List.find?_map]
  rfl

theorem format_eq_mapError {dialect other : Dialect} (name : String)
    (same : dialect.sheet? role layer.kind = other.sheet? role layer.kind) :
    (ofDialect name dialect).format role layer =
      ((ofDialect "" other).format role layer).mapError (.named name) := by
  simp only [format, Backend.template, template?_ofDialect, same]
  cases found : other.sheet? role layer.kind with
  | none =>
      have named : name ++ ":" ++ role.name = name ++ ("" ++ ":" ++ role.name) := by
        rw [String.empty_append, String.append_assoc]
      exact congrArg (fun text => Except.error (CodegenError.unknownKind layer.kind text)) named
  | some sheet =>
      have member := List.mem_of_find?_eq_some found
      have holds : sheet.spec.role = role ∧ layer.kind ∈ sheet.spec.family.kinds := by
        simpa using List.find?_some found
      exact Sheet.format_under (other.isOf_sheets "" sheet member) name holds.2

theorem includeHeaders_ofDialect (name : String) (dialect : Dialect) (kind : LayerKind) :
    (ofDialect name dialect).includeHeaders kind = (ofDialect "" dialect).includeHeaders kind := by
  have headers : ∀ role,
      ((ofDialect name dialect).template? role kind).map Template.includes =
        ((ofDialect "" dialect).template? role kind).map Template.includes := by
    intro role
    rw [template?_ofDialect, template?_ofDialect, Option.map_map, Option.map_map]
    rfl
  rw [includeHeaders, includeHeaders]
  simp only [headers]

theorem emitLayer_eq_mapError (name : String) (dialect : Dialect) (layer : Layer) :
    (ofDialect name dialect).emitLayer layer =
      ((ofDialect "" dialect).emitLayer layer).mapError (.named name) := by
  rw [emitLayer, emitLayer, includeHeaders_ofDialect]
  apply Outcome.foldlM_eq_mapError
  intro role _ source
  rw [format_eq_mapError name rfl, Outcome.mapError_map]

/-- Backends of one dialect emit the same code, and fail alike but for their names. So do
    the dialects for channels last in configurations and calls. -/
theorem emitted_sameUpToName (a b : String) :
    (∀ dialect, ∃ first second, withFamilies a dialect = .ok first ∧
      withFamilies b dialect = .ok second ∧
        ∀ layer, SameUpToName a b (first.emitLayer layer) (second.emitLayer layer)) ∧
    ∃ quartus oneApi, withFamilies a .quartus = .ok quartus ∧
      withFamilies b .oneApi = .ok oneApi ∧
        ∀ role, role = .config ∨ role = .call → ∀ layer,
          SameUpToName a b (quartus.format role layer) (oneApi.format role layer) := by
  constructor
  · intro dialect
    refine ⟨_, _, withFamilies_eq_ok a dialect, withFamilies_eq_ok b dialect, ?_⟩
    intro layer
    rw [emitLayer_eq_mapError a, emitLayer_eq_mapError b]
    exact sameUpToName_mapError a b _
  · refine ⟨_, _, withFamilies_eq_ok a .quartus, withFamilies_eq_ok b .oneApi, ?_⟩
    intro role plain layer
    rw [format_eq_mapError a (Dialect.sheet?_quartus plain layer.kind),
      @format_eq_mapError role layer .oneApi .oneApi b rfl]
    exact sameUpToName_mapError a b _

end Backend

end HlsEmit

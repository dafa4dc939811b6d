import HlsEmit.Backend.Builtin
import HlsEmit.Proofs.Template.Construction

/-! # The built-in backends exist

Every built-in specification is written from segments, and its placeholders are
bound. So the backend of a dialect can be built under any name, and its templates
are known.
-/

namespace HlsEmit

/-- A specification and the segments of its bodies. -/
structure Sheet where
  spec : TemplateSpec
  segments : LayerKind → List Segment

namespace Sheet

/-- The template of the sheet. -/
def template (sheet : Sheet) : LayerTemplate := sheet.spec.templateOf sheet.segments

/-- The sheet can be built. -/
structure IsSound (sheet : Sheet) : Prop where
  written : sheet.spec.IsWritten sheet.segments
  bound : sheet.spec.IsBound sheet.segments

theorem build_of_isSound {sheet : Sheet} (sound : sheet.IsSound) :
    sheet.spec.build = .ok sheet.template :=
  TemplateSpec.build_of_isWritten sound.written sound.bound

/-- A family has two sheets in every dialect, and two more where stages exist. -/
theorem forall_of_dataflow {p : Sheet → Prop} {dialect : Dialect} {config call stage start : Sheet}
    (configHolds : p config) (callHolds : p call) (stageHolds : p stage) (startHolds : p start) :
    ∀ sheet ∈ [config, call] ++ if dialect.hasDataflow then [stage, start] else [], p sheet := by
  intro sheet member
  rcases List.mem_append.mp member with always | staged
  · simp only [List.mem_cons, List.not_mem_nil, or_false] at always
    rcases always with rfl | rfl
    · exact configHolds
    · exact callHolds
  · split at staged
    · simp only [List.mem_cons, List.not_mem_nil, or_false] at staged
      rcases staged with rfl | rfl
      · exact stageHolds
      · exact startHolds
    · cases staged

end Sheet

namespace Pooling

/-- The sheets of the family. -/
def sheets (backend : String) (dialect : Dialect) : List Sheet :=
  [⟨configSpec backend dialect, fun kind => (config dialect kind).segments⟩,
    ⟨callSpec backend dialect, fun kind => Invocation.callSegments (operation kind) []⟩] ++
  if dialect.hasDataflow then
    [⟨stageSpec backend dialect, fun kind => Invocation.stageSegments (operation kind)⟩,
      ⟨startSpec backend, fun _ => Invocation.startSegments⟩]
  else []

theorem isWritten_sheets (backend : String) (dialect : Dialect) :
    ∀ sheet ∈ sheets backend dialect, sheet.spec.IsWritten sheet.segments := by
  have config : (configSpec backend dialect).IsWritten fun kind =>
      (config dialect kind).segments := by
    cases dialect <;> exact .own rfl rfl
  have call : (callSpec backend dialect).IsWritten fun kind =>
      Invocation.callSegments (operation kind) [] := .own rfl rfl
  have stage : (stageSpec backend dialect).IsWritten fun kind =>
      Invocation.stageSegments (operation kind) := .own rfl rfl
  have start : (startSpec backend).IsWritten fun _ => Invocation.startSegments :=
    .shared rfl rfl (List.cons_ne_nil _ _) fun _ _ => rfl
  exact Sheet.forall_of_dataflow config call stage start

end Pooling

namespace Dense

/-- The sheets of the family. -/
def sheets (backend : String) (dialect : Dialect) : List Sheet :=
  [⟨configSpec backend dialect, fun _ => (config dialect).segments⟩,
    ⟨callSpec backend dialect, fun _ => Invocation.callSegments (operation dialect) ["w", "b"]⟩] ++
  if dialect.hasDataflow then
    [⟨stageSpec backend dialect, fun _ => Invocation.stageSegments (operation dialect)⟩,
      ⟨startSpec backend, fun _ => Invocation.startWithSegments "w" "b"⟩]
  else []

theorem isWritten_sheets (backend : String) (dialect : Dialect) :
    ∀ sheet ∈ sheets backend dialect, sheet.spec.IsWritten sheet.segments := by
  have config : (configSpec backend dialect).IsWritten fun _ => (config dialect).segments :=
    .shared rfl rfl (List.cons_ne_nil _ _) fun _ _ => rfl
  have call : (callSpec backend dialect).IsWritten fun _ =>
      Invocation.callSegments (operation dialect) ["w", "b"] :=
    .shared rfl rfl (List.cons_ne_nil _ _) fun _ _ => rfl
  have stage : (stageSpec backend dialect).IsWritten fun _ =>
      Invocation.stageSegments (operation dialect) :=
    .shared rfl rfl (List.cons_ne_nil _ _) fun _ _ => rfl
  have start : (startSpec backend).IsWritten fun _ => Invocation.startWithSegments "w" "b" :=
    .shared rfl rfl (List.cons_ne_nil _ _) fun _ _ => rfl
  exact Sheet.forall_of_dataflow config call stage start

end Dense

namespace Activation

/-- The sheets of the family. -/
def sheets (backend : String) (dialect : Dialect) : List Sheet :=
  [⟨configSpec backend dialect, fun kind => (config dialect kind).segments⟩,
    ⟨callSpec backend, fun _ => Invocation.callSegments operation []⟩] ++
  if dialect.hasDataflow then
    [⟨stageSpec backend, fun _ => Invocation.stageSegments operation⟩,
      ⟨startSpec backend, fun _ => Invocation.startSegments⟩]
  else []

theorem isWritten_sheets (backend : String) (dialect : Dialect) :
    ∀ sheet ∈ sheets backend dialect, sheet.spec.IsWritten sheet.segments := by
  have config : (configSpec backend dialect).IsWritten fun kind =>
      (config dialect kind).segments := .own rfl rfl
  have call : (callSpec backend).IsWritten fun _ => Invocation.callSegments operation [] :=
    .shared rfl rfl (List.cons_ne_nil _ _) fun _ _ => rfl
  have stage : (stageSpec backend).IsWritten fun _ => Invocation.stageSegments operation :=
    .shared rfl rfl (List.cons_ne_nil _ _) fun _ _ => rfl
  have start : (startSpec backend).IsWritten fun _ => Invocation.startSegments :=
    .shared rfl rfl (List.cons_ne_nil _ _) fun _ _ => rfl
  exact Sheet.forall_of_dataflow config call stage start

end Activation

namespace Dialect

/-- The sheets of every family in the dialect. -/
def sheets (backend : String) (dialect : Dialect) : List Sheet :=
  Pooling.sheets backend dialect ++ Dense.sheets backend dialect ++
  Activation.sheets backend dialect

theorem map_spec_sheets (backend : String) (dialect : Dialect) :
    (dialect.sheets backend).map Sheet.spec = dialect.specs backend := by
  cases dialect <;> rfl

theorem sheets_eq_map (backend : String) (dialect : Dialect) : dialect.sheets backend =
    (dialect.sheets "").map fun sheet =>
      { sheet with spec := { sheet.spec with backend := backend } } := by
  cases dialect <;> rfl

theorem isBound_sheets (backend : String) (dialect : Dialect) :
    ∀ sheet ∈ dialect.sheets backend, sheet.spec.IsBound sheet.segments := by
  have nameless : ∀ sheet ∈ dialect.sheets "", sheet.spec.IsBound sheet.segments := by
    cases dialect <;> decide
  rw [sheets_eq_map]
  intro sheet member
  obtain ⟨other, inside, rfl⟩ := List.mem_map.mp member
  exact (nameless other inside).withBackend backend

theorem isWritten_sheets (backend : String) (dialect : Dialect) :
    ∀ sheet ∈ dialect.sheets backend, sheet.spec.IsWritten sheet.segments := by
  intro sheet member
  simp only [sheets, List.mem_append] at member
  rcases member with (pooling | dense) | activation
  · exact Pooling.isWritten_sheets backend dialect sheet pooling
  · exact Dense.isWritten_sheets backend dialect sheet dense
  · exact Activation.isWritten_sheets backend dialect sheet activation

/-- Every specification of a dialect can be built, for a backend of any name. -/
theorem build_specs (backend : String) (dialect : Dialect) :
    (dialect.specs backend).mapM TemplateSpec.build =
      .ok ((dialect.sheets backend).map Sheet.template) := by
  rw [← map_spec_sheets, List.mapM_map]
  apply Outcome.mapM_eq_ok_map
  intro sheet member
  exact Sheet.build_of_isSound
    ⟨isWritten_sheets backend dialect sheet member, isBound_sheets backend dialect sheet member⟩

/-- The templates of the dialect, family by family. -/
def templates (backend : String) (dialect : Dialect) : List Template :=
  (dialect.sheets backend).map fun sheet => sheet.template.toTemplate

/-- The slots of a template do not depend on the name of its backend. -/
theorem nodup_slots (backend : String) (dialect : Dialect) :
    (((dialect.templates backend).flatMap Template.offers).map Offer.slot).Nodup := by
  have nameless : ((dialect.templates backend).flatMap Template.offers).map Offer.slot =
      ((dialect.templates "").flatMap Template.offers).map Offer.slot := by
    cases dialect <;> rfl
  rw [nameless]
  cases dialect <;> decide

end Dialect

namespace Backend

/-- The backend with every family of the dialect. -/
def ofDialect (name : String) (dialect : Dialect) : Backend :=
  ⟨name, dialect, dialect.templates name, dialect.nodup_slots name⟩

theorem build_eq_ok_of_nodup {name : String} {dialect : Dialect} {templates : List Template}
    (distinct : ((templates.flatMap Template.offers).map Offer.slot).Nodup) :
    Backend.build name dialect templates = .ok ⟨name, dialect, templates, distinct⟩ := by
  have free : Offer.conflict? [] (templates.flatMap Template.offers) = none :=
    (Offer.conflict?_eq_none_iff _ _).mpr ⟨distinct, fun _ _ _ held => nomatch held⟩
  unfold build
  split
  · rename_i taken
    rw [free] at taken
    cases taken
  · rfl

theorem withFamilies_eq_ok (name : String) (dialect : Dialect) :
    Backend.withFamilies name dialect = .ok (ofDialect name dialect) := by
  have templates : ((dialect.sheets name).map Sheet.template).map LayerTemplate.toTemplate =
      dialect.templates name := List.map_map
  simp only [withFamilies, Dialect.build_specs, bind, Except.bind, templates]
  exact build_eq_ok_of_nodup (dialect.nodup_slots name)

end Backend

theorem Builtin.backend_eq_ok (builtin : Builtin) :
    builtin.backend = .ok (Backend.ofDialect builtin.name builtin.dialect) :=
  Backend.withFamilies_eq_ok builtin.name builtin.dialect

end HlsEmit

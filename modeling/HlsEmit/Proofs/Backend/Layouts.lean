import HlsEmit.Proofs.Backend.Completeness
import HlsEmit.Proofs.Backend.Confinement
import HlsEmit.Proofs.Project.OwnNames
import HlsEmit.Proofs.Template.Precedence

/-! # Layouts of pooling layers

The kernel of a pooling layer is named after the order of its channels. A dialect
without kernels for channels first refuses such a layer before it looks at anything
else, and every other layer gets the kernel for channels last. The order matters to
the calls and the stages only: the struct and the start of a stage are the same for
all layers that differ in nothing else.
-/

namespace HlsEmit

/-- The layer says that its channels come first. -/
def Layer.IsChannelsFirst (layer : Layer) : Prop :=
  layer.attribute? "data_format" = some (.text "channels_first")

instance (layer : Layer) : Decidable layer.IsChannelsFirst :=
  inferInstanceAs (Decidable (layer.attribute? "data_format" = some (.text "channels_first")))

theorem Layer.channelsFirst_iff (layer : Layer) :
    layer.channelsFirst = true ↔ layer.IsChannelsFirst := by
  rw [channelsFirst, decide_eq_true_iff, text?_eq_some_iff, IsChannelsFirst]

namespace Layout

/-- The order of channels in the name of the kernel, where the dialect has one. -/
def order? (dialect : Dialect) (layer : Layer) : Option String :=
  if layer.IsChannelsFirst then if dialect = .vivado then some "cf" else none else some "cl"

theorem derivation_apply (dialect : Dialect) (context : DeriveContext) (layer : Layer)
    (params : Params) : (derivation dialect).apply context layer params =
      match order? dialect layer with
      | some order => .ok (params.insertAll [("data_format", order)])
      | none => .error (.unsupportedLayout "channels_first" context.backend layer.name) := by
  have first := layer.channelsFirst_iff
  by_cases said : layer.IsChannelsFirst
  · cases dialect <;>
      simp [derivation, channelFormat, channelsLastOnly, Derivation.writing, order?, first.mpr said,
        said, Except.map]
  · have last : layer.channelsFirst = false := Bool.eq_false_iff.mpr fun holds =>
      said (first.mp holds)
    cases dialect <;>
      simp [derivation, channelFormat, channelsLastOnly, Derivation.writing, order?, last, said,
        Except.map]

end Layout

theorem Dense.family_of_mem (backend : String) (dialect : Dialect) :
    ∀ sheet ∈ sheets backend dialect, sheet.spec.family = family :=
  Sheet.forall_of_dataflow rfl rfl rfl rfl

theorem Activation.family_of_mem (backend : String) (dialect : Dialect) :
    ∀ sheet ∈ sheets backend dialect, sheet.spec.family = family :=
  Sheet.forall_of_dataflow rfl rfl rfl rfl

namespace Pooling

/-- The kernel of a kind for an order of channels. -/
def kernel (kind : LayerKind) (order : String) : String :=
  match kind with
  | .pooling1D => "pooling1d_" ++ order
  | .pooling2D => "pooling2d_" ++ order
  | .globalPooling1D => "global_pooling1d_" ++ order
  | _ => "global_pooling2d_" ++ order

/-- The text of a role uses the kernel for that order. -/
def Uses (kind : LayerKind) (order : String) : Role → String → Prop
  | .call, text => ∃ rest, text = "nnet::" ++ kernel kind order ++ "<" ++ rest
  | .taskSequence, text =>
      ∃ rest, text = "task_sequence<nnet::" ++ kernel kind order ++ "_stream<" ++ rest
  | _, _ => False

theorem exists_kernel_eq (kind : LayerKind) :
    ∃ stem, ∀ order, kernel kind order = stem ++ order := by
  cases kind <;> exact ⟨_, fun _ => rfl⟩

theorem join_operation (kind : LayerKind) (values : String → String) :
    String.join ((operation kind).map (Segment.textWith values)) =
      kernel kind (values "data_format") := by
  cases kind <;> simp [operation, Segment.textWith] <;> rfl

/-- The kernels for both orders cannot be confused. -/
theorem not_uses_both {kind : LayerKind} {text : String} (first : Uses kind "cf" .call text) :
    ¬ Uses kind "cl" .call text := by
  rintro ⟨last, shape⟩
  obtain ⟨rest, rfl⟩ := first
  obtain ⟨stem, named⟩ := exists_kernel_eq kind
  rw [named, named] at shape
  have letters := congrArg String.toList shape
  simp [String.toList_append] at letters

/-- How the sheets that name the kernel are made. -/
structure NamesKernel (dialect : Dialect) (sheet : Sheet) : Prop where
  derivations : sheet.spec.derivations = [Layout.derivation dialect]
  segments : ∀ kind,
    sheet.spec.role = .call ∧ sheet.segments kind = Invocation.callSegments (operation kind) [] ∨
    sheet.spec.role = .taskSequence ∧
      sheet.segments kind = Invocation.stageSegments (operation kind)

/-- How the sheets that do not name it are made. -/
structure IsIndifferent (sheet : Sheet) : Prop where
  role : sheet.spec.role = .config ∨ sheet.spec.role = .streamCall
  derivations : ∀ d ∈ sheet.spec.derivations, d = filterSlots ∨ d = implementation
  unused : ∀ kind ∈ family.kinds, .placeholder "data_format" ∉ sheet.segments kind

theorem namesKernel_or_isIndifferent (backend : String) (dialect : Dialect) :
    ∀ sheet ∈ sheets backend dialect, NamesKernel dialect sheet ∨ IsIndifferent sheet := by
  have structs : ∀ kind ∈ family.kinds,
      .placeholder "data_format" ∉ (config dialect kind).segments := by
    cases dialect <;> decide
  have starts : .placeholder "data_format" ∉ Invocation.startSegments := by decide
  apply Sheet.forall_of_dataflow
  · refine .inr ⟨?_, ?_, structs⟩
    · cases dialect <;> exact .inl rfl
    · cases dialect <;> simp [configSpec, TemplateSpec.derive, spec]
  · exact .inl ⟨rfl, fun _ => .inl ⟨rfl, rfl⟩⟩
  · exact .inl ⟨rfl, fun _ => .inr ⟨rfl, rfl⟩⟩
  · exact .inr ⟨.inr rfl, nofun, fun _ _ => starts⟩

theorem mem_sheets {backend : String} {dialect : Dialect} {sheet : Sheet} {kind : LayerKind}
    (pooling : kind ∈ family.kinds) (member : sheet ∈ dialect.sheets backend)
    (covered : kind ∈ sheet.spec.family.kinds) : sheet ∈ sheets backend dialect := by
  simp only [Dialect.sheets, List.mem_append] at member
  rcases member with (inside | dense) | activation
  · exact inside
  · rw [Dense.family_of_mem backend dialect sheet dense] at covered
    exact absurd (Dense.eq_dense_of_mem covered) (family?_of_mem pooling).2
  · rw [Activation.family_of_mem backend dialect sheet activation] at covered
    have both := (family?_of_mem pooling).1.symm.trans (Activation.family?_of_mem covered).1
    exact absurd (congrArg LayerFamily.name (Option.some.inj both)) (by decide)

/-- A sheet whose role names the kernel is made for that. -/
theorem namesKernel_of_invokes {backend : String} {dialect : Dialect} {sheet : Sheet}
    {kind : LayerKind} (pooling : kind ∈ family.kinds) (member : sheet ∈ dialect.sheets backend)
    (covered : kind ∈ sheet.spec.family.kinds)
    (invokes : sheet.spec.role = .call ∨ sheet.spec.role = .taskSequence) :
    NamesKernel dialect sheet := by
  rcases namesKernel_or_isIndifferent backend dialect sheet (mem_sheets pooling member covered) with
    names | indifferent
  · exact names
  · rcases indifferent.role with config | start
    · simp [config] at invokes
    · simp [start] at invokes

theorem supports_call (backend : String) (dialect : Dialect) {kind : LayerKind}
    (pooling : kind ∈ family.kinds) :
    (Backend.ofDialect backend dialect).supports .call kind = true := by
  have inside : ⟨callSpec backend dialect, fun kind =>
      Invocation.callSegments (operation kind) []⟩ ∈ sheets backend dialect :=
    List.mem_append_left _ (.tail _ (.head _))
  have member := List.mem_append_left (Activation.sheets backend dialect)
    (List.mem_append_left (Dense.sheets backend dialect) inside)
  exact Backend.supports_iff.mpr ⟨_, List.mem_map_of_mem member, rfl, pooling⟩

end Pooling

namespace Pooling.NamesKernel

variable {dialect : Dialect} {sheet : Sheet} {layer : Layer}

theorem derive_eq (names : NamesKernel dialect sheet) : sheet.template.derive layer =
      match Layout.order? dialect layer with
      | some order => .ok ((Params.defaults sheet.spec.role layer).insertAll
          [("data_format", order)])
      | none => .error (.unsupportedLayout "channels_first" sheet.spec.backend layer.name) := by
  have alone : sheet.template.derive layer = (Layout.derivation dialect).apply sheet.spec.context
      layer (Params.defaults sheet.spec.role layer) := by
    change sheet.spec.derivations.foldlM _ _ = _
    rw [names.derivations, List.foldlM_cons]
    exact bind_pure _
  rw [alone, Layout.derivation_apply]
  rfl

/-- Where the dialect has no kernel for the order, nothing else is looked at. -/
theorem format_of_none (names : NamesKernel dialect sheet)
    (covered : layer.kind ∈ sheet.spec.family.kinds)
    (lacking : Layout.order? dialect layer = none) :
    sheet.template.format layer =
      .error (.unsupportedLayout "channels_first" sheet.spec.backend layer.name) := by
  rw [Sheet.format_template covered, names.derive_eq, lacking]
  rfl

/-- The kernel has the order that was written over the attribute. -/
theorem uses_of_format (names : NamesKernel dialect sheet)
    (covered : layer.kind ∈ sheet.spec.family.kinds) {order text : String}
    (named : Layout.order? dialect layer = some order)
    (formatted : sheet.template.format layer = .ok text) :
    Uses layer.kind order sheet.spec.role text := by
  obtain ⟨params, given, rendered⟩ := (Sheet.format_eq_ok_iff covered).mp formatted
  have derived := Sheet.derive_eq_ok_iff.mpr given
  rw [names.derive_eq, named] at derived
  obtain rfl := Except.ok.inj derived
  obtain ⟨values, bound, rfl⟩ := TemplateBody.render_eq_ok_iff.mp rendered
  have shown : .placeholder "data_format" ∈ sheet.segments layer.kind →
      values "data_format" = order := by
    intro used
    have found := bound "data_format" used
    rw [Table.find?_insertAll_eq] at found
    exact (Option.some.inj found).symm
  have used : .placeholder "data_format" ∈ operation layer.kind := by
    cases layer.kind <;> decide
  rcases names.segments layer.kind with ⟨role, shape⟩ | ⟨role, shape⟩
  · rw [role, shape, Invocation.join_callSegments, join_operation,
      shown (by simp [shape, Invocation.callSegments, used])]
    apply Exists.intro
    simp only [String.append_assoc]
    rfl
  · rw [role, shape, Invocation.join_stageSegments, join_operation,
      shown (by simp [shape, Invocation.stageSegments, used])]
    apply Exists.intro
    simp only [String.append_assoc]
    rfl

end Pooling.NamesKernel

section Reordered

variable {layer : Layer} {attributes : Table Attribute}
  (agree : ∀ name, name ≠ "data_format" → attributes.find? name = layer.attribute? name)
include agree

theorem Pooling.apply_reordered {d : Derivation}
    (indifferent : d = filterSlots ∨ d = implementation) (context : DeriveContext) :
    d.apply context { layer with attributes } = d.apply context layer := by
  have held : ∀ name, name ≠ "data_format" →
      ({ layer with attributes } : Layer).attribute? name = layer.attribute? name := agree
  rcases indifferent with rfl | rfl
  · simp [filterSlots, Derivation.writing, copied, held]
  · simp [implementation, Derivation.writing, Layer.text?, held]

theorem Pooling.IsIndifferent.format_eq {sheet : Sheet} (indifferent : IsIndifferent sheet)
    (pooling : layer.kind ∈ family.kinds) (covered : layer.kind ∈ sheet.spec.family.kinds) :
    sheet.template.format { layer with attributes } = sheet.template.format layer := by
  refine Sheet.format_congr rfl covered ?_ ?_ ?_
  · intro d member
    rcases indifferent.derivations d member with rfl | rfl
    · exact isWriting_filterSlots.isConfined
    · exact isWriting_implementation.isConfined
  · intro d member
    exact apply_reordered agree (indifferent.derivations d member) sheet.spec.context
  · intro name used
    left
    apply Params.find?_defaults_congr (agree "reuse_factor" (by decide))
    apply agree
    rintro rfl
    exact indifferent.unused layer.kind pooling used

end Reordered

namespace Backend

/-- Channels first are refused wherever the kernel is named. Every other layer gets the
    kernel for channels last. -/
structure IsLastOnly (backend : Backend) (layer : Layer) : Prop where
  call : layer.IsChannelsFirst → backend.format .call layer =
    .error (.unsupportedLayout "channels_first" backend.name layer.name)
  stage : layer.IsChannelsFirst → backend.supports .taskSequence layer.kind = true →
    backend.format .taskSequence layer =
      .error (.unsupportedLayout "channels_first" backend.name layer.name)
  unemitted : layer.IsChannelsFirst →
    ∀ style source, backend.emitLayer { layer with ioStyle := style } ≠ .ok source
  accepts : ¬ layer.IsChannelsFirst → ∀ role, role = .call ∨ role = .taskSequence →
    (∀ order name who, backend.format role layer ≠ .error (.unsupportedLayout order name who)) ∧
    ∀ text, backend.format role layer = .ok text → Pooling.Uses layer.kind "cl" role text

/-- No layer is refused for its layout, and each gets the kernel for its order. -/
structure HasBothOrders (backend : Backend) (layer : Layer) : Prop where
  accepts : ∀ role order name who,
    backend.format role layer ≠ .error (.unsupportedLayout order name who)
  uses : ∀ text, backend.format .call layer = .ok text →
    (Pooling.Uses layer.kind "cf" .call text ↔ layer.IsChannelsFirst) ∧
    (Pooling.Uses layer.kind "cl" .call text ↔ ¬ layer.IsChannelsFirst)

variable {name : String} {dialect : Dialect} {role : Role} {layer : Layer}

/-- A layout is refused by dialects for channels last only, and only if it is the other one. -/
theorem eq_of_unsupportedLayout {order which who : String}
    (refused : (ofDialect name dialect).format role layer =
      .error (.unsupportedLayout order which who)) :
    dialect ≠ .vivado ∧ layer.IsChannelsFirst := by
  cases supported : (ofDialect name dialect).supports role layer.kind with
  | false =>
      rw [format_of_not_supports supported] at refused
      cases refused
  | true =>
      obtain ⟨sheet, member, rfl, covered⟩ := exists_sheet_of_supports supported
      rw [format_of_sheet member covered] at refused
      rcases Sheet.format_eq_error_cases covered refused with
        ⟨d, inside, params, failed⟩ | ⟨_, _, _, _, _, missing⟩
      · have derives := (dialect.isOf_sheets name sheet member).derives d inside
        rcases derives.eq_error_cases failed with ⟨_, differs, _, first, _⟩ | ⟨_, _, _, _, invalid⟩
        · exact ⟨differs, layer.channelsFirst_iff.mp first⟩
        · cases invalid
      · cases missing

section

variable (pooling : layer.kind ∈ Pooling.family.kinds)
include pooling

theorem exists_namesKernel (supported : (ofDialect name dialect).supports role layer.kind = true)
    (invokes : role = .call ∨ role = .taskSequence) :
    ∃ sheet ∈ dialect.sheets name, sheet.spec.role = role ∧
      layer.kind ∈ sheet.spec.family.kinds ∧ Pooling.NamesKernel dialect sheet := by
  obtain ⟨sheet, member, rfl, covered⟩ := exists_sheet_of_supports supported
  exact ⟨sheet, member, rfl, covered,
    Pooling.namesKernel_of_invokes pooling member covered invokes⟩

theorem format_of_lacking (supported : (ofDialect name dialect).supports role layer.kind = true)
    (invokes : role = .call ∨ role = .taskSequence) (lacking : Layout.order? dialect layer = none) :
    (ofDialect name dialect).format role layer =
      .error (.unsupportedLayout "channels_first" name layer.name) := by
  obtain ⟨sheet, member, rfl, covered, names⟩ := exists_namesKernel pooling supported invokes
  rw [format_of_sheet member covered, names.format_of_none covered lacking,
    Dialect.backend_of_mem_sheets member]

theorem uses_of_format (invokes : role = .call ∨ role = .taskSequence) {order text : String}
    (named : Layout.order? dialect layer = some order)
    (formatted : (ofDialect name dialect).format role layer = .ok text) :
    Pooling.Uses layer.kind order role text := by
  obtain ⟨sheet, member, rfl, covered, names⟩ :=
    exists_namesKernel pooling (supports_of_format formatted) invokes
  rw [format_of_sheet member covered] at formatted
  exact names.uses_of_format covered named formatted

theorem isLastOnly_ofDialect (differs : dialect ≠ .vivado) :
    (ofDialect name dialect).IsLastOnly layer := by
  have refused : ∀ role style, (role = .call ∨ role = .taskSequence) → layer.IsChannelsFirst →
      (ofDialect name dialect).supports role layer.kind = true →
      (ofDialect name dialect).format role { layer with ioStyle := style } =
        .error (.unsupportedLayout "channels_first" name layer.name) := by
    intro role style invokes first supported
    have lacking : Layout.order? dialect { layer with ioStyle := style } = none :=
      (if_pos first).trans (if_neg differs)
    exact format_of_lacking pooling supported invokes lacking
  have callable := Pooling.supports_call name dialect pooling
  constructor
  · intro first
    exact refused .call layer.ioStyle (.inl rfl) first callable
  · intro first supported
    exact refused .taskSequence layer.ioStyle (.inr rfl) first supported
  · intro first style source emitted
    have emits := emits_of_emitLayer emitted
    cases streaming : (ofDialect name dialect).streams style with
    | true =>
        have formatted := (emits.stage streaming).1
        have supported := supports_of_format formatted
        rw [refused .taskSequence style (.inr rfl) first supported] at formatted
        cases formatted
    | false =>
        have formatted := (emits.call streaming).1
        rw [refused .call style (.inl rfl) first callable] at formatted
        cases formatted
  · intro last role invokes
    refine ⟨fun order which who refused => last (eq_of_unsupportedLayout refused).2, ?_⟩
    intro text formatted
    exact uses_of_format pooling invokes (if_neg last) formatted

theorem hasBothOrders_ofDialect (vivado : dialect = .vivado) :
    (ofDialect name dialect).HasBothOrders layer := by
  constructor
  · intro role order which who refused
    exact (eq_of_unsupportedLayout refused).1 vivado
  · intro text formatted
    have uses : ∀ order, Layout.order? dialect layer = some order →
        Pooling.Uses layer.kind order .call text :=
      fun order named => uses_of_format pooling (.inl rfl) named formatted
    by_cases first : layer.IsChannelsFirst
    · have used := uses "cf" (by rw [Layout.order?, if_pos first, if_pos vivado])
      exact ⟨iff_of_true used first,
        iff_of_false (Pooling.not_uses_both used) (not_not_intro first)⟩
    · have used := uses "cl" (if_neg first)
      exact ⟨iff_of_false (fun also => Pooling.not_uses_both also used) first,
        iff_of_true used first⟩

theorem format_reordered (indifferent : role = .config ∨ role = .streamCall)
    {attributes : Table Attribute}
    (agree : ∀ name, name ≠ "data_format" → attributes.find? name = layer.attribute? name) :
    (ofDialect name dialect).format role { layer with attributes } =
      (ofDialect name dialect).format role layer := by
  refine format_congr (by rfl) ?_
  rintro sheet member rfl covered
  rcases Pooling.namesKernel_or_isIndifferent name dialect sheet
    (Pooling.mem_sheets pooling member covered) with names | spares
  · rcases names.segments layer.kind with ⟨call, -⟩ | ⟨stage, -⟩
    · simp [call] at indifferent
    · simp [stage] at indifferent
  · exact spares.format_eq agree pooling covered

end

/-- The order of channels is refused or rendered in every text that names the kernel of
    a pooling layer, whatever else the layer has or lacks, and changes no other text. -/
theorem format_pooling (builtin : Builtin) :
    ∃ backend, builtin.backend = .ok backend ∧ backend.name = builtin.name ∧
      ∀ layer, layer.kind ∈ Pooling.family.kinds →
        (builtin.dialect ≠ .vivado → backend.IsLastOnly layer) ∧
        (builtin.dialect = .vivado → backend.HasBothOrders layer) ∧
        ∀ role, role = .config ∨ role = .streamCall → ∀ attributes : Table Attribute,
          (∀ name, name ≠ "data_format" → attributes.find? name = layer.attribute? name) →
          backend.format role { layer with attributes } = backend.format role layer := by
  refine ⟨_, builtin.backend_eq_ok, rfl, ?_⟩
  intro layer pooling
  refine ⟨isLastOnly_ofDialect pooling, hasBothOrders_ofDialect pooling, ?_⟩
  intro role indifferent attributes agree
  exact format_reordered pooling indifferent agree

end Backend

/-- A layer with channels first that lacks nearly all that is asked of it. -/
def firstPooling : Layer where
  name := "pool3"
  kind := .pooling1D
  index := 3
  input := some { name := "x", elementType := "t" }
  output := some { name := "y", elementType := "u" }
  attributes := .ofList [("data_format", .text "channels_first")]

theorem Backend.format_firstPooling :
    (∃ backend, Builtin.oneApi.backend = .ok backend ∧
      backend.supports .taskSequence .pooling1D = true ∧
      backend.format .taskSequence firstPooling =
        .error (.unsupportedLayout "channels_first" "oneAPI" "pool3")) ∧
    ∃ backend, Builtin.vivado.backend = .ok backend ∧
      (∃ text, backend.format .call firstPooling = .ok text ∧
        Pooling.Uses .pooling1D "cf" .call text) ∧
      backend.format .config { firstPooling with attributes := ∅ } =
        backend.format .config firstPooling := by
  constructor
  · obtain ⟨backend, built, named, each⟩ := Backend.format_pooling .oneApi
    have supported : backend.supports .taskSequence .pooling1D = true := by
      obtain rfl := Except.ok.inj (Builtin.oneApi.backend_eq_ok.symm.trans built)
      decide
    have lastOnly := (each firstPooling (by decide)).1 (by decide)
    refine ⟨backend, built, supported, ?_⟩
    rw [lastOnly.stage (by decide) supported, named]
    rfl
  · obtain ⟨backend, built, -, each⟩ := Backend.format_pooling .vivado
    obtain ⟨-, bothOrders, spares⟩ := each firstPooling (by decide)
    have formats : (backend.format .call firstPooling).toOption.isSome = true := by
      obtain rfl := Except.ok.inj (Builtin.vivado.backend_eq_ok.symm.trans built)
      decide +kernel
    refine ⟨backend, built, ?_, spares .config (.inl rfl) ∅ ?_⟩
    · cases formatted : backend.format .call firstPooling with
      | error reason =>
          rw [formatted] at formats
          cases formats
      | ok text => exact ⟨text, rfl, (((bothOrders rfl).uses text formatted).1).mpr (by decide)⟩
    · intro name differs
      simp [firstPooling, Layer.attribute?, Table.ofList, Table.find?_insertAll_eq,
        Table.bound?_cons, differs.symm]

end HlsEmit

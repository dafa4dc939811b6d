import HlsEmit.Proofs.Backend.Builtin
import HlsEmit.Proofs.Family.Derivations

/-! # What the built-in bodies look like

Every kind that emits code belongs to one family. Its sheets in a dialect use the
derivations that the family has for their roles, and the bodies of a role share one
shape: a struct named after the layer, a call or a stage on the variables of the
layer, or the start of its stage. Their placeholders stand for attributes and types
that the family asks for, for structural parameters, or for what a derivation
writes.
-/

namespace HlsEmit

/-- The family of a kind. -/
def LayerKind.family? : LayerKind → Option LayerFamily
  | .input => none
  | .dense => some Dense.family
  | .activation | .softmax => some Activation.family
  | .pooling1D | .pooling2D | .globalPooling1D | .globalPooling2D => some Pooling.family

/-- The arrays that the code of a kind works on besides its input and output. -/
def LayerKind.arrayNames (kind : LayerKind) : List String :=
  if kind = .dense then ["w", "b"] else []

/-- The segments of a body for the kind in a role. -/
def Role.Shape (kind : LayerKind) : Role → List Segment → Prop
  | .config, segments => ∃ struct : ConfigStruct, segments = struct.segments
  | .call, segments =>
      ∃ operation, segments = Invocation.callSegments operation kind.arrayNames
  | .taskSequence, segments => ∃ operation, segments = Invocation.stageSegments operation
  | .streamCall, segments =>
      segments = if kind = .dense then Invocation.startWithSegments "w" "b"
        else Invocation.startSegments

/-- How the sheet of a family in a dialect is made. -/
structure Sheet.IsOf (sheet : Sheet) (dialect : Dialect) : Prop where
  family : ∀ kind ∈ sheet.spec.family.kinds, kind.family? = some sheet.spec.family
  derives : ∀ d ∈ sheet.spec.derivations,
    dialect.Derives sheet.spec.family sheet.spec.role d
  shape : ∀ kind ∈ sheet.spec.family.kinds,
    sheet.spec.role.Shape kind (sheet.segments kind)

namespace Pooling

theorem family?_of_mem {kind : LayerKind} (covered : kind ∈ family.kinds) :
    kind.family? = some family ∧ kind ≠ .dense := by
  simp only [family, List.mem_cons, List.not_mem_nil, or_false] at covered
  rcases covered with rfl | rfl | rfl | rfl <;> exact ⟨rfl, by decide⟩

theorem isOf_sheets (backend : String) (dialect : Dialect) :
    ∀ sheet ∈ sheets backend dialect, sheet.IsOf dialect := by
  have only : ∀ kind ∈ family.kinds, kind.family? = some family :=
    fun kind covered => (family?_of_mem covered).1
  apply Sheet.forall_of_dataflow
  · cases dialect with
    | vivado =>
        refine ⟨only, ?_, fun kind _ => ⟨_, rfl⟩⟩
        intro d member
        rcases List.mem_cons.mp member with rfl | last
        · exact .filterSlots
        · rw [List.mem_singleton.mp last]
          exact .implementation rfl
    | quartus | oneApi =>
        refine ⟨only, ?_, fun kind _ => ⟨_, rfl⟩⟩
        intro d member
        rw [List.mem_singleton.mp member]
        exact .filterSlots
  · refine ⟨only, ?_, ?_⟩
    · intro d member
      rw [List.mem_singleton.mp member]
      exact .layout (.inl rfl)
    · intro kind covered
      have arrays : kind.arrayNames = [] := if_neg (family?_of_mem covered).2
      exact ⟨operation kind, by rw [arrays]⟩
  · refine ⟨only, ?_, fun kind _ => ⟨_, rfl⟩⟩
    intro d member
    rw [List.mem_singleton.mp member]
    exact .layout (.inr rfl)
  · refine ⟨only, ?_, ?_⟩
    · intro d member
      cases member
    · intro kind covered
      exact (if_neg (family?_of_mem covered).2).symm

end Pooling

namespace Dense

theorem eq_dense_of_mem {kind : LayerKind} (covered : kind ∈ family.kinds) : kind = .dense :=
  List.mem_singleton.mp covered

theorem isOf_sheets (backend : String) (dialect : Dialect) :
    ∀ sheet ∈ sheets backend dialect, sheet.IsOf dialect := by
  have only : ∀ kind ∈ family.kinds, kind.family? = some family := by
    intro kind covered
    rw [eq_dense_of_mem covered]
    rfl
  apply Sheet.forall_of_dataflow
  · refine ⟨only, ?_, fun kind _ => ⟨_, rfl⟩⟩
    intro d member
    rcases List.mem_cons.mp member with rfl | last
    · exact .sparsity
    · rw [List.mem_singleton.mp last]
      exact .strategy nofun
  · refine ⟨only, ?_, ?_⟩
    · intro d member
      rcases List.mem_cons.mp member with rfl | last
      · exact .strategy nofun
      · rw [List.mem_singleton.mp last]
        exact .weightNames (.inl rfl)
    · intro kind covered
      rw [eq_dense_of_mem covered]
      exact ⟨operation dialect, rfl⟩
  · refine ⟨only, ?_, fun kind _ => ⟨_, rfl⟩⟩
    intro d member
    rw [List.mem_singleton.mp member]
    exact .strategy nofun
  · refine ⟨only, ?_, ?_⟩
    · intro d member
      rw [List.mem_singleton.mp member]
      exact .weightNames (.inr rfl)
    · intro kind covered
      rw [eq_dense_of_mem covered]
      rfl

end Dense

namespace Activation

theorem family?_of_mem {kind : LayerKind} (covered : kind ∈ family.kinds) :
    kind.family? = some family ∧ kind ≠ .dense := by
  simp only [family, List.mem_cons, List.not_mem_nil, or_false] at covered
  rcases covered with rfl | rfl <;> exact ⟨rfl, by decide⟩

theorem isOf_sheets (backend : String) (dialect : Dialect) :
    ∀ sheet ∈ sheets backend dialect, sheet.IsOf dialect := by
  have only : ∀ kind ∈ family.kinds, kind.family? = some family :=
    fun kind covered => (family?_of_mem covered).1
  have used : ∀ role d, role ≠ .streamCall → d ∈ [activationName] →
      dialect.Derives family role d := by
    intro role d differs member
    rw [List.mem_singleton.mp member]
    exact .activationName differs
  apply Sheet.forall_of_dataflow
  · exact ⟨only, fun d => used _ d nofun,
      fun kind _ => ⟨_, rfl⟩⟩
  · refine ⟨only, fun d => used _ d nofun, ?_⟩
    intro kind covered
    have arrays : kind.arrayNames = [] := if_neg (family?_of_mem covered).2
    exact ⟨operation, by rw [arrays]⟩
  · exact ⟨only, fun d => used _ d nofun,
      fun kind _ => ⟨_, rfl⟩⟩
  · refine ⟨only, ?_, ?_⟩
    · intro d member
      cases member
    · intro kind covered
      exact (if_neg (family?_of_mem covered).2).symm

end Activation

/-- What the placeholders of a sheet stand for. -/
structure Sheet.IsGrounded (sheet : Sheet) : Prop where
  /-- A name with a dot stands for the name of a type that the kind asks for. -/
  dotted : ∀ kind ∈ sheet.spec.family.kinds,
    ∀ name ∈ TemplateBody.placeholders ⟨sheet.segments kind⟩, '.' ∈ name.toList →
      ∃ type ∈ sheet.spec.family.types kind, name = type ++ ".name"
  /-- A second name of an attribute stands for one that the kind asks for. -/
  slotted : ∀ kind ∈ sheet.spec.family.kinds, ∀ slot ∈ Pooling.slots,
    slot.2 ∈ TemplateBody.placeholders ⟨sheet.segments kind⟩ →
      slot.1 ∈ sheet.spec.family.attributes kind
  implemented : ∀ kind ∈ sheet.spec.family.kinds,
    "implementation" ∈ TemplateBody.placeholders ⟨sheet.segments kind⟩ → kind ≠ .activation

instance (sheet : Sheet) : Decidable sheet.IsGrounded :=
  decidable_of_iff ((∀ kind ∈ sheet.spec.family.kinds,
      ∀ name ∈ TemplateBody.placeholders ⟨sheet.segments kind⟩, '.' ∈ name.toList →
        ∃ type ∈ sheet.spec.family.types kind, name = type ++ ".name") ∧
      (∀ kind ∈ sheet.spec.family.kinds, ∀ slot ∈ Pooling.slots,
        slot.2 ∈ TemplateBody.placeholders ⟨sheet.segments kind⟩ →
          slot.1 ∈ sheet.spec.family.attributes kind) ∧
      ∀ kind ∈ sheet.spec.family.kinds,
        "implementation" ∈ TemplateBody.placeholders ⟨sheet.segments kind⟩ → kind ≠ .activation)
    ⟨fun ⟨dotted, slotted, implemented⟩ => ⟨dotted, slotted, implemented⟩,
      fun grounded => ⟨grounded.dotted, grounded.slotted, grounded.implemented⟩⟩

namespace Dialect

theorem isOf_sheets (backend : String) (dialect : Dialect) :
    ∀ sheet ∈ dialect.sheets backend, sheet.IsOf dialect := by
  intro sheet member
  simp only [sheets, List.mem_append] at member
  rcases member with (pooling | dense) | activation
  · exact Pooling.isOf_sheets backend dialect sheet pooling
  · exact Dense.isOf_sheets backend dialect sheet dense
  · exact Activation.isOf_sheets backend dialect sheet activation

/-- The name of the backend does not matter, and without it the sheets can be evaluated. -/
theorem isGrounded_sheets (backend : String) (dialect : Dialect) :
    ∀ sheet ∈ dialect.sheets backend, sheet.IsGrounded := by
  have nameless : ∀ sheet ∈ dialect.sheets "", sheet.IsGrounded := by
    cases dialect <;> decide
  rw [sheets_eq_map]
  intro sheet member
  obtain ⟨other, inside, rfl⟩ := List.mem_map.mp member
  have grounded := nameless other inside
  exact ⟨grounded.dotted, grounded.slotted, grounded.implemented⟩

end Dialect

end HlsEmit

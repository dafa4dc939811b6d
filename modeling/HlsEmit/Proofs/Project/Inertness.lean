import HlsEmit.Proofs.Backend.Completeness
import HlsEmit.Proofs.Project.Emission

/-! # What a family ignores

A layer may carry more than its family asks for: further attributes, further types,
the definitions of its types and the element types of its weights. None of these
shows in its code. All attributes become parameters, so some of the further ones
meet the placeholders of a body by name; but then a structural parameter, a type or
a derivation gives the placeholder the value that it had without them.
-/

namespace HlsEmit

open Table (bound? bound?_append)

/-- The second layer differs from the first in what the family ignores: it has
    further attributes, other types that the family does not ask for, and anything
    but other names in all types and weights. -/
structure LayerFamily.Ignores (family : LayerFamily) (layer other : Layer) : Prop where
  name : other.name = layer.name
  kind : other.kind = layer.kind
  index : other.index = layer.index
  ioStyle : other.ioStyle = layer.ioStyle
  input : other.input = layer.input
  output : other.output = layer.output
  attributes : ∀ name, other.attribute? name = layer.attribute? name ∨
    (layer.attribute? name = none ∧ name ∉ family.attributes layer.kind ∧
      name ≠ "reuse_factor" ∧ name ≠ "conv_implementation")
  types : ∀ type ∈ family.types layer.kind,
    (other.types.find? type).map Precision.name = (layer.types.find? type).map Precision.name
  weights : ∀ weight,
    (other.weights.find? weight).map Variable.name = (layer.weights.find? weight).map Variable.name

namespace LayerFamily.Ignores

variable {family : LayerFamily} {layer other : Layer}

/-- The attributes that are read by name are the same. -/
theorem attribute?_eq (ignores : family.Ignores layer other) {name : String}
    (read : name ∈ family.attributes layer.kind ∨ name = "reuse_factor" ∨
      name = "conv_implementation") : other.attribute? name = layer.attribute? name := by
  rcases ignores.attributes name with same | ⟨-, outside, notReuse, notImplementation⟩
  · exact same
  · rcases read with listed | reuse | implementation
    · exact absurd listed outside
    · exact absurd reuse notReuse
    · exact absurd implementation notImplementation

theorem attribute?_of_some (ignores : family.Ignores layer other) {name : String}
    {value : Attribute} (held : layer.attribute? name = some value) :
    other.attribute? name = some value := by
  rcases ignores.attributes name with same | ⟨absent, -⟩
  · exact same.trans held
  · rw [held] at absent
    cases absent

theorem integer?_eq (ignores : family.Ignores layer other) {name : String}
    (listed : name ∈ family.attributes layer.kind) : other.integer? name = layer.integer? name := by
  rw [Layer.integer?, Layer.integer?, ignores.attribute?_eq (.inl listed), ignores.name]

theorem lowered_eq (ignores : family.Ignores layer other) {name : String}
    (listed : name ∈ family.attributes layer.kind) (default : String) :
    other.lowered name default = layer.lowered name default := by
  rw [Layer.lowered, Layer.lowered, ignores.attribute?_eq (.inl listed)]

theorem structuralBindings_eq (ignores : family.Ignores layer other) (role : Role) :
    Params.structuralBindings other role = Params.structuralBindings layer role := by
  have reuse : Params.reuseFactor other = Params.reuseFactor layer := by
    rw [Params.reuseFactor, Params.reuseFactor, ignores.attribute?_eq (.inr (.inl rfl))]
  cases role <;>
    simp only [Params.structuralBindings, Layer.configName, Layer.indexText, ignores.name,
      ignores.index, ignores.ioStyle, ignores.input, ignores.output, reuse]

/-- Types give the placeholders of a body the same values. -/
theorem bound?_typeBindings_eq (ignores : family.Ignores layer other) {name : String}
    (dotted : '.' ∈ name.toList → ∃ type ∈ family.types layer.kind, name = type ++ ".name") :
    bound? (Params.typeBindings other) name = bound? (Params.typeBindings layer) name := by
  by_cases dot : '.' ∈ name.toList
  · obtain ⟨type, listed, rfl⟩ := dotted dot
    rw [Params.bound?_typeBindings_name, Params.bound?_typeBindings_name, ignores.types type listed]
  · rw [Params.bound?_typeBindings_of_dotless dot, Params.bound?_typeBindings_of_dotless dot]

/-- What neither the role nor a type has comes from an attribute, and one that the first layer
    has is never changed. -/
theorem within_defaults (ignores : family.Ignores layer other) (role : Role)
    {segments : List Segment}
    (dotted : ∀ name, .placeholder name ∈ segments → '.' ∈ name.toList →
      ∃ type ∈ family.types layer.kind, name = type ++ ".name") :
    (Params.defaults role layer).Within segments (Params.defaults role other) := by
  intro name used value found
  rw [Params.find?_defaults] at found ⊢
  rw [ignores.structuralBindings_eq role, ignores.bound?_typeBindings_eq (dotted name used)]
  cases structural : bound? (Params.structuralBindings layer role) name with
  | some given => rwa [structural] at found
  | none =>
      cases typed : bound? (Params.typeBindings layer) name with
      | some given => rwa [structural, typed] at found
      | none =>
          rw [structural, typed, Option.none_or, Option.none_or] at found
          obtain ⟨attr, held, rfl⟩ := Option.map_eq_some_iff.mp found
          rw [ignores.attribute?_of_some held]
          rfl

theorem bound?_copied_eq (ignores : family.Ignores layer other) {slot : String × String}
    {name : String} (slotted : slot.2 = name → slot.1 ∈ family.attributes layer.kind) :
    bound? (Pooling.copied other slot.1 slot.2) name =
      bound? (Pooling.copied layer slot.1 slot.2) name := by
  rw [Pooling.bound?_copied, Pooling.bound?_copied]
  by_cases same : slot.2 = name
  · rw [ignores.attribute?_eq (.inl (slotted same))]
  · rw [if_neg same, if_neg same]

theorem channelsFirst_eq (ignores : Pooling.family.Ignores layer other)
    (covered : layer.kind ∈ Pooling.family.kinds) : other.channelsFirst = layer.channelsFirst := by
  have format : other.attribute? "data_format" = layer.attribute? "data_format" :=
    ignores.attribute?_eq (.inl (Pooling.dataFormat_mem_attributes covered))
  rw [Layer.channelsFirst, Layer.channelsFirst, Layer.text?, Layer.text?, format]

theorem nonzeros_eq (ignores : family.Ignores layer other) :
    Dense.nonzeros other = Dense.nonzeros layer := by
  have size : Dense.checkSize other = Dense.checkSize layer := by
    funext name value
    rw [Dense.checkSize, Dense.checkSize, ignores.name]
  funext rows columns zeros
  rw [Dense.nonzeros, Dense.nonzeros, size, ignores.name]

theorem weightName_eq (ignores : family.Ignores layer other) (weight slot : String) :
    Dense.weightName other weight slot = Dense.weightName layer weight slot := by
  rw [Dense.weightName_eq_toList, Dense.weightName_eq_toList, ignores.weights weight]

end LayerFamily.Ignores

/-- No derivation tells the two layers apart under the placeholders of a body. A stray
    attribute may be copied too, but then no placeholder has its second name. -/
theorem Dialect.Derives.simulates {dialect : Dialect} {family : LayerFamily} {role : Role}
    {d : Derivation} (derives : dialect.Derives family role d) {layer other : Layer}
    (covered : layer.kind ∈ family.kinds) (ignores : family.Ignores layer other)
    (context : DeriveContext) {segments : List Segment}
    (slotted : ∀ slot ∈ Pooling.slots, .placeholder slot.2 ∈ segments →
      slot.1 ∈ family.attributes layer.kind) : d.Simulates context segments layer other := by
  cases derives with
  | filterSlots =>
      apply Derivation.simulates_writing
      intro pairs given
      obtain rfl := Except.ok.inj given
      refine ⟨_, rfl, ?_⟩
      intro name used
      have copied : ∀ slot ∈ Pooling.slots, bound? (Pooling.copied other slot.1 slot.2) name =
          bound? (Pooling.copied layer slot.1 slot.2) name := by
        intro slot listed
        apply ignores.bound?_copied_eq
        rintro rfl
        exact slotted slot listed used
      rw [bound?_append, bound?_append, bound?_append, bound?_append,
        copied ("pool_width", "filt_width") (by decide),
        copied ("pool_height", "filt_height") (by decide),
        copied ("n_filt", "n_chan") (by decide)]
  | implementation =>
      apply Derivation.simulates_writing_of_eq
      rw [Layer.text?, Layer.text?, ignores.attribute?_eq (.inr (.inr rfl))]
  | layout =>
      cases dialect with
      | vivado =>
          apply Derivation.simulates_writing_of_eq
          rw [ignores.channelsFirst_eq covered]
      | quartus | oneApi =>
          apply Derivation.simulates_writing_of_eq
          rw [ignores.channelsFirst_eq covered, ignores.name]
  | sparsity =>
      have integer : ∀ name ∈ Dense.family.attributes .dense,
          other.integer? name = layer.integer? name := fun _ => ignores.integer?_eq
      apply Derivation.simulates_writing_of_eq
      rw [integer "n_zeros" (by decide), integer "n_in" (by decide), integer "n_out" (by decide),
        ignores.nonzeros_eq]
  | strategy =>
      have integer : ∀ name ∈ Dense.family.attributes .dense,
          other.integer? name = layer.integer? name := fun _ => ignores.integer?_eq
      have lowered : ∀ name ∈ Dense.family.attributes .dense,
          other.lowered name = layer.lowered name :=
        fun _ listed => funext (ignores.lowered_eq listed)
      apply Derivation.simulates_writing_of_eq
      rw [integer "rfpad" (by decide), integer "bfpad" (by decide),
        lowered "strategy" (by decide), lowered "product_type" (by decide)]
  | weightNames =>
      apply Derivation.simulates_writing_of_eq
      rw [ignores.weightName_eq, ignores.weightName_eq]
  | activationName =>
      have named : "activation" ∈ Activation.family.attributes layer.kind := by
        cases layer.kind <;> decide
      apply Derivation.simulates_writing_of_eq
      rw [ignores.kind, ignores.lowered_eq named, ignores.lowered_eq named]
      by_cases softmax : layer.kind = .softmax
      · have implemented : "implementation" ∈ Activation.family.attributes layer.kind := by
          rw [softmax]
          decide
        rw [ignores.lowered_eq implemented]
      · rw [if_neg softmax, if_neg softmax]

namespace Backend

variable {name : String} {dialect : Dialect} {role : Role} {family : LayerFamily}
  {layer other : Layer}

/-- A text of a layer is also that of a layer that differs in what the family
    ignores. -/
theorem format_of_ignores (ofKind : layer.kind.family? = some family)
    (ignores : family.Ignores layer other) {text : String}
    (formatted : (ofDialect name dialect).format role layer = .ok text) :
    (ofDialect name dialect).format role other = .ok text := by
  obtain ⟨sheet, member, rfl, covered, params, given, rendered⟩ := exists_sheet_of_format formatted
  have made := dialect.isOf_sheets name sheet member
  have grounded := dialect.isGrounded_sheets name sheet member
  obtain rfl : sheet.spec.family = family :=
    Option.some.inj ((made.family layer.kind covered).symm.trans ofKind)
  have listed : ∀ name, .placeholder name ∈ sheet.segments layer.kind →
      name ∈ TemplateBody.placeholders ⟨sheet.segments layer.kind⟩ :=
    fun name => (TemplateBody.mem_placeholders_iff _ name).mpr
  have start := ignores.within_defaults sheet.spec.role
    fun name used => grounded.dotted layer.kind covered name (listed name used)
  have each : ∀ d ∈ sheet.spec.derivations,
      d.Simulates sheet.spec.context (sheet.segments layer.kind) layer other := by
    intro d inside
    exact (made.derives d inside).simulates covered ignores _
      fun slot known used => grounded.slotted layer.kind covered slot known (listed _ used)
  obtain ⟨next, run, reached⟩ := given.simulates each start
  have coveredToo : other.kind ∈ sheet.spec.family.kinds := by rwa [ignores.kind]
  rw [format_of_sheet member coveredToo, Sheet.format_eq_ok_iff coveredToo, ignores.kind]
  exact ⟨next, run, TemplateBody.render_of_within reached rendered⟩

/-- What a family ignores does not show in the code of a layer. -/
theorem emitLayer_of_ignores (builtin : Builtin) :
    ∃ backend, builtin.backend = .ok backend ∧
      ∀ layer source, backend.emitLayer layer = .ok source →
        ∃ family, layer.kind.family? = some family ∧
          ∀ other, family.Ignores layer other → backend.emitLayer other = .ok source := by
  refine ⟨_, builtin.backend_eq_ok, ?_⟩
  intro layer source emitted
  obtain ⟨sheet, member, -, covered, -⟩ :=
    exists_sheet_of_format (emits_of_emitLayer emitted).config
  have ofKind := (builtin.dialect.isOf_sheets _ sheet member).family layer.kind covered
  refine ⟨sheet.spec.family, ofKind, ?_⟩
  intro other ignores
  exact emitLayer_of_format emitted ignores.name ignores.index ignores.kind ignores.ioStyle
    fun role text => format_of_ignores ofKind ignores

end Backend

/-- Attributes that meet structural and derived parameters by name. -/
def strayAttributes : List (String × Attribute) :=
  [("input", .text "x"), ("config", .int 7), ("index", .int 9), ("name", .text "fc"),
    ("w", .bool true), ("nzeros", .int 3), ("filt_width", .int 3), ("n_chan", .int 2),
    ("accum_t.name", .text "float")]

/-- A complete dense layer with these attributes, and with other definitions and
    element types. -/
def ladenDense : Layer :=
  { completeDense with
    attributes := completeDense.attributes.insertAll strayAttributes
    types := completeDense.types.insertAll
      [("accum_t", { name := "accum2_t", precision := "ac_int<8>" }), ("table_t", { name := "t" })]
    weights := completeDense.weights.insertAll
      [("bias", { name := "b2", elementType := "float" })] }

theorem ignores_ladenDense : Dense.family.Ignores completeDense ladenDense where
  name := rfl
  kind := rfl
  index := rfl
  ioStyle := rfl
  input := rfl
  output := rfl
  attributes := by
    intro name
    have added : ladenDense.attribute? name =
        (bound? strayAttributes name).or (completeDense.attribute? name) :=
      Table.find?_insertAll_eq _ _ _
    cases bound : bound? strayAttributes name with
    | none => exact .inl (by rw [added, bound, Option.none_or])
    | some value =>
        right
        have stray : ∀ pair ∈ strayAttributes, completeDense.attribute? pair.1 = none ∧
            pair.1 ∉ Dense.family.attributes .dense ∧ pair.1 ≠ "reuse_factor" ∧
            pair.1 ≠ "conv_implementation" := by decide
        exact stray _ (Table.mem_of_bound? bound)
  types := by decide
  weights := by
    intro weight
    have changed : ladenDense.weights.find? weight = _ := Table.find?_insertAll_eq _ _ _
    rw [changed, Table.bound?_cons, Table.bound?_nil, Option.none_or]
    split
    · rename_i same
      rw [← show "bias" = weight from same]
      rfl
    · rfl

theorem Backend.emitLayer_ladenDense :
    ∃ backend, Builtin.vivado.backend = .ok backend ∧
      ∃ source, backend.emitLayer completeDense = .ok source ∧
        Dense.family.Ignores completeDense ladenDense ∧
        backend.emitLayer ladenDense = .ok source := by
  obtain ⟨backend, built, same⟩ := Backend.emitLayer_of_ignores .vivado
  have emits : (backend.emitLayer completeDense).toOption.isSome = true := by
    obtain rfl := Except.ok.inj (Builtin.vivado.backend_eq_ok.symm.trans built)
    decide +kernel
  cases emitted : backend.emitLayer completeDense with
  | error reason =>
      rw [emitted] at emits
      cases emits
  | ok source =>
      obtain ⟨family, ofKind, alike⟩ := same completeDense source emitted
      obtain rfl : Dense.family = family := Option.some.inj ofKind
      exact ⟨backend, built, source, emitted, ignores_ladenDense,
        alike ladenDense ignores_ladenDense⟩

end HlsEmit

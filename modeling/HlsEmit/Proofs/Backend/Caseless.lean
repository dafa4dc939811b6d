import HlsEmit.Proofs.Backend.Confinement
import HlsEmit.Proofs.Template.Precedence
import HlsEmit.Proofs.Text.CaseFolding

/-! # Attributes whose case does not matter

Strategies, products, activations and the implementations of softmax stand in the code in
lower case. Their texts are parameters as they are at first, under the same names, so it
matters that every body with a placeholder of such a name has a derivation that sets it.
Then no failure and no text tells layers apart that differ in the case of such texts.
-/

namespace HlsEmit

/-- The attributes of the kind whose case does not matter. -/
def LayerKind.caseless : LayerKind → List String
  | .dense => ["strategy", "product_type"]
  | .activation => ["activation"]
  | .softmax => ["activation", "implementation"]
  | _ => []

/-- The second attributes are those of the first, up to the case of the letters of ASCII
    in the texts of such attributes. -/
def LayerKind.Recases (kind : LayerKind) (before after : Table Attribute) : Prop :=
  ∀ name, after.find? name = before.find? name ∨
    (name ∈ kind.caseless ∧ ∃ text spelled, before.find? name = some (.text text) ∧
      after.find? name = some (.text spelled) ∧ Text.foldAscii spelled = Text.foldAscii text)

/-- Attributes that are read as they are. -/
def LayerKind.plainNames : List String :=
  ["reuse_factor", "n_zeros", "n_in", "n_out", "rfpad", "bfpad"]

theorem LayerKind.not_mem_caseless (kind : LayerKind) :
    ∀ name ∈ plainNames, name ∉ kind.caseless := by
  cases kind <;> decide

theorem Pooling.caseless_eq_nil : ∀ kind ∈ family.kinds, kind.caseless = [] := by decide

theorem Dense.caseless_apart : ∀ name ∈ LayerKind.dense.caseless,
    name ∉ sparsity.provides ∧ name ∉ weightNames.provides := by decide

section Recased

variable {layer : Layer} {attributes : Table Attribute}
  (recases : layer.kind.Recases layer.attributes attributes)
include recases

namespace LayerKind.Recases

theorem find?_eq {name : String} (plain : name ∉ layer.kind.caseless) :
    attributes.find? name = layer.attribute? name := by
  rcases recases name with same | ⟨caseless, -⟩
  · exact same
  · exact absurd caseless plain

theorem attributes_eq (empty : layer.kind.caseless = []) : attributes = layer.attributes := by
  apply Table.ext
  intro name
  exact recases.find?_eq (by simp [empty])

theorem integer?_eq {name : String} (plain : name ∈ plainNames) :
    Layer.integer? { layer with attributes } name = layer.integer? name := by
  have same := recases.find?_eq (layer.kind.not_mem_caseless name plain)
  rw [Layer.integer?, Layer.integer?, ← same]
  rfl

/-- The lower case of an attribute is the same under every name. -/
theorem lowered_eq : Layer.lowered { layer with attributes } = layer.lowered := by
  funext name default
  rw [Layer.lowered, Layer.lowered, Layer.attribute?, Layer.attribute?]
  rcases recases name with same | ⟨-, text, spelled, held, changed, folded⟩
  · rw [same]
  · rw [held, changed, Option.map_some, Option.map_some, Attribute.render, Attribute.render,
      Text.lowerCase_eq_of_foldAscii_eq folded]

end LayerKind.Recases

/-- No derivation tells the layers apart, whether it writes or refuses. -/
theorem Dialect.Derives.apply_recased {dialect : Dialect} {family : LayerFamily} {role : Role}
    {d : Derivation} (derives : dialect.Derives family role d)
    (covered : layer.kind ∈ family.kinds) (context : DeriveContext) :
    d.apply context { layer with attributes } = d.apply context layer := by
  have pooling : layer.kind ∈ Pooling.family.kinds → attributes = layer.attributes :=
    fun covered => recases.attributes_eq (Pooling.caseless_eq_nil _ covered)
  have integer : ∀ name ∈ LayerKind.plainNames,
      Layer.integer? { layer with attributes } name = layer.integer? name :=
    fun _ => recases.integer?_eq
  have lowered := recases.lowered_eq
  cases derives with
  | filterSlots | implementation | layout => rw [pooling covered]
  | sparsity =>
      simp only [Dense.sparsity, Derivation.writing, integer "n_zeros" (by decide),
        integer "n_in" (by decide), integer "n_out" (by decide)]
      rfl
  | strategy =>
      simp only [Dense.strategy, Derivation.writing, integer "rfpad" (by decide),
        integer "bfpad" (by decide), lowered]
  | weightNames => rfl
  | activationName => simp only [Activation.activationName, Derivation.writing, lowered]

end Recased

/-- A derivation that provides such a name always sets it. -/
theorem Dialect.Derives.exists_sets_of_caseless {dialect : Dialect} {family : LayerFamily}
    {role : Role} {d : Derivation} (derives : dialect.Derives family role d) {layer : Layer}
    (covered : layer.kind ∈ family.kinds) (context : DeriveContext) {name : String}
    (caseless : name ∈ layer.kind.caseless) (provided : name ∈ d.provides) :
    ∃ value, d.Sets context layer name value := by
  cases derives with
  | filterSlots | implementation | layout =>
      rw [Pooling.caseless_eq_nil _ covered] at caseless
      cases caseless
  | sparsity =>
      rw [Dense.eq_dense_of_mem covered] at caseless
      exact absurd provided (Dense.caseless_apart name caseless).1
  | strategy =>
      rw [Dense.eq_dense_of_mem covered] at caseless
      have named : name = "strategy" ∨ name = "product_type" := by
        simpa [LayerKind.caseless] using caseless
      apply Derivation.exists_sets_writing
      intro pairs given
      obtain ⟨_, _, given⟩ := Outcome.bind_eq_ok_iff.mp given
      obtain ⟨_, _, given⟩ := Outcome.bind_eq_ok_iff.mp given
      obtain rfl := Except.ok.inj given
      rcases named with rfl | rfl <;> simp [Table.bound?_cons]
  | weightNames =>
      rw [Dense.eq_dense_of_mem covered] at caseless
      exact absurd provided (Dense.caseless_apart name caseless).2
  | activationName =>
      have either : layer.kind = .activation ∨ layer.kind = .softmax := by
        simpa [Activation.family] using covered
      apply Derivation.exists_sets_writing
      intro pairs given
      obtain rfl := Except.ok.inj given
      rcases either with kind | kind
      · rw [kind] at caseless
        simp [kind, List.mem_singleton.mp caseless, Table.bound?_cons]
      · have named : name = "activation" ∨ name = "implementation" := by
          simpa [kind, LayerKind.caseless] using caseless
        rcases named with rfl | rfl <;> simp [kind, Table.bound?_cons]

/-- Every body that shows such a name has a derivation for it. -/
theorem Dialect.exists_provides_of_caseless (backend : String) (dialect : Dialect) :
    ∀ sheet ∈ dialect.sheets backend, ∀ kind ∈ sheet.spec.family.kinds,
      ∀ name ∈ kind.caseless, .placeholder name ∈ sheet.segments kind →
        ∃ d ∈ sheet.spec.derivations, name ∈ d.provides := by
  have nameless : ∀ sheet ∈ dialect.sheets "", ∀ kind ∈ sheet.spec.family.kinds,
      ∀ name ∈ kind.caseless, .placeholder name ∈ sheet.segments kind →
        ∃ d ∈ sheet.spec.derivations, name ∈ d.provides := by
    cases dialect <;> decide
  rw [sheets_eq_map]
  intro sheet member
  obtain ⟨other, inside, rfl⟩ := List.mem_map.mp member
  exact nameless other inside

theorem Sheet.format_of_recases {backend : String} {dialect : Dialect} {sheet : Sheet}
    (member : sheet ∈ dialect.sheets backend) {layer : Layer} {attributes : Table Attribute}
    (recases : layer.kind.Recases layer.attributes attributes)
    (covered : layer.kind ∈ sheet.spec.family.kinds) :
    sheet.template.format { layer with attributes } = sheet.template.format layer := by
  have made := dialect.isOf_sheets backend sheet member
  refine format_congr rfl covered ?_ ?_ ?_
  · intro d inside
    exact (made.derives d inside).isWriting.isConfined
  · intro d inside
    exact (made.derives d inside).apply_recased recases covered sheet.spec.context
  · intro name used
    by_cases caseless : name ∈ layer.kind.caseless
    · -- the text is a parameter as it is, until the derivation puts it in lower case
      right
      obtain ⟨d, inside, provided⟩ :=
        dialect.exists_provides_of_caseless backend sheet member _ covered name caseless used
      exact ⟨d, inside,
        (made.derives d inside).exists_sets_of_caseless covered _ caseless provided⟩
    · left
      have plain := layer.kind.not_mem_caseless "reuse_factor" (by decide)
      exact Params.find?_defaults_congr (recases.find?_eq plain) (recases.find?_eq caseless)

/-- The case of strategies, products, activations and implementations of softmax changes
    neither a text nor a failure of a layer, in any role. -/
theorem Backend.format_recased (builtin : Builtin) :
    ∃ backend, builtin.backend = .ok backend ∧
      ∀ (layer : Layer) (attributes : Table Attribute),
        layer.kind.Recases layer.attributes attributes →
        (∀ role, backend.format role { layer with attributes } = backend.format role layer) ∧
        backend.emitLayer { layer with attributes } = backend.emitLayer layer := by
  refine ⟨_, builtin.backend_eq_ok, ?_⟩
  intro layer attributes recases
  have formats : ∀ role,
      (ofDialect builtin.name builtin.dialect).format role { layer with attributes } =
        (ofDialect builtin.name builtin.dialect).format role layer := by
    intro role
    refine format_congr (by rfl) ?_
    intro sheet member _ covered
    exact Sheet.format_of_recases member recases covered
  refine ⟨formats, ?_⟩
  simp only [emitLayer, formats]

/-- A softmax layer with capitals in its attributes. -/
def capitalSoftmax : Layer where
  name := "sm6"
  kind := .softmax
  index := 6
  input := some { name := "fc5_out", elementType := "result5_t" }
  output := some { name := "sm6_out", elementType := "result6_t" }
  attributes := .ofList [("activation", .text "SoftMax"), ("implementation", .text "Stable")]

/-- The same texts with other letters in capitals. -/
def otherCapitals : List (String × Attribute) :=
  [("activation", .text "SOFTmax"), ("implementation", .text "sTABLE")]

theorem recases_otherCapitals : LayerKind.softmax.Recases capitalSoftmax.attributes
    (capitalSoftmax.attributes.insertAll otherCapitals) := by
  intro name
  rw [Table.find?_insertAll_eq]
  cases bound : Table.bound? otherCapitals name with
  | none => exact .inl Option.none_or
  | some value =>
      right
      have spelled : ∀ pair ∈ otherCapitals, pair.1 ∈ LayerKind.softmax.caseless ∧
          ∃ text spelled, capitalSoftmax.attributes.find? pair.1 = some (.text text) ∧
            some pair.2 = some (Attribute.text spelled) ∧
            Text.foldAscii spelled = Text.foldAscii text := by
        simp only [otherCapitals, List.forall_mem_cons]
        exact ⟨⟨by decide, "SoftMax", "SOFTmax", by decide, rfl, by decide⟩,
          ⟨by decide, "Stable", "sTABLE", by decide, rfl, by decide⟩, nofun⟩
      exact spelled _ (Table.mem_of_bound? bound)

theorem Backend.format_otherCapitals :
    ∃ backend, Builtin.vivado.backend = .ok backend ∧
      capitalSoftmax.kind.Recases capitalSoftmax.attributes
        (capitalSoftmax.attributes.insertAll otherCapitals) ∧
      backend.format .call { capitalSoftmax with
          attributes := capitalSoftmax.attributes.insertAll otherCapitals } =
        .ok "nnet::softmax<result5_t, result6_t, config6>(fc5_out, sm6_out);" := by
  obtain ⟨backend, built, same⟩ := Backend.format_recased .vivado
  have formatted : backend.format .call capitalSoftmax =
      .ok "nnet::softmax<result5_t, result6_t, config6>(fc5_out, sm6_out);" := by
    obtain rfl := Except.ok.inj (Builtin.vivado.backend_eq_ok.symm.trans built)
    decide +kernel
  have alike := (same capitalSoftmax _ recases_otherCapitals).1 .call
  exact ⟨backend, built, recases_otherCapitals, alike.trans formatted⟩

end HlsEmit

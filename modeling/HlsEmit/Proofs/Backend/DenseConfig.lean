import HlsEmit.Proofs.Backend.Values
import HlsEmit.Proofs.Family.DenseSizes
import HlsEmit.Proofs.Family.Structs

/-! # Configurations of dense layers

On a built-in backend the configuration of a dense layer is formatted exactly if the
numbers of the layer are consistent and its types are there. Its struct then shows
the number of zeros and of other weights. A layer whose numbers are refused has an
invalid attribute, and every other failure is a missing parameter.
-/

namespace HlsEmit

open Table (bound? bound?_cons)

/-- The layer has the type, or an attribute under the name of the type. -/
def Layer.NamesType (layer : Layer) (type : String) : Prop :=
  (layer.types.find? type).isSome = true ∨ (layer.attribute? (type ++ ".name")).isSome = true

namespace Dense

/-- The types that a configuration declares. -/
def typeNames : List String := ["accum_t", "weight_t", "bias_t"]

/-- The numbers of a layer fit together, and its types are there. -/
structure IsConsistent (layer : Layer) (rows columns zeros : Int64) : Prop where
  sizes : HasSizes layer rows columns zeros
  fits : Fits rows columns zeros
  reusePad : ¬ layer.Misstates "rfpad"
  blockPad : ¬ layer.Misstates "bfpad"
  types : ∀ type ∈ typeNames, layer.NamesType type

/-- The sheet of the configuration. -/
def configSheet (backend : String) (dialect : Dialect) : Sheet :=
  ⟨configSpec backend dialect, fun _ => (config dialect).segments⟩

theorem configSheet_mem (backend : String) (dialect : Dialect) :
    configSheet backend dialect ∈ dialect.sheets backend := by
  simp [Dialect.sheets, sheets, configSheet]

theorem format_config (backend : String) (dialect : Dialect) {layer : Layer}
    (dense : layer.kind = .dense) : (Backend.ofDialect backend dialect).format .config layer =
      (configSheet backend dialect).template.format layer :=
  Backend.format_of_sheet (configSheet_mem backend dialect) (List.mem_singleton.mpr dense)

/-- A placeholder is structural, a size, a count, a choice of the strategy or a type. -/
theorem placeholders_config (dialect : Dialect) :
    ∀ name ∈ TemplateBody.placeholders ⟨(config dialect).segments⟩,
      name ∈ ["index", "iotype", "reuse"] ∨ name ∈ ["n_in", "n_out"] ∨
      name ∈ ["nzeros", "nonzeros"] ∨ name ∈ ["strategy", "product_type", "rfpad", "bfpad"] ∨
      name ∈ typeNames.map (· ++ ".name") := by
  cases dialect <;> decide

theorem sized_mem_config (dialect : Dialect) :
    ∀ name ∈ ["n_in", "n_out"] ++ typeNames.map (· ++ ".name"),
      .placeholder name ∈ (config dialect).segments := by
  cases dialect <;> decide

/-- The lines of the struct that show the counts, with their placeholders. -/
theorem counts_mem_config (dialect : Dialect) :
    ∀ line ∈ [("n_zeros", "nzeros"), ("n_nonzeros", "nonzeros")],
      ConfigLine.unsigned line.1 line.2 ∈ (config dialect).lines ∧
        .placeholder line.2 ∈ (config dialect).segments := by
  cases dialect <;> decide

section

variable {backend : String} {dialect : Dialect} {layer : Layer} {params : Params}

theorem gives_iff : (configSheet backend dialect).Gives layer params ↔
    ∃ pairs reusePad blockPad, Tallies layer pairs ∧ layer.Counts "rfpad" reusePad ∧
      layer.Counts "bfpad" blockPad ∧ params = ((Params.defaults .config layer).insertAll
        pairs).insertAll (strategyBindings layer reusePad blockPad) := by
  constructor
  · rintro (_ | ⟨counted, _ | ⟨chosen, _ | _⟩⟩)
    obtain ⟨pairs, tallies, rfl⟩ := sparsity_apply_eq_ok_iff.mp counted
    obtain ⟨reusePad, blockPad, reuse, block, rfl⟩ := strategy_apply_eq_ok_iff.mp chosen
    exact ⟨pairs, reusePad, blockPad, tallies, reuse, block, rfl⟩
  · rintro ⟨pairs, reusePad, blockPad, tallies, reuse, block, rfl⟩
    exact .cons (sparsity_apply_eq_ok_iff.mpr ⟨pairs, tallies, rfl⟩)
      (.cons (strategy_apply_eq_ok_iff.mpr ⟨reusePad, blockPad, reuse, block, rfl⟩) .nil)

theorem exists_gives_iff :
    (∃ params, (configSheet backend dialect).Gives layer params) ↔ ¬ IsRefused layer := by
  simp only [gives_iff, not_isRefused_iff, ← Layer.exists_counts_iff]
  constructor
  · rintro ⟨_, pairs, reusePad, blockPad, tallies, reuse, block, -⟩
    exact ⟨⟨pairs, tallies⟩, ⟨reusePad, reuse⟩, blockPad, block⟩
  · rintro ⟨⟨pairs, tallies⟩, ⟨reusePad, reuse⟩, blockPad, block⟩
    exact ⟨_, pairs, reusePad, blockPad, tallies, reuse, block, rfl⟩

theorem find?_of_gives (given : (configSheet backend dialect).Gives layer params) {name : String}
    (unwritten : ∀ d ∈ [sparsity, strategy], name ∉ d.provides)
    (unstructured : name ∉ Role.config.structuralNames) :
    params.find? name = (bound? (Params.typeBindings layer) name).or
      ((layer.attribute? name).map Attribute.render) := by
  have made := dialect.isOf_sheets backend _ (configSheet_mem backend dialect)
  exact given.find?_of_spares (made.spares layer unwritten) unstructured

theorem find?_size (given : (configSheet backend dialect).Gives layer params) :
    ∀ name ∈ ["n_in", "n_out"],
      params.find? name = (layer.attribute? name).map Attribute.render := by
  have aside : ∀ name ∈ ["n_in", "n_out"], (∀ d ∈ [sparsity, strategy], name ∉ d.provides) ∧
      name ∉ Role.config.structuralNames ∧ '.' ∉ name.toList := by
    decide
  intro name size
  obtain ⟨unwritten, unstructured, dotless⟩ := aside name size
  have made := dialect.isOf_sheets backend _ (configSheet_mem backend dialect)
  exact given.find?_attribute (made.spares layer unwritten) unstructured dotless

theorem contains_size (given : (configSheet backend dialect).Gives layer params) :
    ∀ name ∈ ["n_in", "n_out"], params.contains name = (layer.attribute? name).isSome := by
  intro name size
  rw [Table.contains_eq_isSome, find?_size given name size, Option.isSome_map]

theorem contains_type (given : (configSheet backend dialect).Gives layer params) :
    ∀ type ∈ typeNames, params.contains (type ++ ".name") = true ↔ layer.NamesType type := by
  have aside : ∀ type ∈ typeNames, (∀ d ∈ [sparsity, strategy], type ++ ".name" ∉ d.provides) ∧
      type ++ ".name" ∉ Role.config.structuralNames := by
    decide
  intro type listed
  obtain ⟨unwritten, unstructured⟩ := aside type listed
  rw [Table.contains_eq_isSome, find?_of_gives given unwritten unstructured,
    Params.bound?_typeBindings_name, Option.isSome_or, Option.isSome_map, Option.isSome_map,
    Bool.or_eq_true, Layer.NamesType]

theorem find?_counts (given : (configSheet backend dialect).Gives layer params)
    {rows columns zeros : Int64} (sizes : HasSizes layer rows columns zeros) :
    params.find? "nzeros" = some (toString zeros.toInt) ∧
      params.find? "nonzeros" = some (toString (rows.toInt * columns.toInt - zeros.toInt)) := by
  obtain ⟨pairs, reusePad, blockPad, tallies, -, -, rfl⟩ := gives_iff.mp given
  cases tallies with
  | whole others fits =>
      obtain ⟨rfl, rfl, rfl⟩ := sizes.unique others
      simp [Table.find?_insertAll_eq, strategyBindings, bound?_cons]
  | sizeless _ _ _ absent => simp [sizes.rows, sizes.columns] at absent

/-- What a layer has to carry besides usable numbers. -/
structure Carries (layer : Layer) : Prop where
  sizes : ∀ name ∈ ["n_in", "n_out"], (layer.attribute? name).isSome = true
  types : ∀ type ∈ typeNames, layer.NamesType type

theorem exists_isConsistent_iff : (∃ rows columns zeros, IsConsistent layer rows columns zeros) ↔
    ¬ IsRefused layer ∧ Carries layer := by
  constructor
  · rintro ⟨rows, columns, zeros, consistent⟩
    have tallies := Tallies.whole consistent.sizes consistent.fits
    refine ⟨not_isRefused_iff.mpr ⟨⟨_, tallies⟩, consistent.reusePad, consistent.blockPad⟩,
      ?_, consistent.types⟩
    simp [consistent.sizes.rows, consistent.sizes.columns]
  · rintro ⟨accepted, carries⟩
    obtain ⟨⟨pairs, tallies⟩, reuseStated, blockStated⟩ := not_isRefused_iff.mp accepted
    cases tallies with
    | whole sizes fits => exact ⟨_, _, _, sizes, fits, reuseStated, blockStated, carries.types⟩
    | sizeless _ _ _ absent =>
        have rows := carries.sizes "n_in" (by decide)
        have columns := carries.sizes "n_out" (by decide)
        rcases absent with absent | absent <;> simp_all

theorem contains_of_carries (given : (configSheet backend dialect).Gives layer params)
    (carries : Carries layer) {name : String}
    (listed : name ∈ TemplateBody.placeholders ⟨(config dialect).segments⟩) :
    params.contains name = true := by
  rcases placeholders_config dialect name listed with
    structural | size | count | choice | typed
  · have named : ∀ name ∈ ["index", "iotype", "reuse"], name ∈ Role.config.structuralNames := by
      decide
    have made := dialect.isOf_sheets backend _ (configSheet_mem backend dialect)
    rw [Table.contains_eq_isSome, given.find?_structural made (named name structural)]
    change ((bound? (Params.structuralBindings layer .config) name).or _).isSome = true
    simp only [List.mem_cons, List.not_mem_nil, or_false] at structural
    rcases structural with rfl | rfl | rfl <;> simp [Params.structuralBindings, bound?_cons]
  · rw [contains_size given name size]
    exact carries.sizes name size
  · have accepted := exists_gives_iff.mp ⟨params, given⟩
    obtain ⟨_, _, _, consistent⟩ := exists_isConsistent_iff.mpr ⟨accepted, carries⟩
    obtain ⟨zeros, others⟩ := find?_counts given consistent.sizes
    simp only [List.mem_cons, List.not_mem_nil, or_false] at count
    rcases count with rfl | rfl
    · rw [Table.contains_eq_isSome, zeros, Option.isSome_some]
    · rw [Table.contains_eq_isSome, others, Option.isSome_some]
  · obtain ⟨pairs, reusePad, blockPad, -, -, -, rfl⟩ := gives_iff.mp given
    apply (Table.contains_insertAll _ _ _).mpr
    left
    simp only [List.mem_cons, List.not_mem_nil, or_false] at choice
    rcases choice with rfl | rfl | rfl | rfl <;> simp [strategyBindings]
  · obtain ⟨type, ofType, rfl⟩ := List.mem_map.mp typed
    exact (contains_type given type ofType).mpr (carries.types type ofType)

theorem exists_text_iff (given : (configSheet backend dialect).Gives layer params) :
    (∃ text, TemplateBody.render ⟨(config dialect).segments⟩ params = .ok text) ↔
      Carries layer := by
  constructor
  · rintro ⟨text, rendered⟩
    obtain ⟨values, bound, -⟩ := TemplateBody.render_eq_ok_iff.mp rendered
    have present : ∀ name ∈ ["n_in", "n_out"] ++ typeNames.map (· ++ ".name"),
        params.contains name = true := by
      intro name listed
      rw [Table.contains_eq_isSome, bound name (sized_mem_config dialect name listed),
        Option.isSome_some]
    constructor
    · intro name size
      rw [← contains_size given name size]
      exact present name (List.mem_append_left _ size)
    · intro type listed
      rw [← contains_type given type listed]
      exact present _ (List.mem_append_right _ (List.mem_map_of_mem listed))
  · intro carries
    cases rendered : TemplateBody.render ⟨(config dialect).segments⟩ params with
    | ok text => exact ⟨text, rfl⟩
    | error name =>
        obtain ⟨listed, absent⟩ := TemplateBody.missing_of_render rendered
        rw [contains_of_carries given carries listed] at absent
        cases absent

end

end Dense

namespace Backend

variable {name : String} {dialect : Dialect} {layer : Layer}

theorem exists_format_config_iff (dense : layer.kind = .dense) :
    (∃ text, (ofDialect name dialect).format .config layer = .ok text) ↔
      ∃ rows columns zeros, Dense.IsConsistent layer rows columns zeros := by
  have covered : layer.kind ∈ (Dense.configSheet name dialect).spec.family.kinds :=
    List.mem_singleton.mpr dense
  simp only [Dense.format_config name dialect dense, Sheet.format_eq_ok_iff covered]
  rw [Dense.exists_isConsistent_iff, ← Dense.exists_gives_iff]
  constructor
  · rintro ⟨text, params, given, rendered⟩
    exact ⟨⟨params, given⟩, (Dense.exists_text_iff given).mp ⟨text, rendered⟩⟩
  · rintro ⟨⟨params, given⟩, carries⟩
    obtain ⟨text, rendered⟩ := (Dense.exists_text_iff given).mpr carries
    exact ⟨text, params, given, rendered⟩

theorem prints_of_format_config (dense : layer.kind = .dense) {text : String}
    (formatted : (ofDialect name dialect).format .config layer = .ok text)
    {rows columns zeros : Int64} (sizes : Dense.HasSizes layer rows columns zeros) :
    (Dense.config dialect).Prints text "n_zeros" (toString zeros.toInt) ∧
      (Dense.config dialect).Prints text "n_nonzeros"
        (toString (rows.toInt * columns.toInt - zeros.toInt)) := by
  have covered : layer.kind ∈ (Dense.configSheet name dialect).spec.family.kinds :=
    List.mem_singleton.mpr dense
  rw [Dense.format_config name dialect dense, Sheet.format_eq_ok_iff covered] at formatted
  obtain ⟨params, given, rendered⟩ := formatted
  obtain ⟨values, bound, rfl⟩ := TemplateBody.render_eq_ok_iff.mp rendered
  have shown : ∀ line ∈ [("n_zeros", "nzeros"), ("n_nonzeros", "nonzeros")], ∀ value,
      params.find? line.2 = some value → (Dense.config dialect).Prints
        (String.join ((Dense.config dialect).segments.map (Segment.textWith values)))
        line.1 value := by
    intro line listed value found
    obtain ⟨inside, used⟩ := Dense.counts_mem_config dialect line listed
    obtain rfl := Option.some.inj (found.symm.trans (bound line.2 used))
    exact ConfigStruct.prints_of_mem values inside
  obtain ⟨zerosBound, othersBound⟩ := Dense.find?_counts given sizes
  exact ⟨shown ("n_zeros", "nzeros") (by decide) _ zerosBound,
    shown ("n_nonzeros", "nonzeros") (by decide) _ othersBound⟩

theorem format_config_eq_error_cases (dense : layer.kind = .dense) {reason : CodegenError}
    (failed : (ofDialect name dialect).format .config layer = .error reason) :
    (Dense.IsRefused layer ∧ ∃ attr why, reason = .invalidAttribute layer.name attr why) ∨
      (¬ Dense.IsRefused layer ∧ ∃ placeholder, reason =
        .missingParameter placeholder .dense (Dense.configSpec name dialect).name) := by
  have covered : layer.kind ∈ (Dense.configSheet name dialect).spec.family.kinds :=
    List.mem_singleton.mpr dense
  rw [Dense.format_config name dialect dense] at failed
  rcases Sheet.format_eq_error_cases covered failed with
    ⟨d, inside, params, refused⟩ | ⟨params, placeholder, given, -, -, rfl⟩
  · exact .inl (Dense.isRefused_of_error inside refused)
  · exact .inr ⟨Dense.exists_gives_iff.mp ⟨params, given⟩, placeholder, by rw [dense]; rfl⟩

/-- The configuration of a dense layer on a built-in backend is formatted exactly if the
    numbers of the layer are consistent and its types are there, and then it shows the
    numbers of zero and of other weights. It fails with an invalid attribute if the
    numbers are refused, and with a missing parameter otherwise. No 64-bit operation on
    the sizes overflows. -/
theorem format_denseConfig (builtin : Builtin) :
    ∃ backend, builtin.backend = .ok backend ∧ ∀ layer : Layer, layer.kind = .dense →
      ((∃ text, backend.format .config layer = .ok text) ↔
        ∃ rows columns zeros, Dense.IsConsistent layer rows columns zeros) ∧
      (∀ text rows columns zeros, backend.format .config layer = .ok text →
        Dense.HasSizes layer rows columns zeros →
          (Dense.config builtin.dialect).Prints text "n_zeros" (toString zeros.toInt) ∧
          (Dense.config builtin.dialect).Prints text "n_nonzeros"
            (toString (rows.toInt * columns.toInt - zeros.toInt))) ∧
      (∀ reason, backend.format .config layer = .error reason →
        (Dense.IsRefused layer ∧ ∃ attr why, reason = .invalidAttribute layer.name attr why) ∨
        (¬ Dense.IsRefused layer ∧ ∃ placeholder, reason = .missingParameter placeholder .dense
          (Dense.configSpec builtin.name builtin.dialect).name)) ∧
      ∀ rows columns zeros count, Dense.nonzeros layer rows columns zeros = .ok count →
        (rows * columns).toInt = rows.toInt * columns.toInt ∧
          (rows * columns - zeros).toInt = count := by
  refine ⟨_, builtin.backend_eq_ok, fun layer dense => ⟨?_, ?_, ?_, ?_⟩⟩
  · exact exists_format_config_iff dense
  · intro text rows columns zeros formatted sizes
    exact prints_of_format_config dense formatted sizes
  · intro reason failed
    exact format_config_eq_error_cases dense failed
  · intro rows columns zeros count counted
    obtain ⟨fits, rfl⟩ := Dense.nonzeros_eq_ok_iff.mp counted
    exact ⟨fits.toInt_mul, fits.toInt_mul_sub⟩

/-- A dense layer with six weights and an attribute in the place of a type. -/
def smallDense (zeros : List (String × Attribute)) : Layer where
  name := "fc3"
  kind := .dense
  index := 3
  attributes := .ofList ([("n_in", .int 3), ("n_out", .int 2),
    ("bias_t.name", .text "bias3_t")] ++ zeros)
  types := .ofList [("accum_t", { name := "accum3_t" }), ("weight_t", { name := "weight3_t" })]

theorem isConsistent_smallDense : Dense.IsConsistent (smallDense []) 3 2 0 where
  sizes := ⟨by decide, by decide, rfl⟩
  fits := ⟨by decide, by decide, by decide, by decide, by decide⟩
  reusePad := Layer.exists_integer?_iff.mp ⟨none, rfl⟩
  blockPad := Layer.exists_integer?_iff.mp ⟨none, rfl⟩
  types := by
    have named : ∀ type ∈ Dense.typeNames,
        ((smallDense []).types.find? type).isSome = true ∨
          ((smallDense []).attribute? (type ++ ".name")).isSome = true := by
      decide
    exact named

theorem isRefused_smallDense : Dense.IsRefused (smallDense [("n_zeros", .int 7)]) := by
  have sizes : Dense.HasSizes (smallDense [("n_zeros", .int 7)]) 3 2 7 :=
    ⟨by decide, by decide, rfl⟩
  exact .unfit sizes fun fits => absurd fits.room (by decide)

/-- Six weights have no room for seven zeros. -/
theorem format_smallDense :
    ∃ backend, Builtin.vivado.backend = .ok backend ∧
      (∃ text, backend.format .config (smallDense []) = .ok text ∧
        Dense.vivadoConfig.Prints text "n_zeros" "0" ∧
        Dense.vivadoConfig.Prints text "n_nonzeros" "6") ∧
      (∃ attr why, backend.format .config (smallDense [("n_zeros", .int 7)]) =
        .error (.invalidAttribute "fc3" attr why)) ∧
      ((3 : Int64) * 2 - 0).toInt = 6 := by
  obtain ⟨backend, built, formats⟩ := format_denseConfig .vivado
  obtain ⟨accepts, prints, -, exact_⟩ := formats (smallDense []) rfl
  obtain ⟨refuses, -, fails, -⟩ := formats (smallDense [("n_zeros", .int 7)]) rfl
  refine ⟨backend, built, ?_, ?_, ?_⟩
  · obtain ⟨text, formatted⟩ := accepts.mpr ⟨3, 2, 0, isConsistent_smallDense⟩
    obtain ⟨zeros, others⟩ := prints text 3 2 0 formatted isConsistent_smallDense.sizes
    exact ⟨text, formatted, zeros, others⟩
  · cases result : backend.format .config (smallDense [("n_zeros", .int 7)]) with
    | ok text =>
        have accepted := Dense.exists_isConsistent_iff.mp (refuses.mp ⟨text, result⟩)
        exact absurd isRefused_smallDense accepted.1
    | error reason =>
        rcases fails reason result with ⟨-, attr, why, rfl⟩ | ⟨accepted, -⟩
        · exact ⟨attr, why, rfl⟩
        · exact absurd isRefused_smallDense accepted
  · exact (exact_ 3 2 0 6 rfl).2

end Backend

end HlsEmit

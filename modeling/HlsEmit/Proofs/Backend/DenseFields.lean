import HlsEmit.Proofs.Backend.DenseConfig
import HlsEmit.Proofs.Text.Characters

/-! # Unsigned fields of dense layers

Every field of the struct of a dense layer that counts something is the decimal text
of a natural number, since the sizes are checked. The reuse factor is no count of the
layer but a parameter of every template, and shown as the layer has it. The padding
of blocks is a number that is zero if the layer has none.
-/

namespace HlsEmit

open Table (bound?_cons)

namespace Dense

/-- The fields for the padding of blocks, with their attributes. -/
def padFields : List (String × String) := [("rf_pad", "rfpad"), ("bf_pad", "bfpad")]

/-- The sizes and counts of a matrix that fit together are natural numbers. -/
theorem Fits.exists_counts {rows columns zeros : Int64} (fits : Fits rows columns zeros) :
    ∃ rowCount columnCount zeroCount others : Nat, rows.toInt = rowCount ∧
      columns.toInt = columnCount ∧ zeros.toInt = zeroCount ∧
      rows.toInt * columns.toInt - zeros.toInt = others ∧
      rowCount * columnCount = zeroCount + others := by
  obtain ⟨rowCount, rowsEq⟩ := Int.eq_ofNat_of_zero_le fits.rowsNonneg
  obtain ⟨columnCount, columnsEq⟩ := Int.eq_ofNat_of_zero_le fits.columnsNonneg
  obtain ⟨zeroCount, zerosEq⟩ := Int.eq_ofNat_of_zero_le fits.zerosNonneg
  obtain ⟨others, othersEq⟩ := Int.eq_ofNat_of_zero_le (Int.sub_nonneg_of_le fits.room)
  refine ⟨rowCount, columnCount, zeroCount, others, rowsEq, columnsEq, zerosEq, othersEq, ?_⟩
  rw [rowsEq, columnsEq, zerosEq] at othersEq
  have product : ((rowCount * columnCount : Nat) : Int) = zeroCount + others := by
    rw [← othersEq]
    push_cast
    omega
  exact_mod_cast product

/-- No struct of the family has two lines for one name. -/
theorem nodup_names_config (dialect : Dialect) :
    ((config dialect).lines.filterMap ConfigLine.name?).Nodup := by
  cases dialect <;> decide

/-- The lines of the fields that are the same in all dialects. -/
theorem fields_mem_config (dialect : Dialect) :
    ∀ line ∈ [("n_in", "n_in"), ("n_out", "n_out"), ("n_zeros", "nzeros"),
        ("n_nonzeros", "nonzeros"), ("reuse_factor", "reuse")],
      ConfigLine.unsigned line.1 line.2 ∈ (config dialect).lines := by
  cases dialect <;> decide

theorem pads_mem_config {dialect : Dialect} (intel : dialect ≠ .vivado) :
    ∀ line ∈ padFields, ConfigLine.unsigned line.1 line.2 ∈ (config dialect).lines := by
  cases dialect with
  | vivado => exact absurd rfl intel
  | quartus | oneApi => decide

section

variable {backend : String} {dialect : Dialect} {layer : Layer} {params : Params}
  (given : (configSheet backend dialect).Gives layer params)
include given

theorem find?_sizes {rows columns zeros : Int64} (sizes : HasSizes layer rows columns zeros) :
    params.find? "n_in" = some (toString rows.toInt) ∧
      params.find? "n_out" = some (toString columns.toInt) := by
  rw [find?_size given "n_in" (by decide), find?_size given "n_out" (by decide), sizes.rows,
    sizes.columns]
  exact ⟨rfl, rfl⟩

theorem find?_reuse : params.find? "reuse" = some (Params.reuseFactor layer) := by
  have made := dialect.isOf_sheets backend _ (configSheet_mem backend dialect)
  have structural : "reuse" ∈ (configSheet backend dialect).spec.role.structuralNames := by
    change "reuse" ∈ Role.config.structuralNames
    decide
  rw [given.find?_structural made structural]
  rfl

theorem find?_pads : ∀ pad ∈ padFields, ∃ number : Int64, layer.Counts pad.2 number ∧
    params.find? pad.2 = some (toString number.toInt) := by
  obtain ⟨pairs, reusePad, blockPad, -, reuse, block, rfl⟩ := gives_iff.mp given
  simp only [padFields, List.mem_cons, List.not_mem_nil, or_false, forall_eq_or_imp, forall_eq]
  refine ⟨⟨reusePad, reuse, ?_⟩, blockPad, block, ?_⟩
  · simp [Table.find?_insertAll_eq, strategyBindings, bound?_cons]
  · simp [Table.find?_insertAll_eq, strategyBindings, bound?_cons]

end

end Dense

namespace Backend

variable {name : String} {dialect : Dialect} {layer : Layer} {text : String}

/-- The struct of a dense layer that is formatted shows the values of the parameters. -/
theorem exists_declares_of_format_denseConfig (dense : layer.kind = .dense)
    (formatted : (ofDialect name dialect).format .config layer = .ok text) :
    ∃ params, (Dense.configSheet name dialect).Gives layer params ∧ ∃ values,
      ∀ field source value, ConfigLine.unsigned field source ∈ (Dense.config dialect).lines →
        params.find? source = some value →
          (Dense.config dialect).Declares values text "unsigned" field value := by
  have covered : layer.kind ∈ (Dense.configSheet name dialect).spec.family.kinds :=
    List.mem_singleton.mpr dense
  rw [Dense.format_config name dialect dense, Sheet.format_eq_ok_iff covered] at formatted
  obtain ⟨params, given, rendered⟩ := formatted
  obtain ⟨values, declares⟩ :=
    ConfigStruct.exists_declares_of_render (Dense.nodup_names_config dialect) rendered
  refine ⟨params, given, values, ?_⟩
  intro field source value line found
  obtain ⟨also, shown⟩ := declares "unsigned" field "" source line
  rwa [Option.some.inj (found.symm.trans also)]

/-- A formatted dense layer on a built-in backend declares sizes and counts that are natural
    numbers and fit together. Its reuse factor is that of the layer as it stands there,
    and each padding that is a natural number is shown as one. -/
theorem format_denseFields (builtin : Builtin) :
    ∃ backend, builtin.backend = .ok backend ∧ ∀ layer text, layer.kind = .dense →
      backend.format .config layer = .ok text → ∃ values,
        (∃ rows columns zeros nonzeros : Nat, rows * columns = zeros + nonzeros ∧
          ∀ field ∈ [("n_in", rows), ("n_out", columns), ("n_zeros", zeros),
              ("n_nonzeros", nonzeros)],
            (Dense.config builtin.dialect).Declares values text "unsigned" field.1
              (toString field.2)) ∧
        (Dense.config builtin.dialect).Declares values text "unsigned" "reuse_factor"
          (Params.reuseFactor layer) ∧
        (builtin.dialect ≠ .vivado → ∀ pad ∈ Dense.padFields, ∃ number : Int64,
          layer.Counts pad.2 number ∧ ∀ count : Nat, number.toInt = count →
            (Dense.config builtin.dialect).Declares values text "unsigned" pad.1
              (toString count)) := by
  refine ⟨_, builtin.backend_eq_ok, ?_⟩
  intro layer text dense formatted
  obtain ⟨rows, columns, zeros, consistent⟩ :=
    (exists_format_config_iff dense).mp ⟨text, formatted⟩
  obtain ⟨params, given, values, declares⟩ :=
    exists_declares_of_format_denseConfig dense formatted
  have lines := Dense.fields_mem_config builtin.dialect
  refine ⟨values, ?_, ?_, ?_⟩
  · obtain ⟨rowsFound, columnsFound⟩ := Dense.find?_sizes given consistent.sizes
    obtain ⟨zerosFound, othersFound⟩ := Dense.find?_counts given consistent.sizes
    obtain ⟨rowCount, columnCount, zeroCount, others, rowsEq, columnsEq, zerosEq, othersEq,
      product⟩ := consistent.fits.exists_counts
    rw [rowsEq] at rowsFound
    rw [columnsEq] at columnsFound
    rw [zerosEq] at zerosFound
    rw [othersEq] at othersFound
    refine ⟨rowCount, columnCount, zeroCount, others, product, ?_⟩
    simp only [List.forall_mem_cons]
    refine ⟨?_, ?_, ?_, ?_, nofun⟩
    · exact declares _ _ _ (lines ("n_in", "n_in") (by decide)) rowsFound
    · exact declares _ _ _ (lines ("n_out", "n_out") (by decide)) columnsFound
    · exact declares _ _ _ (lines ("n_zeros", "nzeros") (by decide)) zerosFound
    · exact declares _ _ _ (lines ("n_nonzeros", "nonzeros") (by decide)) othersFound
  · exact declares _ _ _ (lines ("reuse_factor", "reuse") (by decide)) (Dense.find?_reuse given)
  · intro intel pad listed
    obtain ⟨number, counts, found⟩ := Dense.find?_pads given pad listed
    refine ⟨number, counts, ?_⟩
    intro count same
    rw [same] at found
    exact declares _ _ _ (Dense.pads_mem_config intel pad listed) found

/-- Without padding and without a reuse factor the defaults are shown. -/
theorem format_smallDenseFields : ∃ backend, Builtin.quartus.backend = .ok backend ∧
    ∃ text values, backend.format .config (smallDense []) = .ok text ∧
      Dense.intelConfig.Declares values text "unsigned" "reuse_factor" "1" ∧
      Dense.intelConfig.Declares values text "unsigned" "bf_pad" "0" := by
  obtain ⟨backend, built, shows⟩ := format_denseFields .quartus
  have formats : ∃ text, backend.format .config (smallDense []) = .ok text := by
    obtain rfl := Except.ok.inj (Builtin.quartus.backend_eq_ok.symm.trans built)
    exact (exists_format_config_iff rfl).mpr ⟨3, 2, 0, isConsistent_smallDense⟩
  obtain ⟨text, formatted⟩ := formats
  obtain ⟨values, -, reuse, pads⟩ := shows (smallDense []) text rfl formatted
  obtain ⟨number, counts, padded⟩ := pads (by decide) ("bf_pad", "bfpad") (by decide)
  obtain rfl : 0 = number := Attribute.int.inj counts
  exact ⟨backend, built, text, values, formatted, reuse, padded 0 rfl⟩

/-- Attributes that no unsigned constant can hold. -/
def oddAttributes : List (String × Attribute) :=
  [("reuse_factor", .text "auto"), ("rfpad", .int (-1))]

/-- The numbers of a layer stay consistent with such an attribute. -/
theorem isConsistent_oddDense {extra : String × Attribute} (listed : extra ∈ oddAttributes) :
    Dense.IsConsistent (smallDense [extra]) 3 2 0 := by
  have named : ∀ extra ∈ oddAttributes, ∀ type ∈ Dense.typeNames,
      ((smallDense [extra]).types.find? type).isSome = true ∨
        ((smallDense [extra]).attribute? (type ++ ".name")).isSome = true := by
    decide
  have types := named extra listed
  have fits := isConsistent_smallDense.fits
  simp only [oddAttributes, List.mem_cons, List.not_mem_nil, or_false] at listed
  rcases listed with rfl | rfl
  · exact ⟨⟨by decide, by decide, rfl⟩, fits, Layer.exists_integer?_iff.mp ⟨none, rfl⟩,
      Layer.exists_integer?_iff.mp ⟨none, rfl⟩, types⟩
  · exact ⟨⟨by decide, by decide, rfl⟩, fits, Layer.exists_integer?_iff.mp ⟨some (-1), rfl⟩,
      Layer.exists_integer?_iff.mp ⟨none, rfl⟩, types⟩

/-- A reuse factor that is a text and a negative padding are shown, although neither is a
    natural number. -/
theorem declares_oddAttributes :
    (∃ backend, Builtin.vivado.backend = .ok backend ∧ ∃ text values,
      backend.format .config (smallDense [("reuse_factor", .text "auto")]) = .ok text ∧
        Dense.vivadoConfig.Declares values text "unsigned" "reuse_factor" "auto") ∧
    (∃ backend, Builtin.quartus.backend = .ok backend ∧ ∃ text values,
      backend.format .config (smallDense [("rfpad", .int (-1))]) = .ok text ∧
        Dense.intelConfig.Declares values text "unsigned" "rf_pad" "-1") ∧
    ∀ shown ∈ ["auto", "-1"], ∀ count : Nat, shown ≠ toString count := by
  have formats : ∀ builtin : Builtin, ∀ extra ∈ oddAttributes, ∃ text,
      (ofDialect builtin.name builtin.dialect).format .config (smallDense [extra]) = .ok text :=
    fun _ _ listed =>
      (exists_format_config_iff rfl).mpr ⟨3, 2, 0, isConsistent_oddDense listed⟩
  refine ⟨⟨_, Builtin.vivado.backend_eq_ok, ?_⟩, ⟨_, Builtin.quartus.backend_eq_ok, ?_⟩, ?_⟩
  · obtain ⟨text, formatted⟩ := formats .vivado ("reuse_factor", .text "auto") (by decide)
    obtain ⟨params, given, values, declares⟩ := exists_declares_of_format_denseConfig rfl formatted
    have line := Dense.fields_mem_config .vivado ("reuse_factor", "reuse") (by decide)
    exact ⟨text, values, formatted, declares _ _ _ line (Dense.find?_reuse given)⟩
  · obtain ⟨text, formatted⟩ := formats .quartus ("rfpad", .int (-1)) (by decide)
    obtain ⟨params, given, values, declares⟩ := exists_declares_of_format_denseConfig rfl formatted
    obtain ⟨number, counts, found⟩ := Dense.find?_pads given ("rf_pad", "rfpad") (by decide)
    obtain rfl : -1 = number := Attribute.int.inj counts
    have line : ConfigLine.unsigned "rf_pad" "rfpad" ∈ (Dense.config .quartus).lines :=
      Dense.pads_mem_config (by decide) ("rf_pad", "rfpad") (by decide)
    exact ⟨text, values, formatted, declares _ _ _ line found⟩
  · have others : ∀ shown ∈ ["auto", "-1"], shown.toList.all Char.isDigit = false := by decide
    rintro _ listed count rfl
    have digits : (toString count).toList.all Char.isDigit = true :=
      List.all_eq_true.mpr fun _ inside => isDigit_of_mem_toString inside
    rw [others _ listed] at digits
    cases digits

end Backend

end HlsEmit

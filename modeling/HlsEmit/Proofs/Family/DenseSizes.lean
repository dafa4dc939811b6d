import HlsEmit.Proofs.Family.Derivations
import Mathlib.Algebra.Ring.Int.Defs

/-! # The sizes of dense layers

The numbers of zero and of other weights are worked out from the sizes of a layer.
What the derivations ask of its attributes is that those read as numbers are
integers, and that the sizes fit: neither is negative, the matrix has a number of
entries that a 64-bit integer holds, and there is room for the zeros. The numbers
are then exact in 64-bit arithmetic too.
-/

namespace HlsEmit

namespace Layer

/-- The layer has an attribute of the name that is no integer. -/
def Misstates (layer : Layer) (name : String) : Prop :=
  ∃ value, layer.attribute? name = some value ∧ ∀ number, value ≠ .int number

/-- The attribute is that number. One that is absent counts as zero. -/
def Counts (layer : Layer) (name : String) (number : Int64) : Prop :=
  (layer.attribute? name).getD (.int 0) = .int number

variable {layer : Layer} {name : String}

theorem not_misstates_of_int {number : Int64} (held : layer.attribute? name = some (.int number)) :
    ¬ layer.Misstates name := by
  rintro ⟨value, present, other⟩
  rw [held] at present
  exact other number (Option.some.inj present).symm

theorem integer?_eq_ok_iff {value? : Option Int64} :
    layer.integer? name = .ok value? ↔ layer.attribute? name = value?.map .int := by
  rw [integer?]
  cases layer.attribute? name with
  | none => cases value? <;> simp
  | some value => cases value <;> cases value? <;> simp

theorem exists_integer?_iff :
    (∃ value?, layer.integer? name = .ok value?) ↔ ¬ layer.Misstates name := by
  simp only [integer?_eq_ok_iff]
  constructor
  · rintro ⟨value?, held⟩ ⟨value, present, other⟩
    rw [held] at present
    obtain ⟨number, -, rfl⟩ := Option.map_eq_some_iff.mp present
    exact other number rfl
  · intro stated
    cases held : layer.attribute? name with
    | none => exact ⟨none, rfl⟩
    | some value =>
        by_contra other
        refine stated ⟨value, held, ?_⟩
        rintro number rfl
        exact other ⟨some number, rfl⟩

theorem counts_iff {number : Int64} : layer.Counts name number ↔
    ∃ value?, layer.integer? name = .ok value? ∧ value?.getD 0 = number := by
  simp only [Counts, integer?_eq_ok_iff]
  constructor
  · intro counts
    cases held : layer.attribute? name with
    | none =>
        rw [held] at counts
        exact ⟨none, rfl, Attribute.int.inj counts⟩
    | some value =>
        rw [held] at counts
        obtain rfl : value = .int number := counts
        exact ⟨some number, rfl, rfl⟩
  · rintro ⟨value?, held, rfl⟩
    cases value? <;> simp [held]

theorem Counts.unique {number other : Int64} (counts : layer.Counts name number)
    (also : layer.Counts name other) : number = other :=
  Attribute.int.inj (counts.symm.trans also)

theorem exists_counts_iff : (∃ number, layer.Counts name number) ↔ ¬ layer.Misstates name := by
  rw [← exists_integer?_iff]
  constructor
  · rintro ⟨number, counts⟩
    obtain ⟨value?, read, -⟩ := counts_iff.mp counts
    exact ⟨value?, read⟩
  · rintro ⟨value?, read⟩
    exact ⟨_, counts_iff.mpr ⟨value?, read, rfl⟩⟩

end Layer

namespace Dense

/-- A product of sizes is a 64-bit integer exactly up to the largest one. -/
theorem toInt_mul_iff {rows columns : Int64} (rowsNonneg : 0 ≤ rows.toInt)
    (columnsNonneg : 0 ≤ columns.toInt) :
    (rows * columns).toInt = rows.toInt * columns.toInt ↔
      rows.toInt * columns.toInt ≤ 2 ^ 63 - 1 := by
  have nonneg := Int.mul_nonneg rowsNonneg columnsNonneg
  constructor
  · intro exact_
    have bounded := (rows * columns).toInt_lt
    omega
  · intro countable
    rw [Int64.toInt_mul]
    exact Int.bmod_eq_of_le (by omega) (by omega)

/-- A matrix of these sizes can be counted and has room for the zeros. -/
structure Fits (rows columns zeros : Int64) : Prop where
  rowsNonneg : 0 ≤ rows.toInt
  columnsNonneg : 0 ≤ columns.toInt
  countable : rows.toInt * columns.toInt ≤ 2 ^ 63 - 1
  zerosNonneg : 0 ≤ zeros.toInt
  room : zeros.toInt ≤ rows.toInt * columns.toInt

namespace Fits

variable {rows columns zeros : Int64}

theorem toInt_mul (fits : Fits rows columns zeros) :
    (rows * columns).toInt = rows.toInt * columns.toInt :=
  (toInt_mul_iff fits.rowsNonneg fits.columnsNonneg).mpr fits.countable

theorem toInt_mul_sub (fits : Fits rows columns zeros) :
    (rows * columns - zeros).toInt = rows.toInt * columns.toInt - zeros.toInt := by
  have product := fits.toInt_mul
  obtain ⟨-, -, countable, zerosNonneg, room⟩ := fits
  rw [Int64.toInt_sub, product]
  exact Int.bmod_eq_of_le (by omega) (by omega)

end Fits

theorem checkSize_eq_ok_iff {layer : Layer} {name : String} {value : Int64} :
    checkSize layer name value = .ok () ↔ 0 ≤ value.toInt := by
  rw [checkSize]
  split
  · simp_all
  · simp_all

theorem nonzeros_eq_ok_iff {layer : Layer} {rows columns zeros : Int64} {count : Int} :
    nonzeros layer rows columns zeros = .ok count ↔ Fits rows columns zeros ∧
      count = rows.toInt * columns.toInt - zeros.toInt := by
  have largest : Int64.maxValue.toInt = 2 ^ 63 - 1 := by decide
  rw [nonzeros]
  simp only [Outcome.bind_eq_ok_iff, largest]
  constructor
  · rintro ⟨_, rowsNonneg, _, columnsNonneg, counted⟩
    split at counted
    · cases counted
    · split at counted
      · cases counted
      · obtain rfl := Except.ok.inj counted
        exact ⟨⟨checkSize_eq_ok_iff.mp rowsNonneg, checkSize_eq_ok_iff.mp columnsNonneg,
          by omega, by omega, by omega⟩, rfl⟩
  · rintro ⟨fits, rfl⟩
    refine ⟨(), checkSize_eq_ok_iff.mpr fits.rowsNonneg, (),
      checkSize_eq_ok_iff.mpr fits.columnsNonneg, ?_⟩
    obtain ⟨-, -, countable, zerosNonneg, room⟩ := fits
    rw [if_neg (by omega), if_neg (by omega)]
    rfl

/-- The sizes of a layer and its number of zeros. -/
structure HasSizes (layer : Layer) (rows columns zeros : Int64) : Prop where
  rows : layer.attribute? "n_in" = some (.int rows)
  columns : layer.attribute? "n_out" = some (.int columns)
  zeros : layer.Counts "n_zeros" zeros

theorem HasSizes.unique {layer : Layer} {rows columns zeros : Int64}
    {otherRows otherColumns otherZeros : Int64}
    (sizes : HasSizes layer rows columns zeros)
    (others : HasSizes layer otherRows otherColumns otherZeros) :
    rows = otherRows ∧ columns = otherColumns ∧ zeros = otherZeros := by
  obtain rfl := Attribute.int.inj (Option.some.inj (sizes.rows.symm.trans others.rows))
  obtain rfl := Attribute.int.inj (Option.some.inj (sizes.columns.symm.trans others.columns))
  exact ⟨rfl, rfl, sizes.zeros.unique others.zeros⟩

/-- The bindings for a layer whose counts are in order. -/
inductive Tallies (layer : Layer) : List (String × String) → Prop where
  | whole {rows columns zeros : Int64} : HasSizes layer rows columns zeros →
      Fits rows columns zeros → Tallies layer [("nzeros", toString zeros.toInt),
        ("nonzeros", toString (rows.toInt * columns.toInt - zeros.toInt))]
  /-- Without a size nothing is checked. -/
  | sizeless {zeros : Int64} : layer.Counts "n_zeros" zeros → ¬ layer.Misstates "n_in" →
      ¬ layer.Misstates "n_out" →
      layer.attribute? "n_in" = none ∨ layer.attribute? "n_out" = none →
      Tallies layer [("nzeros", toString zeros.toInt)]

section

variable {context : DeriveContext} {layer : Layer} {before after : Params}

theorem sparsity_apply_eq_ok_iff : sparsity.apply context layer before = .ok after ↔
    ∃ pairs, Tallies layer pairs ∧ before.insertAll pairs = after := by
  rw [sparsity, Derivation.writing_apply_eq_ok_iff]
  apply exists_congr
  intro pairs
  apply and_congr_left
  intro _
  simp only [Outcome.bind_eq_ok_iff]
  constructor
  · rintro ⟨zeros, zerosRead, rows, rowsRead, columns, columnsRead, bound⟩
    have zerosCount := Layer.counts_iff.mpr ⟨zeros, zerosRead, rfl⟩
    have rowsHeld := Layer.integer?_eq_ok_iff.mp rowsRead
    have columnsHeld := Layer.integer?_eq_ok_iff.mp columnsRead
    split at bound
    · obtain ⟨count, counted, bound⟩ := Outcome.bind_eq_ok_iff.mp bound
      obtain rfl := Except.ok.inj bound
      obtain ⟨fits, rfl⟩ := nonzeros_eq_ok_iff.mp counted
      exact .whole ⟨rowsHeld, columnsHeld, zerosCount⟩ fits
    · rename_i absent
      obtain rfl := Except.ok.inj bound
      refine .sizeless zerosCount (Layer.exists_integer?_iff.mp ⟨rows, rowsRead⟩)
        (Layer.exists_integer?_iff.mp ⟨columns, columnsRead⟩) ?_
      cases rows with
      | none => exact .inl rowsHeld
      | some rows =>
          cases columns with
          | none => exact .inr columnsHeld
          | some columns => exact absurd rfl (absent rows columns rfl)
  · rintro (⟨sizes, fits⟩ | ⟨zerosCount, rowsStated, columnsStated, absent⟩)
    · obtain ⟨zeros, zerosRead, rfl⟩ := Layer.counts_iff.mp sizes.zeros
      have counted := (@nonzeros_eq_ok_iff layer _ _ _ _).mpr ⟨fits, rfl⟩
      exact ⟨zeros, zerosRead, some _, Layer.integer?_eq_ok_iff.mpr sizes.rows, some _,
        Layer.integer?_eq_ok_iff.mpr sizes.columns, Outcome.bind_eq_ok_iff.mpr ⟨_, counted, rfl⟩⟩
    · obtain ⟨zeros, zerosRead, rfl⟩ := Layer.counts_iff.mp zerosCount
      obtain ⟨rows, rowsRead⟩ := Layer.exists_integer?_iff.mpr rowsStated
      obtain ⟨columns, columnsRead⟩ := Layer.exists_integer?_iff.mpr columnsStated
      refine ⟨zeros, zerosRead, rows, rowsRead, columns, columnsRead, ?_⟩
      rw [Layer.integer?_eq_ok_iff] at rowsRead columnsRead
      rcases absent with absent | absent
      · obtain rfl : rows = none := by simpa [absent, eq_comm] using rowsRead
        rfl
      · obtain rfl : columns = none := by simpa [absent, eq_comm] using columnsRead
        cases rows <;> rfl

/-- The bindings for the strategy, the product and the padding of blocks. -/
def strategyBindings (layer : Layer) (reusePad blockPad : Int64) : List (String × String) :=
  [("strategy", layer.lowered "strategy" "latency"),
    ("product_type", layer.lowered "product_type" "mult"),
    ("rfpad", toString reusePad.toInt), ("bfpad", toString blockPad.toInt)]

theorem strategy_apply_eq_ok_iff : strategy.apply context layer before = .ok after ↔
    ∃ reusePad blockPad : Int64, layer.Counts "rfpad" reusePad ∧ layer.Counts "bfpad" blockPad ∧
      before.insertAll (strategyBindings layer reusePad blockPad) = after := by
  rw [strategy, Derivation.writing_apply_eq_ok_iff]
  simp only [Outcome.bind_eq_ok_iff, Layer.counts_iff]
  constructor
  · rintro ⟨_, ⟨reusePad, reuseRead, blockPad, blockRead, bound⟩, rfl⟩
    obtain rfl := Except.ok.inj bound
    exact ⟨_, _, ⟨reusePad, reuseRead, rfl⟩, ⟨blockPad, blockRead, rfl⟩, rfl⟩
  · rintro ⟨_, _, ⟨reusePad, reuseRead, rfl⟩, ⟨blockPad, blockRead, rfl⟩, rfl⟩
    exact ⟨_, ⟨reusePad, reuseRead, blockPad, blockRead, rfl⟩, rfl⟩

end

/-- An attribute is of no use as a number, or the numbers do not fit together. -/
inductive IsRefused (layer : Layer) : Prop where
  | misstated {name : String} : name ∈ ["n_zeros", "n_in", "n_out", "rfpad", "bfpad"] →
      layer.Misstates name → IsRefused layer
  | unfit {rows columns zeros : Int64} : HasSizes layer rows columns zeros →
      ¬ Fits rows columns zeros → IsRefused layer

theorem Tallies.stated {layer : Layer} {pairs : List (String × String)}
    (tallies : Tallies layer pairs) :
    ∀ name ∈ ["n_zeros", "n_in", "n_out"], ¬ layer.Misstates name := by
  simp only [List.mem_cons, List.not_mem_nil, or_false, forall_eq_or_imp, forall_eq]
  cases tallies with
  | whole sizes _ =>
      exact ⟨Layer.exists_counts_iff.mp ⟨_, sizes.zeros⟩, Layer.not_misstates_of_int sizes.rows,
        Layer.not_misstates_of_int sizes.columns⟩
  | sizeless zeros rowsStated columnsStated _ =>
      exact ⟨Layer.exists_counts_iff.mp ⟨_, zeros⟩, rowsStated, columnsStated⟩

theorem exists_tallies_of_not_isRefused {layer : Layer} (accepted : ¬ IsRefused layer) :
    ∃ pairs, Tallies layer pairs := by
  have stated : ∀ name ∈ ["n_zeros", "n_in", "n_out"], ¬ layer.Misstates name := by
    intro name listed misstates
    exact accepted (.misstated (List.mem_append_left ["rfpad", "bfpad"] listed) misstates)
  obtain ⟨zeros, zerosCount⟩ := Layer.exists_counts_iff.mpr (stated "n_zeros" (by decide))
  obtain ⟨rows?, rowsRead⟩ := Layer.exists_integer?_iff.mpr (stated "n_in" (by decide))
  obtain ⟨columns?, columnsRead⟩ := Layer.exists_integer?_iff.mpr (stated "n_out" (by decide))
  rw [Layer.integer?_eq_ok_iff] at rowsRead columnsRead
  have sizeless : layer.attribute? "n_in" = none ∨ layer.attribute? "n_out" = none →
      ∃ pairs, Tallies layer pairs := fun absent =>
    ⟨_, .sizeless zerosCount (stated "n_in" (by decide)) (stated "n_out" (by decide)) absent⟩
  cases rows? with
  | none => exact sizeless (.inl rowsRead)
  | some rows =>
      cases columns? with
      | none => exact sizeless (.inr columnsRead)
      | some columns =>
          have sizes : HasSizes layer rows columns zeros := ⟨rowsRead, columnsRead, zerosCount⟩
          have fits : Fits rows columns zeros := by
            by_contra unfit
            exact accepted (.unfit sizes unfit)
          exact ⟨_, .whole sizes fits⟩

theorem not_isRefused_iff {layer : Layer} : ¬ IsRefused layer ↔
    (∃ pairs, Tallies layer pairs) ∧ ¬ layer.Misstates "rfpad" ∧ ¬ layer.Misstates "bfpad" := by
  constructor
  · intro accepted
    refine ⟨exists_tallies_of_not_isRefused accepted, ?_, ?_⟩
    · exact fun misstates => accepted (.misstated (by decide) misstates)
    · exact fun misstates => accepted (.misstated (by decide) misstates)
  · rintro ⟨⟨pairs, tallies⟩, reuseStated, blockStated⟩ refused
    cases refused with
    | misstated listed misstates =>
        have stated := tallies.stated
        simp only [List.mem_cons, List.not_mem_nil, or_false] at listed
        rcases listed with rfl | rfl | rfl | rfl | rfl
        · exact stated _ (by decide) misstates
        · exact stated _ (by decide) misstates
        · exact stated _ (by decide) misstates
        · exact reuseStated misstates
        · exact blockStated misstates
    | unfit sizes unfit =>
        cases tallies with
        | whole others fits =>
            obtain ⟨rfl, rfl, rfl⟩ := sizes.unique others
            exact unfit fits
        | sizeless _ _ _ absent => simp [sizes.rows, sizes.columns] at absent

/-- The derivations of the configuration fail for layers that are refused, and with an
    invalid attribute. -/
theorem isRefused_of_error {context : DeriveContext} {layer : Layer} {params : Params}
    {reason : CodegenError} {d : Derivation} (member : d ∈ [sparsity, strategy])
    (failed : d.apply context layer params = .error reason) :
    IsRefused layer ∧ ∃ attr why, reason = .invalidAttribute layer.name attr why := by
  have refused : (∀ after, d.apply context layer params ≠ .ok after) := by
    intro after done
    rw [failed] at done
    cases done
  simp only [List.mem_cons, List.not_mem_nil, or_false] at member
  rcases member with rfl | rfl
  · refine ⟨?_, sparsity_eq_error failed⟩
    by_contra accepted
    obtain ⟨⟨pairs, tallies⟩, -⟩ := not_isRefused_iff.mp accepted
    exact refused _ (sparsity_apply_eq_ok_iff.mpr ⟨pairs, tallies, rfl⟩)
  · refine ⟨?_, strategy_eq_error failed⟩
    by_contra accepted
    obtain ⟨-, reuseStated, blockStated⟩ := not_isRefused_iff.mp accepted
    obtain ⟨reusePad, reuse⟩ := Layer.exists_counts_iff.mpr reuseStated
    obtain ⟨blockPad, block⟩ := Layer.exists_counts_iff.mpr blockStated
    exact refused _ (strategy_apply_eq_ok_iff.mpr ⟨reusePad, blockPad, reuse, block, rfl⟩)

end Dense

end HlsEmit

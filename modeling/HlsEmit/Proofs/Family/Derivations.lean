import HlsEmit.Backend.Builtin
import HlsEmit.Proofs.Template.Derivations

/-! # The derivations of the built-in families

Which derivations a family uses depends on the dialect and the role. All of them
write bindings under names that they provide. Two kinds of failure exist: a layout
that the dialect does not have, and a dense layer with an attribute that is of no
use as a number.
-/

namespace HlsEmit

open Table (bound? bound?_append)
open HlsEmit.Derivation (isWriting_writing writing_apply_eq_error_iff)

/-- The derivations that a family uses in a role. -/
inductive Dialect.Derives (dialect : Dialect) : LayerFamily → Role → Derivation → Prop
  | filterSlots : Derives dialect Pooling.family .config Pooling.filterSlots
  | implementation : dialect = .vivado →
      Derives dialect Pooling.family .config Pooling.implementation
  | layout {role} : role = .call ∨ role = .taskSequence →
      Derives dialect Pooling.family role (Layout.derivation dialect)
  | sparsity : Derives dialect Dense.family .config Dense.sparsity
  | strategy {role} : role ≠ .streamCall → Derives dialect Dense.family role Dense.strategy
  | weightNames {role} : role = .call ∨ role = .streamCall →
      Derives dialect Dense.family role Dense.weightNames
  | activationName {role} : role ≠ .streamCall →
      Derives dialect Activation.family role Activation.activationName

namespace Pooling

/-- The attributes that are also given under second names, with these names. -/
def slots : List (String × String) :=
  [("pool_width", "filt_width"), ("pool_height", "filt_height"), ("n_filt", "n_chan")]

theorem copied_eq_toList (layer : Layer) (source slot : String) : copied layer source slot =
    (((layer.attribute? source).map Attribute.render).map (slot, ·)).toList := by
  rw [copied]
  cases layer.attribute? source <;> rfl

theorem bound?_copied (layer : Layer) (source slot name : String) :
    bound? (copied layer source slot) name =
      if slot = name then (layer.attribute? source).map Attribute.render else none := by
  rw [copied_eq_toList, Table.bound?_toList]

theorem fst_of_mem_copied {layer : Layer} {source slot : String} {pair : String × String}
    (member : pair ∈ copied layer source slot) : pair.1 = slot := by
  rw [copied_eq_toList] at member
  exact Table.fst_of_mem_toList member

theorem sets_filterSlots {context : DeriveContext} {layer : Layer} {slot : String × String}
    (listed : slot ∈ slots) {value : Attribute} (held : layer.attribute? slot.1 = some value) :
    filterSlots.Sets context layer slot.2 value.render := by
  apply Derivation.sets_writing
  intro pairs given
  obtain rfl := Except.ok.inj given
  simp only [slots, List.mem_cons, List.not_mem_nil, or_false] at listed
  rcases listed with rfl | rfl | rfl
  all_goals simp [bound?_append, bound?_copied, held]

theorem isWriting_filterSlots : filterSlots.IsWriting := by
  apply isWriting_writing
  intro context layer pairs given pair member
  obtain rfl := Except.ok.inj given
  simp only [List.mem_append] at member
  rcases member with (width | height) | filters
  · rw [fst_of_mem_copied width]; decide
  · rw [fst_of_mem_copied height]; decide
  · rw [fst_of_mem_copied filters]; decide

theorem dataFormat_mem_attributes {kind : LayerKind} (covered : kind ∈ family.kinds) :
    "data_format" ∈ family.attributes kind := by
  revert covered
  cases kind <;> decide

theorem isWriting_implementation : implementation.IsWriting := by
  apply isWriting_writing
  intro context layer pairs given pair member
  obtain rfl := Except.ok.inj given
  simp_all

end Pooling

namespace Layout

theorem isWriting_derivation (dialect : Dialect) : (derivation dialect).IsWriting := by
  have either : channelFormat.IsWriting := by
    apply isWriting_writing
    intro context layer pairs given pair member
    obtain rfl := Except.ok.inj given
    simp_all
  have last : channelsLastOnly.IsWriting := by
    apply isWriting_writing
    intro context layer pairs given pair member
    split at given
    · cases given
    · obtain rfl := Except.ok.inj given
      simp_all
  cases dialect with
  | vivado => exact either
  | quartus => exact last
  | oneApi => exact last

theorem derivation_eq_error {dialect : Dialect} {context : DeriveContext} {layer : Layer}
    {params : Params} {reason : CodegenError}
    (failed : (derivation dialect).apply context layer params = .error reason) :
    dialect ≠ .vivado ∧ layer.channelsFirst = true ∧
      reason = .unsupportedLayout "channels_first" context.backend layer.name := by
  have last : ∀ other, other ≠ .vivado → derivation other = channelsLastOnly → dialect = other →
      dialect ≠ .vivado ∧ layer.channelsFirst = true ∧
        reason = .unsupportedLayout "channels_first" context.backend layer.name := by
    rintro other differs shape rfl
    rw [shape, channelsLastOnly, writing_apply_eq_error_iff] at failed
    split at failed
    · rename_i first
      exact ⟨differs, first, (Except.error.inj failed).symm⟩
    · cases failed
  cases dialect with
  | vivado =>
      rw [derivation, channelFormat, writing_apply_eq_error_iff] at failed
      cases failed
  | quartus => exact last .quartus (by decide) rfl rfl
  | oneApi => exact last .oneApi (by decide) rfl rfl

end Layout

theorem Layer.text?_eq_some_iff {layer : Layer} {name text : String} :
    layer.text? name = some text ↔ layer.attribute? name = some (.text text) := by
  rw [text?]
  cases layer.attribute? name with
  | none => simp
  | some value => cases value <;> simp [Attribute.text?]

theorem Layer.integer?_eq_error {layer : Layer} {name : String} {reason : CodegenError}
    (failed : layer.integer? name = .error reason) :
    ∃ why, reason = .invalidAttribute layer.name name why := by
  rw [integer?] at failed
  cases held : layer.attribute? name with
  | none => simp [held] at failed
  | some value =>
      cases value <;> simp only [held, reduceCtorEq, Except.error.injEq] at failed <;>
        exact ⟨_, failed.symm⟩

namespace Dense

theorem weightName_eq_toList (layer : Layer) (weight slot : String) :
    weightName layer weight slot =
      (((layer.weights.find? weight).map Variable.name).map (slot, ·)).toList := by
  rw [weightName]
  cases layer.weights.find? weight <;> rfl

theorem bound?_weightName (layer : Layer) (weight slot name : String) :
    bound? (weightName layer weight slot) name =
      if slot = name then (layer.weights.find? weight).map Variable.name else none := by
  rw [weightName_eq_toList, Table.bound?_toList]

theorem fst_of_mem_weightName {layer : Layer} {weight slot : String} {pair : String × String}
    (member : pair ∈ weightName layer weight slot) : pair.1 = slot := by
  rw [weightName_eq_toList] at member
  exact Table.fst_of_mem_toList member

/-- The names of the arrays of a dense layer, with the weights that they stand for. -/
def arrays : List (String × String) := [("weight", "w"), ("bias", "b")]

theorem sets_weightNames {context : DeriveContext} {layer : Layer} {array : String × String}
    (listed : array ∈ arrays) {v : Variable} (held : layer.weights.find? array.1 = some v) :
    weightNames.Sets context layer array.2 v.name := by
  apply Derivation.sets_writing
  intro pairs given
  obtain rfl := Except.ok.inj given
  simp only [arrays, List.mem_cons, List.not_mem_nil, or_false] at listed
  rcases listed with rfl | rfl
  all_goals simp [bound?_append, bound?_weightName, held]

theorem spares_weightNames {context : DeriveContext} {layer : Layer} {array : String × String}
    (listed : array ∈ arrays) (absent : layer.weights.find? array.1 = none) :
    weightNames.Spares context layer array.2 := by
  apply Derivation.spares_writing
  intro pairs given
  obtain rfl := Except.ok.inj given
  simp only [arrays, List.mem_cons, List.not_mem_nil, or_false] at listed
  rcases listed with rfl | rfl
  all_goals simp [bound?_append, bound?_weightName, absent]

theorem isWriting_weightNames : weightNames.IsWriting := by
  apply isWriting_writing
  intro context layer pairs given pair member
  obtain rfl := Except.ok.inj given
  rcases List.mem_append.mp member with weights | biases
  · rw [fst_of_mem_weightName weights]; decide
  · rw [fst_of_mem_weightName biases]; decide

theorem nonzeros_eq_error {layer : Layer} {rows columns zeros : Int64} {reason : CodegenError}
    (failed : nonzeros layer rows columns zeros = .error reason) :
    ∃ attr why, reason = .invalidAttribute layer.name attr why := by
  have size : ∀ name value, checkSize layer name value = .error reason →
      ∃ attr why, reason = .invalidAttribute layer.name attr why := by
    intro name value refused
    rw [checkSize] at refused
    split at refused
    · exact ⟨_, _, (Except.error.inj refused).symm⟩
    · cases refused
  rw [nonzeros] at failed
  rcases Outcome.bind_eq_error_iff.mp failed with refused | ⟨_, _, failed⟩
  · exact size _ _ refused
  rcases Outcome.bind_eq_error_iff.mp failed with refused | ⟨_, _, failed⟩
  · exact size _ _ refused
  dsimp only at failed
  split at failed
  · exact ⟨_, _, (Except.error.inj failed).symm⟩
  · split at failed
    · exact ⟨_, _, (Except.error.inj failed).symm⟩
    · cases failed

theorem sparsity_eq_error {context : DeriveContext} {layer : Layer} {params : Params}
    {reason : CodegenError} (failed : sparsity.apply context layer params = .error reason) :
    ∃ attr why, reason = .invalidAttribute layer.name attr why := by
  have integer : ∀ name, layer.integer? name = .error reason →
      ∃ attr why, reason = .invalidAttribute layer.name attr why := by
    intro name refused
    obtain ⟨why, same⟩ := Layer.integer?_eq_error refused
    exact ⟨name, why, same⟩
  rw [sparsity, writing_apply_eq_error_iff] at failed
  rcases Outcome.bind_eq_error_iff.mp failed with refused | ⟨_, _, failed⟩
  · exact integer _ refused
  rcases Outcome.bind_eq_error_iff.mp failed with refused | ⟨rows, _, failed⟩
  · exact integer _ refused
  rcases Outcome.bind_eq_error_iff.mp failed with refused | ⟨columns, _, failed⟩
  · exact integer _ refused
  split at failed
  · rcases Outcome.bind_eq_error_iff.mp failed with refused | ⟨_, _, done⟩
    · exact nonzeros_eq_error refused
    · cases done
  · cases failed

theorem strategy_eq_error {context : DeriveContext} {layer : Layer} {params : Params}
    {reason : CodegenError} (failed : strategy.apply context layer params = .error reason) :
    ∃ attr why, reason = .invalidAttribute layer.name attr why := by
  rw [strategy, writing_apply_eq_error_iff] at failed
  rcases Outcome.bind_eq_error_iff.mp failed with refused | ⟨_, _, failed⟩
  · exact ⟨_, Layer.integer?_eq_error refused⟩
  rcases Outcome.bind_eq_error_iff.mp failed with refused | ⟨_, _, done⟩
  · exact ⟨_, Layer.integer?_eq_error refused⟩
  · cases done

theorem isWriting_sparsity : sparsity.IsWriting := by
  apply isWriting_writing
  intro context layer pairs given pair member
  obtain ⟨_, _, given⟩ := Outcome.bind_eq_ok_iff.mp given
  obtain ⟨rows, _, given⟩ := Outcome.bind_eq_ok_iff.mp given
  obtain ⟨columns, _, given⟩ := Outcome.bind_eq_ok_iff.mp given
  split at given
  · obtain ⟨_, _, given⟩ := Outcome.bind_eq_ok_iff.mp given
    obtain rfl := Except.ok.inj given
    simp only [List.mem_cons, List.not_mem_nil, or_false] at member
    rcases member with rfl | rfl <;> simp
  · obtain rfl := Except.ok.inj given
    rw [List.mem_singleton.mp member]
    simp

theorem exists_sets_sparsity {context : DeriveContext} {layer : Layer} {rows columns : Attribute}
    (rowsHeld : layer.attribute? "n_in" = some rows)
    (columnsHeld : layer.attribute? "n_out" = some columns) {name : String}
    (provided : name ∈ sparsity.provides) : ∃ value, sparsity.Sets context layer name value := by
  have present : ∀ attr value size, layer.attribute? attr = some value →
      layer.integer? attr = .ok size → size ≠ none := by
    rintro attr value size held read rfl
    rw [Layer.integer?, held] at read
    cases value <;> simp at read
  apply Derivation.exists_sets_writing
  intro pairs given
  obtain ⟨_, _, given⟩ := Outcome.bind_eq_ok_iff.mp given
  obtain ⟨rows, rowsRead, given⟩ := Outcome.bind_eq_ok_iff.mp given
  obtain ⟨columns, columnsRead, given⟩ := Outcome.bind_eq_ok_iff.mp given
  split at given
  · obtain ⟨_, _, given⟩ := Outcome.bind_eq_ok_iff.mp given
    obtain rfl := Except.ok.inj given
    have named : name = "nzeros" ∨ name = "nonzeros" := by
      simpa [sparsity, Derivation.writing] using provided
    rcases named with rfl | rfl <;> simp [Table.bound?_cons]
  · rename_i lacking
    cases rows with
    | none => exact absurd rfl (present _ _ _ rowsHeld rowsRead)
    | some rows =>
        cases columns with
        | none => exact absurd rfl (present _ _ _ columnsHeld columnsRead)
        | some columns => exact absurd rfl (lacking rows columns rfl)

theorem isWriting_strategy : strategy.IsWriting := by
  apply isWriting_writing
  intro context layer pairs given pair member
  obtain ⟨_, _, given⟩ := Outcome.bind_eq_ok_iff.mp given
  obtain ⟨_, _, given⟩ := Outcome.bind_eq_ok_iff.mp given
  obtain rfl := Except.ok.inj given
  simp only [List.mem_cons, List.not_mem_nil, or_false] at member
  rcases member with rfl | rfl | rfl | rfl <;> simp

end Dense

theorem Activation.isWriting_activationName : activationName.IsWriting := by
  apply isWriting_writing
  intro context layer pairs given pair member
  obtain rfl := Except.ok.inj given
  split at member
  · simp only [List.mem_cons, List.not_mem_nil, or_false] at member
    rcases member with rfl | rfl <;> simp
  · rw [List.mem_singleton.mp member]
    simp

namespace Dialect.Derives

variable {dialect : Dialect} {family : LayerFamily} {role : Role} {d : Derivation}

theorem isWriting (derives : dialect.Derives family role d) : d.IsWriting := by
  cases derives with
  | filterSlots => exact Pooling.isWriting_filterSlots
  | implementation => exact Pooling.isWriting_implementation
  | layout => exact Layout.isWriting_derivation dialect
  | sparsity => exact Dense.isWriting_sparsity
  | strategy => exact Dense.isWriting_strategy
  | weightNames => exact Dense.isWriting_weightNames
  | activationName => exact Activation.isWriting_activationName

/-- Why a derivation refuses a layer. -/
theorem eq_error_cases (derives : dialect.Derives family role d) {context : DeriveContext}
    {layer : Layer} {params : Params} {reason : CodegenError}
    (failed : d.apply context layer params = .error reason) :
    (family = Pooling.family ∧ dialect ≠ .vivado ∧ (role = .call ∨ role = .taskSequence) ∧
      layer.channelsFirst = true ∧
      reason = .unsupportedLayout "channels_first" context.backend layer.name) ∨
    (family = Dense.family ∧ role ≠ .streamCall ∧
      ∃ attr why, reason = .invalidAttribute layer.name attr why) := by
  cases derives with
  | filterSlots =>
      rw [Pooling.filterSlots, writing_apply_eq_error_iff] at failed
      cases failed
  | implementation =>
      rw [Pooling.implementation, writing_apply_eq_error_iff] at failed
      cases failed
  | layout invokes =>
      obtain ⟨differs, first, same⟩ := Layout.derivation_eq_error failed
      exact .inl ⟨rfl, differs, invokes, first, same⟩
  | sparsity => exact .inr ⟨rfl, by decide, Dense.sparsity_eq_error failed⟩
  | strategy used => exact .inr ⟨rfl, used, Dense.strategy_eq_error failed⟩
  | weightNames =>
      rw [Dense.weightNames, writing_apply_eq_error_iff] at failed
      cases failed
  | activationName =>
      rw [Activation.activationName, writing_apply_eq_error_iff] at failed
      cases failed

/-- No derivation provides a structural parameter. -/
theorem not_mem_provides (derives : dialect.Derives family role d) {other : Role} {name : String}
    (structural : name ∈ other.structuralNames) : name ∉ d.provides := by
  revert name
  cases derives with
  | filterSlots => cases other <;> decide
  | implementation => cases other <;> decide
  | layout => cases dialect <;> cases other <;> decide
  | sparsity => cases other <;> decide
  | strategy => cases other <;> decide
  | weightNames => cases other <;> decide
  | activationName => cases other <;> decide

/-- A complete layer gets a value for every name that is provided, if the name does
    not stand for an attribute that its kind lacks. -/
theorem exists_sets_of_isComplete (derives : dialect.Derives family role d)
    {context : DeriveContext} {layer : Layer} (complete : family.IsComplete layer)
    (covered : layer.kind ∈ family.kinds)
    (weights : layer.kind = .dense →
      ∀ array ∈ Dense.arrays, (layer.weights.find? array.1).isSome = true)
    {name : String} (provided : name ∈ d.provides)
    (slotted : ∀ slot ∈ Pooling.slots, name = slot.2 → slot.1 ∈ family.attributes layer.kind)
    (implemented : name = "implementation" → layer.kind ≠ .activation) :
    name ∈ family.attributes layer.kind ∨ ∃ value, d.Sets context layer name value := by
  cases derives with
  | filterSlots =>
      right
      obtain ⟨slot, listed, rfl⟩ : ∃ slot ∈ Pooling.slots, name = slot.2 := by
        simpa [Pooling.slots, Pooling.filterSlots, Derivation.writing] using provided
      obtain ⟨value, held⟩ := Option.isSome_iff_exists.mp
        (complete.attributes _ (slotted slot listed rfl))
      exact ⟨_, Pooling.sets_filterSlots listed held⟩
  | implementation =>
      right
      apply Derivation.exists_sets_writing
      intro pairs given
      obtain rfl := Except.ok.inj given
      simp [List.mem_singleton.mp provided, Table.bound?_cons]
  | layout =>
      left
      obtain rfl : name = "data_format" := by
        cases dialect <;> exact List.mem_singleton.mp provided
      exact Pooling.dataFormat_mem_attributes covered
  | sparsity =>
      right
      obtain ⟨rows, rowsHeld⟩ := Option.isSome_iff_exists.mp
        (complete.attributes "n_in" (by simp [Dense.family]))
      obtain ⟨columns, columnsHeld⟩ := Option.isSome_iff_exists.mp
        (complete.attributes "n_out" (by simp [Dense.family]))
      exact Dense.exists_sets_sparsity rowsHeld columnsHeld provided
  | strategy =>
      left
      have named : name = "strategy" ∨ name = "product_type" ∨ name = "rfpad" ∨ name = "bfpad" := by
        simpa [Dense.strategy, Derivation.writing] using provided
      rcases named with rfl | rfl | rfl | rfl <;> simp [Dense.family]
  | weightNames =>
      right
      obtain ⟨array, listed, rfl⟩ : ∃ array ∈ Dense.arrays, name = array.2 := by
        simpa [Dense.arrays, Dense.weightNames, Derivation.writing] using provided
      obtain ⟨v, held⟩ := Option.isSome_iff_exists.mp
        (weights (List.mem_singleton.mp covered) array listed)
      exact ⟨_, Dense.sets_weightNames listed held⟩
  | activationName =>
      left
      have either : layer.kind = .activation ∨ layer.kind = .softmax := by
        simpa [Activation.family] using covered
      have named : name = "activation" ∨ name = "implementation" := by
        simpa [Activation.activationName, Derivation.writing] using provided
      rcases named with rfl | rfl
      · rcases either with kind | kind <;> rw [kind] <;> decide
      · rcases either with kind | kind
        · exact absurd kind (implemented rfl)
        · rw [kind]; decide

end Dialect.Derives

end HlsEmit

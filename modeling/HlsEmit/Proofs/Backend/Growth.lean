import HlsEmit.Proofs.Backend.Layouts
import HlsEmit.Proofs.Family.DenseSizes

/-! # Layers that carry more

A layer that carries all that another carries, and perhaps more attributes and types,
has a value for every parameter of the other: the default parameters name all that is
carried, and no derivation drops a name because of what was added. The values may
differ, and a derivation may refuse the larger layer.
-/

namespace HlsEmit

/-- The second layer is the first with more attributes and types, or with other values
    of those it has. -/
structure Layer.Extends (layer other : Layer) : Prop where
  name : other.name = layer.name
  kind : other.kind = layer.kind
  input : other.input = layer.input
  output : other.output = layer.output
  weights : other.weights = layer.weights
  attributes : ∀ name, (layer.attribute? name).isSome = true →
    (other.attribute? name).isSome = true
  types : ∀ name, layer.types.contains name = true → other.types.contains name = true

/-- The second parameters have a value for every name of the first. -/
def Params.IsCoveredBy (params others : Params) : Prop :=
  ∀ name, params.contains name = true → others.contains name = true

theorem Params.IsCoveredBy.insertAll {params others : Params} (covered : params.IsCoveredBy others)
    {pairs more : List (String × String)} (named : pairs.map Prod.fst ⊆ more.map Prod.fst) :
    Params.IsCoveredBy (params.insertAll pairs) (others.insertAll more) := by
  intro name present
  rcases (Table.contains_insertAll _ _ _).mp present with ⟨pair, inside, rfl⟩ | before
  · obtain ⟨other, insideToo, same⟩ := List.mem_map.mp (named (List.mem_map_of_mem inside))
    exact (Table.contains_insertAll _ _ _).mpr (.inl ⟨other, insideToo, same⟩)
  · exact (Table.contains_insertAll _ _ _).mpr (.inr (covered name before))

namespace Layer.Extends

variable {layer other : Layer} (larger : layer.Extends other)
include larger

theorem fst_structuralBindings (role : Role) :
    (Params.structuralBindings other role).map Prod.fst =
      (Params.structuralBindings layer role).map Prod.fst := by
  have fst : ∀ v typeName valueName value, (Params.variableBindings v typeName valueName value).map
      Prod.fst = if v.isSome then [typeName, valueName] else [] := by
    intro v typeName valueName value
    cases v <;> rfl
  cases role <;>
    simp only [Params.structuralBindings, List.map_append, fst, larger.input, larger.output] <;> rfl

theorem isCoveredBy_defaults (role : Role) :
    (Params.defaults role layer).IsCoveredBy (Params.defaults role other) := by
  intro name present
  rcases (Params.contains_defaults role layer name).mp present with
    ⟨pair, structural, rfl⟩ | ⟨pair, typed, rfl⟩ | ⟨pair, attributed, rfl⟩
  · have listed := List.mem_map_of_mem (f := Prod.fst) structural
    rw [← larger.fst_structuralBindings role] at listed
    obtain ⟨also, inside, same⟩ := List.mem_map.mp listed
    exact (Params.contains_defaults role other _).mpr (.inl ⟨also, inside, same⟩)
  · obtain ⟨entry, held, bound⟩ := List.mem_flatMap.mp typed
    have carried : layer.types.contains entry.1 = true :=
      Table.contains_eq_true_iff.mpr ⟨entry.2, held⟩
    apply Params.contains_defaults_of_type role (larger.types _ carried)
    simp only [List.mem_cons, List.not_mem_nil, or_false] at bound
    rcases bound with rfl | rfl
    · exact .inl rfl
    · exact .inr rfl
  · obtain ⟨entry, held, rfl⟩ := List.mem_map.mp attributed
    have carried : (layer.attribute? entry.1).isSome = true :=
      Table.contains_eq_true_iff.mpr ⟨entry.2, held⟩
    exact Params.contains_defaults_of_attribute role (larger.attributes _ carried)

end Layer.Extends

namespace Derivation

/-- Where the derivation accepts both layers, parameters of the first stay covered. -/
def Grows (d : Derivation) (context : DeriveContext) (layer other : Layer) : Prop :=
  ∀ params others after next, params.IsCoveredBy others → d.apply context layer params = .ok after →
    d.apply context other others = .ok next → after.IsCoveredBy next

variable {context : DeriveContext} {layer other : Layer}

theorem grows_writing {provides : List String}
    {bindings : DeriveContext → Layer → Except CodegenError (List (String × String))}
    (named : ∀ pairs more, bindings context layer = .ok pairs → bindings context other = .ok more →
      pairs.map Prod.fst ⊆ more.map Prod.fst) :
    (writing provides bindings).Grows context layer other := by
  intro params others after next covered applied also
  obtain ⟨pairs, given, rfl⟩ := writing_apply_eq_ok_iff.mp applied
  obtain ⟨more, givenToo, rfl⟩ := writing_apply_eq_ok_iff.mp also
  exact covered.insertAll (named pairs more given givenToo)

theorem Run.isCoveredBy {derivations : List Derivation} {params last others final : Params}
    (run : Run context layer derivations params last)
    (also : Run context other derivations others final)
    (grows : ∀ d ∈ derivations, d.Grows context layer other)
    (covered : params.IsCoveredBy others) : last.IsCoveredBy final := by
  induction run generalizing others with
  | nil =>
      cases also
      exact covered
  | @cons d rest first middle last step _ ih =>
      cases also with
      | cons stepToo runToo =>
          apply ih runToo fun other member => grows other (List.mem_cons_of_mem _ member)
          exact grows d List.mem_cons_self _ _ _ _ covered step stepToo

end Derivation

namespace Pooling

theorem fst_copied (layer : Layer) (source slot : String) :
    (copied layer source slot).map Prod.fst =
      if (layer.attribute? source).isSome then [slot] else [] := by
  rw [copied]
  cases layer.attribute? source <;> rfl

theorem fst_copied_sublist {layer other : Layer} (larger : layer.Extends other)
    (source slot : String) :
    ((copied layer source slot).map Prod.fst).Sublist
      ((copied other source slot).map Prod.fst) := by
  rw [fst_copied, fst_copied]
  split
  · rename_i held
    rw [if_pos (larger.attributes source held)]
  · exact List.nil_sublist _

end Pooling

namespace Dense

/-- With both sizes there are both counts. -/
theorem Tallies.fst_subset {layer other : Layer} (larger : layer.Extends other)
    {pairs more : List (String × String)} (tallies : Tallies layer pairs)
    (talliesToo : Tallies other more) : pairs.map Prod.fst ⊆ more.map Prod.fst := by
  cases tallies with
  | sizeless => cases talliesToo <;> simp
  | whole sizes fits =>
      cases talliesToo with
      | whole => simp
      | sizeless _ _ _ absent =>
          have rows := larger.attributes "n_in" (by rw [sizes.rows]; rfl)
          have columns := larger.attributes "n_out" (by rw [sizes.columns]; rfl)
          rcases absent with absent | absent
          · rw [absent] at rows
            cases rows
          · rw [absent] at columns
            cases columns

end Dense

/-- No derivation drops a name because a layer carries more. -/
theorem Dialect.Derives.grows {dialect : Dialect} {family : LayerFamily} {role : Role}
    {d : Derivation} (derives : dialect.Derives family role d) {layer other : Layer}
    (larger : layer.Extends other) (context : DeriveContext) : d.Grows context layer other := by
  cases derives with
  | filterSlots =>
      apply Derivation.grows_writing
      intro pairs more given givenToo
      obtain rfl := Except.ok.inj given
      obtain rfl := Except.ok.inj givenToo
      simp only [List.map_append]
      exact (((Pooling.fst_copied_sublist larger _ _).append
        (Pooling.fst_copied_sublist larger _ _)).append
        (Pooling.fst_copied_sublist larger _ _)).subset
  | implementation =>
      apply Derivation.grows_writing
      intro pairs more given givenToo
      obtain rfl := Except.ok.inj given
      obtain rfl := Except.ok.inj givenToo
      exact List.Subset.refl _
  | layout =>
      intro params others after next covered applied also
      rw [Layout.derivation_apply] at applied also
      split at applied
      · split at also
        · obtain rfl := Except.ok.inj applied
          obtain rfl := Except.ok.inj also
          exact covered.insertAll (List.Subset.refl _)
        · cases also
      · cases applied
  | sparsity =>
      intro params others after next covered applied also
      obtain ⟨pairs, tallies, rfl⟩ := Dense.sparsity_apply_eq_ok_iff.mp applied
      obtain ⟨more, talliesToo, rfl⟩ := Dense.sparsity_apply_eq_ok_iff.mp also
      exact covered.insertAll (tallies.fst_subset larger talliesToo)
  | strategy =>
      intro params others after next covered applied also
      obtain ⟨_, _, -, -, rfl⟩ := Dense.strategy_apply_eq_ok_iff.mp applied
      obtain ⟨_, _, -, -, rfl⟩ := Dense.strategy_apply_eq_ok_iff.mp also
      exact covered.insertAll (List.Subset.refl _)
  | weightNames =>
      apply Derivation.grows_writing
      intro pairs more given givenToo
      obtain rfl := Except.ok.inj given
      obtain rfl := Except.ok.inj givenToo
      rw [Dense.weightName, Dense.weightName, Dense.weightName, Dense.weightName, larger.weights]
      exact List.Subset.refl _
  | activationName =>
      apply Derivation.grows_writing
      intro pairs more given givenToo
      obtain rfl := Except.ok.inj given
      obtain rfl := Except.ok.inj givenToo
      rw [larger.kind]
      split <;> exact List.Subset.refl _

end HlsEmit

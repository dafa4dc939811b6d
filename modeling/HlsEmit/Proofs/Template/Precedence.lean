import HlsEmit.Proofs.Template.Parameters

/-! # Which source a parameter comes from

The attributes, the types and the role of a layer may all have a text for one name. Then
the role counts before a type and a type before an attribute, whatever the names are. So
no attribute and no type takes the place of a structural parameter, and all of them are
there for a layer with both variables.
-/

namespace HlsEmit

/-- The text that the role has for a structural name, where the layer has what it is taken
    from. The factor of reuse is taken from an attribute of another name. -/
def Role.structural? (role : Role) (layer : Layer) (name : String) : Option String :=
  match name with
  | "index" => some (toString layer.index.toNat)
  | "name" => some layer.name
  | "iotype" => if role = .streamCall then none else some layer.ioStyle.name
  | "reuse" =>
      if role = .streamCall then none
      else some (((layer.attribute? "reuse_factor").map Attribute.render).getD "1")
  | "config" => if role = .config then none else some ("config" ++ toString layer.index.toNat)
  | "input_t" =>
      if role = .call ∨ role = .taskSequence then layer.input.map Variable.elementType else none
  | "output_t" =>
      if role = .call ∨ role = .taskSequence then layer.output.map Variable.elementType else none
  | "input" => if role = .call then layer.input.map Variable.name else none
  | "output" => if role = .call then layer.output.map Variable.name else none
  | "input_pipe" =>
      if role = .taskSequence then layer.input.map fun v => v.pipe.getD (v.name ++ "_pipe")
      else none
  | "output_pipe" =>
      if role = .taskSequence then layer.output.map fun v => v.pipe.getD (v.name ++ "_pipe")
      else none
  | _ => none

/-- The parameters of a layer, source by source. -/
structure Params.Resolves (params : Params) (role : Role) (layer : Layer) : Prop where
  structural : ∀ name text, role.structural? layer name = some text →
    params.find? name = some text
  typed : ∀ name text, role.structural? layer name = none → layer.TypeGives name text →
    params.find? name = some text
  /-- What neither the role nor a type has comes from an attribute, or is absent. -/
  plain : ∀ name, role.structural? layer name = none → (∀ text, ¬layer.TypeGives name text) →
    params.find? name = (layer.attribute? name).map Attribute.render

namespace Params

open Table (bound? bound?_append bound?_cons)

theorem bound?_structuralBindings (role : Role) (layer : Layer) (name : String) :
    bound? (structuralBindings layer role) name = role.structural? layer name := by
  have pipe : Variable.pipeName = fun v => v.pipe.getD (v.name ++ "_pipe") := rfl
  have flip : ∀ other : String, other = name ↔ name = other := fun _ => eq_comm
  fun_cases role.structural? layer name <;> cases role <;>
    simp_all [structuralBindings, bound?_append, bound?_cons, bound?_variableBindings,
      Layer.indexText, Layer.configName, reuseFactor]

theorem mem_structuralNames_of_structural? {role : Role} {layer : Layer} {name text : String}
    (given : role.structural? layer name = some text) : name ∈ role.structuralNames := by
  rw [← bound?_structuralBindings] at given
  exact fst_mem_structuralNames (Table.mem_of_bound? given)

/-- With both variables there is every structural parameter of the role. -/
theorem exists_structural? {role : Role} {layer : Layer} (input : layer.input.isSome = true)
    (output : layer.output.isSome = true) {name : String}
    (structural : name ∈ role.structuralNames) :
    ∃ text, role.structural? layer name = some text := by
  obtain ⟨pair, inside, rfl⟩ := (mem_structuralNames_iff role input output name).mp structural
  rw [← bound?_structuralBindings]
  refine Option.ne_none_iff_exists'.mp fun absent => ?_
  exact Table.bound?_eq_none_iff.mp absent pair inside rfl

/-- Attributes and types other than the factor of reuse do not matter. -/
theorem structural?_congr {role : Role} {layer : Layer} {attributes : Table Attribute}
    {types : Table Precision} {name : String} (reuse : name = "reuse" →
      attributes.find? "reuse_factor" = layer.attribute? "reuse_factor") :
    role.structural? { layer with attributes, types } name = role.structural? layer name := by
  by_cases factor : name = "reuse"
  · subst factor
    simp only [Role.structural?, Layer.attribute?, reuse rfl]
  · unfold Role.structural?
    split
    all_goals first
      | rfl
      | exact absurd rfl factor

theorem find?_defaults_congr {role : Role} {layer : Layer} {attributes : Table Attribute}
    {name : String} (reuse : attributes.find? "reuse_factor" = layer.attribute? "reuse_factor")
    (same : attributes.find? name = layer.attribute? name) :
    (defaults role { layer with attributes }).find? name = (defaults role layer).find? name := by
  rw [find?_defaults, find?_defaults, bound?_structuralBindings, bound?_structuralBindings,
    structural?_congr fun _ => reuse, Layer.attribute?, same]
  rfl

theorem resolves_defaults (role : Role) (layer : Layer) :
    (defaults role layer).Resolves role layer := by
  refine ⟨?_, ?_, ?_⟩
  · intro name text structural
    rw [find?_defaults, bound?_structuralBindings, structural, Option.some_or]
  · intro name text unstructured given
    rw [find?_defaults, bound?_structuralBindings, unstructured, Option.none_or,
      bound?_typeBindings_eq_some_iff.mpr given, Option.some_or]
  · intro name unstructured untyped
    rw [find?_defaults, bound?_structuralBindings, unstructured, Option.none_or,
      bound?_typeBindings_eq_none_iff.mpr untyped, Option.none_or]

/-- The default parameters resolve every clash of names in the same way. A layer with both
    variables has all structural parameters of the role, and they stay what they are
    whatever other attributes and types the layer has. -/
theorem defaults_resolve (role : Role) (layer : Layer) :
    (defaults role layer).Resolves role layer ∧
    (∀ name text, role.structural? layer name = some text → name ∈ role.structuralNames) ∧
    (layer.input.isSome = true → layer.output.isSome = true → ∀ name ∈ role.structuralNames,
      ∃ text, role.structural? layer name = some text ∧
        (defaults role layer).find? name = some text) ∧
    ∀ attributes types name text, role.structural? layer name = some text →
      (name = "reuse" → attributes.find? "reuse_factor" = layer.attribute? "reuse_factor") →
      (defaults role { layer with attributes, types }).find? name = some text := by
  have resolves := resolves_defaults role layer
  refine ⟨resolves, fun name text => mem_structuralNames_of_structural?, ?_, ?_⟩
  · intro input output name listed
    obtain ⟨text, given⟩ := exists_structural? input output listed
    exact ⟨text, given, resolves.structural name text given⟩
  · intro attributes types name text given reuse
    apply (resolves_defaults role _).structural
    rwa [structural?_congr reuse]

end Params

/-- A layer whose attributes and types go by names of other sources. -/
def clashingLayer : Layer where
  name := "fc4"
  kind := .dense
  index := 4
  input := some { name := "x", elementType := "in4_t" }
  output := some { name := "y", elementType := "out4_t", pipe := some "p" }
  attributes := .ofList [("input_t", .text "float"), ("accum_t.name", .text "double"),
    ("config", .int 7), ("rows", .int 3), ("reuse_factor", .int 2), ("reuse", .bool true)]
  types := .ofList [("accum_t", { name := "accum4_t" }), ("config", { name := "c_t" })]

theorem Params.find?_clashingLayer :
    (defaults .taskSequence clashingLayer).find? "reuse" = some "2" ∧
    (defaults .taskSequence clashingLayer).find? "accum_t.name" = some "accum4_t" ∧
    (defaults .taskSequence clashingLayer).find? "rows" = some "3" ∧
    clashingLayer.input.isSome = true ∧ clashingLayer.output.isSome = true ∧
    (∃ text, Role.taskSequence.structural? clashingLayer "output_pipe" = some text ∧
      (defaults .taskSequence clashingLayer).find? "output_pipe" = some text) ∧
    (defaults .taskSequence { clashingLayer with attributes := ∅, types := ∅ }).find? "config" =
      some "config4" := by
  obtain ⟨resolves, -, complete, stable⟩ := defaults_resolve .taskSequence clashingLayer
  have reuse := resolves.structural "reuse" "2" (by decide)
  have held : clashingLayer.types.find? "accum_t" = some { name := "accum4_t" } := by decide
  have type : clashingLayer.TypeGives "accum_t.name" "accum4_t" :=
    ⟨"accum_t", _, held, .inl ⟨rfl, rfl⟩⟩
  have untyped : ∀ text, ¬clashingLayer.TypeGives "rows" text :=
    fun _ given => absurd given.dotted (by decide)
  exact ⟨reuse, resolves.typed _ _ rfl type, resolves.plain "rows" rfl untyped, rfl, rfl,
    complete rfl rfl "output_pipe" (by decide), stable ∅ ∅ "config" "config4" rfl (by decide)⟩

end HlsEmit

import HlsEmit.Proofs.Backend.Dispatch

/-! # Where values come from

No derivation touches a structural parameter, and the arrays of a dense layer are
named by one derivation only. So a body gets for such a name what the layer has. For
a variable or a weight that the layer lacks it gets the attribute of that name, if
there is one.
-/

namespace HlsEmit

open Table (bound? bound?_eq_none_iff)

theorem Role.dotless_of_mem {role : Role} {name : String}
    (structural : name ∈ role.structuralNames) : '.' ∉ name.toList := by
  revert name
  cases role <;> decide

/-- One derivation names the arrays. -/
theorem Dialect.Derives.eq_weightNames_or {dialect : Dialect} {family : LayerFamily} {role : Role}
    {d : Derivation} (derives : dialect.Derives family role d) :
    d = Dense.weightNames ∨ ∀ array ∈ Dense.arrays, array.2 ∉ d.provides := by
  cases derives with
  | weightNames => exact .inl rfl
  | filterSlots => exact .inr (by decide)
  | implementation => exact .inr (by decide)
  | layout => cases dialect <;> exact .inr (by decide)
  | sparsity => exact .inr (by decide)
  | strategy => exact .inr (by decide)
  | activationName => exact .inr (by decide)

/-- The names of the arrays mean nothing else. -/
theorem Dense.array_isOwn {array : String × String} (listed : array ∈ arrays) (role : Role) :
    array.2 ∉ role.structuralNames ∧ array.2 ∉ family.vocabulary .dense ∧
      '.' ∉ array.2.toList := by
  revert array
  cases role <;> decide

theorem Dense.mem_arrayNames : ∀ array ∈ arrays, array.2 ∈ LayerKind.dense.arrayNames := by
  decide

/-- A body that names an array gets the name from that derivation. -/
theorem Sheet.weightNames_mem {backend : String} {dialect : Dialect} {sheet : Sheet}
    (member : sheet ∈ dialect.sheets backend) {kind : LayerKind}
    (covered : kind ∈ sheet.spec.family.kinds) (dense : kind = .dense) {array : String × String}
    (listed : array ∈ Dense.arrays) (used : .placeholder array.2 ∈ sheet.segments kind) :
    Dense.weightNames ∈ sheet.spec.derivations := by
  subst dense
  have made := dialect.isOf_sheets backend sheet member
  obtain ⟨notStructural, notListed, -⟩ := Dense.array_isOwn listed sheet.spec.role
  have family : Dense.family = sheet.spec.family := Option.some.inj (made.family .dense covered)
  have provided := (dialect.isBound_sheets backend sheet member).provided _ covered _
    ((TemplateBody.mem_placeholders_iff _ _).mpr used)
  rcases TemplateSpec.mem_provided_iff.mp provided with (known | structural) | ⟨d, inside, provides⟩
  · exact absurd (family ▸ known) notListed
  · exact absurd structural notStructural
  · rcases (made.derives d inside).eq_weightNames_or with rfl | apart
    · exact inside
    · exact absurd provides (apart array listed)

/-- What no derivation provides they leave alone. -/
theorem Sheet.IsOf.spares {sheet : Sheet} {dialect : Dialect} (made : sheet.IsOf dialect)
    (layer : Layer) {name : String} (unwritten : ∀ d ∈ sheet.spec.derivations, name ∉ d.provides) :
    ∀ d ∈ sheet.spec.derivations, d.Spares sheet.spec.context layer name := by
  intro d inside
  exact (made.derives d inside).isWriting.frames _ _ _ (unwritten d inside)

namespace Sheet.Gives

variable {sheet : Sheet} {backend : String} {dialect : Dialect} {layer : Layer} {params : Params}
  {name : String}

theorem find?_structural (given : sheet.Gives layer params) (made : sheet.IsOf dialect)
    (structural : name ∈ sheet.spec.role.structuralNames) : params.find? name =
      (bound? (Params.structuralBindings layer sheet.spec.role) name).or
        ((layer.attribute? name).map Attribute.render) := by
  have spared := made.spares layer fun d inside =>
    (made.derives d inside).not_mem_provides structural
  rw [Derivation.Run.find?_of_spares given spared, Params.find?_defaults,
    Params.bound?_typeBindings_of_dotless (Role.dotless_of_mem structural), Option.none_or]

/-- What the derivations leave alone comes from the types and the attributes. -/
theorem find?_of_spares (given : sheet.Gives layer params)
    (spared : ∀ d ∈ sheet.spec.derivations, d.Spares sheet.spec.context layer name)
    (unstructured : name ∉ sheet.spec.role.structuralNames) : params.find? name =
      (bound? (Params.typeBindings layer) name).or
        ((layer.attribute? name).map Attribute.render) := by
  have unbound : bound? (Params.structuralBindings layer sheet.spec.role) name = none := by
    apply bound?_eq_none_iff.mpr
    rintro pair inside rfl
    exact unstructured (Params.fst_mem_structuralNames inside)
  rw [Derivation.Run.find?_of_spares given spared, Params.find?_defaults, unbound, Option.none_or]

theorem find?_attribute (given : sheet.Gives layer params)
    (spared : ∀ d ∈ sheet.spec.derivations, d.Spares sheet.spec.context layer name)
    (unstructured : name ∉ sheet.spec.role.structuralNames) (dotless : '.' ∉ name.toList) :
    params.find? name = (layer.attribute? name).map Attribute.render := by
  rw [given.find?_of_spares spared unstructured, Params.bound?_typeBindings_of_dotless dotless,
    Option.none_or]

/-- At most one derivation names an array, so the weight alone decides whether it is named. -/
theorem find?_array (given : sheet.Gives layer params) (member : sheet ∈ dialect.sheets backend)
    (covered : layer.kind ∈ sheet.spec.family.kinds) (dense : layer.kind = .dense)
    {array : String × String} (listed : array ∈ Dense.arrays)
    (used : .placeholder array.2 ∈ sheet.segments layer.kind) : params.find? array.2 =
      ((layer.weights.find? array.1).map Variable.name).or
        ((layer.attribute? array.2).map Attribute.render) := by
  have made := dialect.isOf_sheets backend sheet member
  obtain ⟨notStructural, -, dotless⟩ := Dense.array_isOwn listed sheet.spec.role
  have others : ∀ d ∈ sheet.spec.derivations, d = Dense.weightNames ∨
      d.Spares sheet.spec.context layer array.2 := by
    intro d inside
    have derives := made.derives d inside
    rcases derives.eq_weightNames_or with same | apart
    · exact .inl same
    · exact .inr (derives.isWriting.frames _ _ _ (apart array listed))
  cases held : layer.weights.find? array.1 with
  | some v =>
      have sets : Dense.weightNames.Sets sheet.spec.context layer array.2 v.name :=
        Dense.sets_weightNames listed held
      have naming := Sheet.weightNames_mem member covered dense listed used
      rw [Option.map_some, Option.some_or]
      apply Derivation.Run.find?_of_sets given
      · intro d inside
        rcases others d inside with rfl | spares
        · exact .inl sets
        · exact .inr spares
      · exact .inr ⟨_, naming, sets⟩
  | none =>
      have spared : ∀ d ∈ sheet.spec.derivations, d.Spares sheet.spec.context layer array.2 := by
        intro d inside
        rcases others d inside with rfl | spares
        · exact Dense.spares_weightNames listed held
        · exact spares
      rw [Option.map_none, Option.none_or, given.find?_attribute spared notStructural dotless]

end Sheet.Gives

namespace Invocation

/-- The structural parameters that a call uses. -/
def callNames : List String := ["config", "input_t", "output_t", "input", "output"]

def stageNames : List String := ["config", "input_pipe", "output_pipe", "name"]

theorem placeholder_mem_callSegments {operation : List Segment} {arrays : List String}
    {name : String} (used : name ∈ callNames ++ arrays) :
    .placeholder name ∈ callSegments operation arrays := by
  simp only [callNames, List.mem_append, List.mem_cons, List.not_mem_nil, or_false] at used
  rcases used with (rfl | rfl | rfl | rfl | rfl) | inside
  all_goals simp [callSegments, further, *]

theorem placeholder_mem_stageSegments {operation : List Segment} {name : String}
    (used : name ∈ stageNames) : .placeholder name ∈ stageSegments operation := by
  simp only [stageNames, List.mem_cons, List.not_mem_nil, or_false] at used
  rcases used with rfl | rfl | rfl | rfl
  all_goals simp [stageSegments, further]

theorem placeholder_mem_startWithSegments {first second name : String}
    (used : name ∈ [first, second]) : .placeholder name ∈ startWithSegments first second := by
  simp only [List.mem_cons, List.not_mem_nil, or_false] at used
  rcases used with rfl | rfl
  all_goals simp [startWithSegments, further]

end Invocation

/-- How the values of a body for a layer come about. -/
structure Role.Fills (role : Role) (layer : Layer) (segments : List Segment)
    (values : String → String) : Prop where
  shape : role.Shape layer.kind segments
  structural : ∀ name ∈ role.structuralNames, .placeholder name ∈ segments → some (values name) =
    (bound? (Params.structuralBindings layer role) name).or
      ((layer.attribute? name).map Attribute.render)
  arrays : layer.kind = .dense → ∀ array ∈ Dense.arrays, .placeholder array.2 ∈ segments →
    some (values array.2) = ((layer.weights.find? array.1).map Variable.name).or
      ((layer.attribute? array.2).map Attribute.render)

theorem Backend.exists_fills_of_format {name text : String} {dialect : Dialect} {role : Role}
    {layer : Layer} (formatted : (ofDialect name dialect).format role layer = .ok text) :
    ∃ segments values, role.Fills layer segments values ∧
      text = String.join (segments.map (Segment.textWith values)) := by
  obtain ⟨sheet, member, rfl, covered, params, given, rendered⟩ := exists_sheet_of_format formatted
  have made := dialect.isOf_sheets name sheet member
  obtain ⟨values, bound, rfl⟩ := TemplateBody.render_eq_ok_iff.mp rendered
  refine ⟨sheet.segments layer.kind, values, ⟨made.shape layer.kind covered, ?_, ?_⟩, rfl⟩
  · intro name structural used
    rw [← bound name used, given.find?_structural made structural]
  · intro dense array listed used
    rw [← bound array.2 used, given.find?_array member covered dense listed used]

namespace Role.Fills

variable {role : Role} {layer : Layer} {segments : List Segment} {values : String → String}

theorem value_eq (fills : role.Fills layer segments values) {name value : String}
    (structural : name ∈ role.structuralNames) (used : .placeholder name ∈ segments)
    (binds : bound? (Params.structuralBindings layer role) name = some value) :
    values name = value := by
  have filled := fills.structural name structural used
  rw [binds, Option.some_or] at filled
  exact Option.some.inj filled

theorem array_eq (fills : role.Fills layer segments values) (dense : layer.kind = .dense)
    {array : String × String} (listed : array ∈ Dense.arrays)
    (used : .placeholder array.2 ∈ segments) {v : Variable}
    (held : layer.weights.find? array.1 = some v) : values array.2 = v.name := by
  have filled := fills.arrays dense array listed used
  rw [held] at filled
  exact Option.some.inj filled

/-- Where the layer has no structural parameter of a name, an attribute stands in. -/
theorem isSome_attribute? (fills : role.Fills layer segments values) {name : String}
    (structural : name ∈ role.structuralNames) (used : .placeholder name ∈ segments)
    (unbound : bound? (Params.structuralBindings layer role) name = none) :
    (layer.attribute? name).isSome = true := by
  have filled := fills.structural name structural used
  rw [unbound, Option.none_or] at filled
  obtain ⟨value, held, -⟩ := Option.map_eq_some_iff.mp filled.symm
  rw [held, Option.isSome_some]

theorem isSome_attribute?_array (fills : role.Fills layer segments values)
    (dense : layer.kind = .dense) {array : String × String} (listed : array ∈ Dense.arrays)
    (used : .placeholder array.2 ∈ segments) (absent : layer.weights.find? array.1 = none) :
    (layer.attribute? array.2).isSome = true := by
  have filled := fills.arrays dense array listed used
  rw [absent, Option.map_none, Option.none_or] at filled
  obtain ⟨value, held, -⟩ := Option.map_eq_some_iff.mp filled.symm
  rw [held, Option.isSome_some]

end Role.Fills

end HlsEmit

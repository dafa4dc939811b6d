import HlsEmit.Proofs.Backend.Dispatch

/-! # Complete layers

A layer is complete if it carries all that its family asks for, both variables and,
if it is dense, its weights and biases. On a built-in backend the text of such a
layer is never missing a parameter: what remains to go wrong is a layout that the
dialect does not have, and a dense attribute that is no usable number.
-/

namespace HlsEmit

/-- A layer carries all that its kind asks for. -/
structure Layer.IsComplete (layer : Layer) : Prop where
  family : ∀ family, layer.kind.family? = some family → family.IsComplete layer
  weights : layer.kind = .dense → (layer.weights.find? "weight").isSome = true ∧
    (layer.weights.find? "bias").isSome = true

theorem Dialect.backend_of_mem_sheets {backend : String} {dialect : Dialect} {sheet : Sheet}
    (member : sheet ∈ dialect.sheets backend) : sheet.spec.backend = backend := by
  rw [sheets_eq_map] at member
  obtain ⟨other, _, rfl⟩ := List.mem_map.mp member
  rfl

/-- Every placeholder of a body has a value for a complete layer. -/
theorem Sheet.contains_of_isComplete {backend : String} {dialect : Dialect} {sheet : Sheet}
    (member : sheet ∈ dialect.sheets backend) {layer : Layer}
    (covered : layer.kind ∈ sheet.spec.family.kinds) (complete : layer.IsComplete)
    {params : Params} (given : sheet.Gives layer params) {name : String}
    (used : .placeholder name ∈ sheet.segments layer.kind) : params.contains name = true := by
  have made := dialect.isOf_sheets backend sheet member
  have grounded := dialect.isGrounded_sheets backend sheet member
  have carried : sheet.spec.family.IsComplete layer :=
    complete.family _ (made.family layer.kind covered)
  have listed : name ∈ TemplateBody.placeholders ⟨sheet.segments layer.kind⟩ :=
    (TemplateBody.mem_placeholders_iff _ name).mpr used
  have provided := (dialect.isBound_sheets backend sheet member).provided _ covered name listed
  apply given.contains_of_sets fun d inside => (made.derives d inside).isWriting
  rcases TemplateSpec.mem_provided_iff.mp provided with known | ⟨d, inside, provides⟩
  · exact .inl (TemplateSpec.contains_defaults_of_isComplete carried known)
  · have weights : layer.kind = .dense →
        ∀ array ∈ Dense.arrays, (layer.weights.find? array.1).isSome = true := by
      intro dense array inside
      simp only [Dense.arrays, List.mem_cons, List.not_mem_nil, or_false] at inside
      rcases inside with rfl | rfl
      · exact (complete.weights dense).1
      · exact (complete.weights dense).2
    have slotted : ∀ slot ∈ Pooling.slots, name = slot.2 →
        slot.1 ∈ sheet.spec.family.attributes layer.kind := by
      rintro slot inside rfl
      exact grounded.slotted layer.kind covered slot inside listed
    have implemented : name = "implementation" → layer.kind ≠ .activation := by
      rintro rfl
      exact grounded.implemented layer.kind covered listed
    have given : name ∈ sheet.spec.family.attributes layer.kind ∨
        ∃ value, d.Sets sheet.spec.context layer name value :=
      (made.derives d inside).exists_sets_of_isComplete carried covered weights provides slotted
        implemented
    rcases given with own | sets
    · left
      exact Params.contains_defaults_of_attribute _ (carried.attributes name own)
    · exact .inr ⟨d, inside, sets⟩

namespace Backend

/-- A complete layer is formatted in every role that its kind has, or is refused
    for its layout or for a dense attribute. -/
theorem format_of_isComplete (builtin : Builtin) :
    ∃ backend, builtin.backend = .ok backend ∧
      ∀ role layer, backend.supports role layer.kind = true → layer.IsComplete →
        (∃ text, backend.format role layer = .ok text) ∨
        (layer.kind ∈ Pooling.family.kinds ∧
          (builtin.dialect = .quartus ∨ builtin.dialect = .oneApi) ∧
          (role = .call ∨ role = .taskSequence) ∧
          backend.format role layer =
            .error (.unsupportedLayout "channels_first" builtin.name layer.name)) ∨
        (layer.kind = .dense ∧ (role = .config ∨ role = .call ∨ role = .taskSequence) ∧
          ∃ attr why,
            backend.format role layer = .error (.invalidAttribute layer.name attr why)) := by
  refine ⟨_, builtin.backend_eq_ok, ?_⟩
  intro role layer supported complete
  obtain ⟨sheet, member, rfl, covered⟩ := exists_sheet_of_supports supported
  rw [format_of_sheet member covered]
  cases result : sheet.template.format layer with
  | ok text => exact .inl ⟨text, rfl⟩
  | error reason =>
      right
      rcases Sheet.format_eq_error_cases covered result with
        ⟨d, inside, params, refused⟩ | ⟨params, placeholder, given, used, absent, -⟩
      · have derives := (builtin.dialect.isOf_sheets _ sheet member).derives d inside
        rcases derives.eq_error_cases refused with
          ⟨family, differs, invokes, _, rfl⟩ | ⟨family, emits, attr, why, rfl⟩
        · left
          have dialect : builtin.dialect = .quartus ∨ builtin.dialect = .oneApi := by
            revert differs
            cases builtin.dialect <;> decide
          have named : sheet.spec.context.backend = builtin.name :=
            Dialect.backend_of_mem_sheets member
          exact ⟨family ▸ covered, dialect, invokes, by rw [named]⟩
        · right
          have role : sheet.spec.role = .config ∨ sheet.spec.role = .call ∨
              sheet.spec.role = .taskSequence := by
            revert emits
            cases sheet.spec.role <;> decide
          rw [family] at covered
          exact ⟨Dense.eq_dense_of_mem covered, role, attr, why, rfl⟩
      · have present := Sheet.contains_of_isComplete member covered complete given used
        rw [absent] at present
        cases present

end Backend

/-- A dense layer with all that is asked of it. -/
def completeDense : Layer where
  name := "fc2"
  kind := .dense
  index := 2
  input := some { name := "fc1_out", elementType := "result1_t" }
  output := some { name := "fc2_out", elementType := "result2_t" }
  attributes := .ofList [("n_in", .int 16), ("n_out", .int 5), ("reuse_factor", .int 4),
    ("strategy", .text "Resource"), ("n_zeros", .int 8), ("rfpad", .int 0), ("bfpad", .int 0),
    ("product_type", .text "mult")]
  types := .ofList [("accum_t", { name := "accum2_t" }), ("weight_t", { name := "weight2_t" }),
    ("bias_t", { name := "bias2_t" })]
  weights := .ofList [("weight", { name := "w2", elementType := "weight2_t" }),
    ("bias", { name := "b2", elementType := "bias2_t" })]

theorem isComplete_completeDense : completeDense.IsComplete where
  family := by
    rintro _ ⟨⟩
    exact ⟨by decide, by decide, rfl, rfl⟩
  weights _ := ⟨rfl, rfl⟩

theorem Backend.format_completeDense :
    ∃ backend, Builtin.oneApi.backend = .ok backend ∧ backend.supports .call .dense = true ∧
      completeDense.IsComplete ∧
      ((∃ text, backend.format .call completeDense = .ok text) ∨
        ∃ attr why,
          backend.format .call completeDense = .error (.invalidAttribute "fc2" attr why)) := by
  obtain ⟨backend, built, formats⟩ := Backend.format_of_isComplete .oneApi
  have supported : backend.supports .call .dense = true := by
    obtain rfl := Except.ok.inj (Builtin.oneApi.backend_eq_ok.symm.trans built)
    decide
  refine ⟨backend, built, supported, isComplete_completeDense, ?_⟩
  rcases formats .call completeDense supported isComplete_completeDense with
    formatted | ⟨pooling, -⟩ | ⟨-, -, refused⟩
  · exact .inl formatted
  · exact absurd pooling (by decide)
  · exact .inr refused

end HlsEmit

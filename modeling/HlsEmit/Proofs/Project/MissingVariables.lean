import HlsEmit.Proofs.Backend.Values
import HlsEmit.Proofs.Project.Emission

/-! # Layers that lack variables

The variables of a layer and its attributes share one space of names. So a layer
that lacks a variable or a weight is emitted only if it has attributes under the
names that the variable would be given in its invocation, and it is emitted then:
the code names whatever these attributes hold.
-/

namespace HlsEmit

open Table (bound? bound?_append bound?_cons)

/-- The names of the input in an invocation. -/
def Role.inputNames : Role → List String
  | .call => ["input_t", "input"]
  | .taskSequence => ["input_pipe"]
  | .config | .streamCall => []

def Role.outputNames : Role → List String
  | .call => ["output_t", "output"]
  | .taskSequence => ["output_pipe"]
  | .config | .streamCall => []

/-- The role in which layers are invoked. -/
def Backend.invoking (backend : Backend) (style : IoStyle) : Role :=
  if backend.streams style then .taskSequence else .call

/-- Attributes stand in for the variables and weights that a layer lacks. -/
structure Layer.IsSupplied (layer : Layer) (role : Role) : Prop where
  input : layer.input = none → ∀ name ∈ role.inputNames, (layer.attribute? name).isSome = true
  output : layer.output = none → ∀ name ∈ role.outputNames, (layer.attribute? name).isSome = true
  arrays : layer.kind = .dense → ∀ array ∈ Dense.arrays,
    layer.weights.find? array.1 = none → (layer.attribute? array.2).isSome = true

namespace Role

variable {role : Role} {layer : Layer} {name : String}

theorem structural_of_end :
    ∀ name ∈ role.inputNames ++ role.outputNames, name ∈ role.structuralNames := by
  cases role <;> decide

theorem Shape.placeholder_mem {kind : LayerKind} {segments : List Segment}
    (shape : role.Shape kind segments) (ofEnd : name ∈ role.inputNames ++ role.outputNames) :
    .placeholder name ∈ segments := by
  cases role with
  | config | streamCall => cases ofEnd
  | call =>
      obtain ⟨operation, rfl⟩ := shape
      have ends : ∀ name ∈ call.inputNames ++ call.outputNames,
          name ∈ Invocation.callNames := by decide
      exact Invocation.placeholder_mem_callSegments (List.mem_append_left _ (ends name ofEnd))
  | taskSequence =>
      obtain ⟨operation, rfl⟩ := shape
      have ends : ∀ name ∈ taskSequence.inputNames ++ taskSequence.outputNames,
          name ∈ Invocation.stageNames := by decide
      exact Invocation.placeholder_mem_stageSegments (ends name ofEnd)

theorem Fills.isSome_end {segments : List Segment} {values : String → String}
    (fills : role.Fills layer segments values) (ofEnd : name ∈ role.inputNames ++ role.outputNames)
    (unbound : bound? (Params.structuralBindings layer role) name = none) :
    (layer.attribute? name).isSome = true :=
  fills.isSome_attribute? (structural_of_end name ofEnd) (fills.shape.placeholder_mem ofEnd) unbound

theorem bound?_of_missing (missing : layer.input = none ∧ name ∈ role.inputNames ∨
    layer.output = none ∧ name ∈ role.outputNames) :
    bound? (Params.structuralBindings layer role) name = none := by
  cases role with
  | config | streamCall => rcases missing with ⟨-, ofEnd⟩ | ⟨-, ofEnd⟩ <;> cases ofEnd
  | call =>
      simp only [inputNames, outputNames, List.mem_cons, List.not_mem_nil, or_false] at missing
      rcases missing with ⟨absent, rfl | rfl⟩ | ⟨absent, rfl | rfl⟩
      all_goals simp [Params.structuralBindings, bound?_append, bound?_cons,
        Params.bound?_variableBindings, absent]
  | taskSequence =>
      simp only [inputNames, outputNames, List.mem_singleton] at missing
      rcases missing with ⟨absent, rfl⟩ | ⟨absent, rfl⟩
      all_goals simp [Params.structuralBindings, bound?_append, bound?_cons,
        Params.bound?_variableBindings, absent]

end Role

namespace Backend

variable {backend : Backend} {layer : Layer} {source : LayerSource}

theorem format_invoking (emits : backend.Emits layer source) :
    backend.format (backend.invoking layer.ioStyle) layer = .ok source.invocation := by
  rw [invoking]
  cases streaming : backend.streams layer.ioStyle with
  | true => exact (emits.stage streaming).1
  | false => exact (emits.call streaming).1

/-- The arrays of a dense layer are named in its call or in the start of its stage. -/
theorem isSome_array_of_emits {name : String} {dialect : Dialect}
    (emits : (ofDialect name dialect).Emits layer source) (dense : layer.kind = .dense)
    {array : String × String} (listed : array ∈ Dense.arrays)
    (absent : layer.weights.find? array.1 = none) :
    (layer.attribute? array.2).isSome = true := by
  have named := Dense.mem_arrayNames array listed
  cases streaming : (ofDialect name dialect).streams layer.ioStyle with
  | true =>
      obtain ⟨start, formatted, -⟩ := (emits.stage streaming).2
      obtain ⟨segments, values, fills, -⟩ := exists_fills_of_format formatted
      have shape : segments = Invocation.startWithSegments "w" "b" :=
        fills.shape.trans (if_pos dense)
      apply fills.isSome_attribute?_array dense listed _ absent
      rw [shape]
      exact Invocation.placeholder_mem_startWithSegments named
  | false =>
      obtain ⟨segments, values, fills, -⟩ := exists_fills_of_format (emits.call streaming).1
      obtain ⟨operation, shape⟩ := fills.shape
      apply fills.isSome_attribute?_array dense listed _ absent
      rw [shape, dense]
      exact Invocation.placeholder_mem_callSegments (List.mem_append_right _ named)

/-- A layer that is emitted has the variables and weights that its code names, or
    attributes in their place. -/
theorem isSupplied_of_emitLayer (builtin : Builtin) :
    ∃ backend, builtin.backend = .ok backend ∧
      ∀ layer source, backend.emitLayer layer = .ok source →
        layer.IsSupplied (backend.invoking layer.ioStyle) := by
  refine ⟨_, builtin.backend_eq_ok, ?_⟩
  intro layer source emitted
  have emits := emits_of_emitLayer emitted
  obtain ⟨segments, values, fills, -⟩ := exists_fills_of_format (format_invoking emits)
  constructor
  · intro absent name ofInput
    exact fills.isSome_end (List.mem_append_left _ ofInput)
      (Role.bound?_of_missing (.inl ⟨absent, ofInput⟩))
  · intro absent name ofOutput
    exact fills.isSome_end (List.mem_append_right _ ofOutput)
      (Role.bound?_of_missing (.inr ⟨absent, ofOutput⟩))
  · intro dense array listed absent
    exact isSome_array_of_emits emits dense listed absent

end Backend

/-- An activation without an input, whose attributes stand in for it. -/
def inputless : Layer where
  name := "act4"
  kind := .activation
  index := 4
  output := some { name := "layer4_out", elementType := "layer4_t" }
  attributes := .ofList [("n_in", .int 10), ("activation", .text "relu"), ("table_size", .int 512),
    ("input_t", .text "float"), ("input", .text "x")]
  types := .ofList [("table_t", { name := "table4_t" })]

/-- A layer without an input is emitted. -/
theorem Backend.emitLayer_inputless :
    ∃ backend source, Builtin.vivado.backend = .ok backend ∧
      inputless.input = none ∧ backend.emitLayer inputless = .ok source ∧
      source.invocation = "nnet::relu<float, layer4_t, config4>(x, layer4_out);" := by
  have invoked : ((Backend.ofDialect "Vivado" .vivado).emitLayer inputless).toOption.map
      LayerSource.invocation = some "nnet::relu<float, layer4_t, config4>(x, layer4_out);" := by
    decide +kernel
  cases emitted : (Backend.ofDialect "Vivado" .vivado).emitLayer inputless with
  | error reason =>
      rw [emitted] at invoked
      cases invoked
  | ok source =>
      rw [emitted] at invoked
      exact ⟨_, source, Builtin.vivado.backend_eq_ok, rfl, emitted, Option.some.inj invoked⟩

theorem Backend.isSupplied_inputless :
    ∃ backend source, Builtin.vivado.backend = .ok backend ∧
      backend.emitLayer inputless = .ok source ∧
      inputless.IsSupplied (backend.invoking inputless.ioStyle) := by
  obtain ⟨backend, built, supplied⟩ := Backend.isSupplied_of_emitLayer .vivado
  have emits : (backend.emitLayer inputless).toOption.isSome = true := by
    obtain rfl := Except.ok.inj (Builtin.vivado.backend_eq_ok.symm.trans built)
    decide +kernel
  cases emitted : backend.emitLayer inputless with
  | error reason =>
      rw [emitted] at emits
      cases emits
  | ok source => exact ⟨backend, source, built, emitted, supplied inputless source emitted⟩

end HlsEmit

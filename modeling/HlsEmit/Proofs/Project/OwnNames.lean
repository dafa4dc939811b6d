import HlsEmit.Proofs.Backend.Values
import HlsEmit.Proofs.Family.Structs
import HlsEmit.Proofs.Model.Loading
import HlsEmit.Proofs.Project.Emission
import HlsEmit.Proofs.Project.FailurePolicy

/-! # Layers name what is theirs

The code of a layer declares a struct that is named after the index of the layer,
and calls or registers an operation with this struct on the variables of the layer.
A stage is registered and started under the name of the layer. The indices of a
loaded model are distinct, so no two layers of a project share a struct.
-/

namespace HlsEmit

open Table (bound? bound?_append bound?_cons)

/-- The arrays that the code of a layer names besides input and output: none, or the
    weights and the biases of a dense layer. -/
inductive Layer.Arrays (layer : Layer) : List String → Prop
  | none : layer.kind ≠ .dense → Arrays layer []
  | dense {w b : String} : layer.kind = .dense →
      (∀ v, layer.weights.find? "weight" = some v → w = v.name) →
      (∀ v, layer.weights.find? "bias" = some v → b = v.name) → Arrays layer [w, b]

/-- The code of a layer that is a stage or is called. -/
structure LayerSource.IsOwn (staged : Bool) (layer : Layer) (source : LayerSource) : Prop where
  name : source.layer = layer.name
  index : source.index = layer.index
  config : ∃ body, source.config = "struct " ++ layer.configName ++ " : nnet::" ++ body ++ "\x7d;\n"
  call : staged = false → ∀ input output, layer.input = some input → layer.output = some output →
    ∃ op arrays, layer.Arrays arrays ∧ source.invocation =
      "nnet::" ++ op ++ "<" ++ input.elementType ++ ", " ++ output.elementType ++ ", " ++
        layer.configName ++ ">(" ++ input.name ++ ", " ++ output.name ++
        String.join (arrays.map (", " ++ ·)) ++ ");"
  stage : staged = true → ∀ input output, layer.input = some input → layer.output = some output →
    ∃ op, source.invocation =
      "task_sequence<nnet::" ++ op ++ "_stream<" ++ input.pipeName ++ ", " ++ output.pipeName ++
        ", " ++ layer.configName ++ ">>(" ++ layer.name ++ ");"
  start : staged = true → ∃ arrays, layer.Arrays arrays ∧
    source.streamCall = some (layer.name ++ ".async(" ++ ", ".intercalate arrays ++ ");")
  noStart : staged = false → source.streamCall = none

theorem ConfigStruct.join_segments (struct : ConfigStruct) (values : String → String) :
    ∃ rest, String.join (struct.segments.map (Segment.textWith values)) =
      "struct config" ++ values "index" ++ " : nnet::" ++ rest ++ "\x7d;\n" := by
  refine ⟨struct.base ++ " \x7b\n" ++ struct.linesText values struct.lines, ?_⟩
  rw [join_segments_eq, openingText_eq]
  simp only [String.append_assoc]

namespace Invocation

variable (values : String → String)

theorem join_further (arrays : List String) :
    String.join ((arrays.flatMap further).map (Segment.textWith values)) =
      String.join ((arrays.map values).map (", " ++ ·)) := by
  induction arrays with
  | nil => rfl
  | cons array rest ih =>
      rw [List.flatMap_cons, List.map_append, String.join_append, ih]
      simp [further, Segment.textWith, String.append_assoc]

theorem join_callSegments (operation : List Segment) (arrays : List String) :
    String.join ((callSegments operation arrays).map (Segment.textWith values)) =
      "nnet::" ++ String.join (operation.map (Segment.textWith values)) ++ "<" ++
        values "input_t" ++ ", " ++ values "output_t" ++ ", " ++ values "config" ++ ">(" ++
        values "input" ++ ", " ++ values "output" ++
        String.join ((arrays.map values).map (", " ++ ·)) ++ ");" := by
  rw [← join_further]
  simp [callSegments, further, Segment.textWith, String.append_assoc]

theorem join_stageSegments (operation : List Segment) :
    String.join ((stageSegments operation).map (Segment.textWith values)) =
      "task_sequence<nnet::" ++ String.join (operation.map (Segment.textWith values)) ++
        "_stream<" ++ values "input_pipe" ++ ", " ++ values "output_pipe" ++ ", " ++
        values "config" ++ ">>(" ++ values "name" ++ ");" := by
  simp [stageSegments, further, Segment.textWith, String.append_assoc]

end Invocation

namespace Role.Fills

variable {layer : Layer} {segments : List Segment} {values : String → String}

theorem arrays_of_fills {role : Role} (fills : role.Fills layer segments values)
    (used : ∀ name ∈ layer.kind.arrayNames, .placeholder name ∈ segments) :
    layer.Arrays (layer.kind.arrayNames.map values) := by
  rw [LayerKind.arrayNames] at used ⊢
  by_cases dense : layer.kind = .dense
  · rw [if_pos dense] at used ⊢
    have named : ∀ array ∈ Dense.arrays, ∀ v, layer.weights.find? array.1 = some v →
        values array.2 = v.name := by
      intro array listed v held
      exact fills.array_eq dense listed (used _ (Dense.mem_arrayNames array listed)) held
    exact .dense dense (named ("weight", "w") (by decide)) (named ("bias", "b") (by decide))
  · rw [if_neg dense]
    exact .none dense

theorem config (fills : Role.config.Fills layer segments values) :
    ∃ body, String.join (segments.map (Segment.textWith values)) =
      "struct " ++ layer.configName ++ " : nnet::" ++ body ++ "\x7d;\n" := by
  obtain ⟨struct, rfl⟩ := fills.shape
  have index : values "index" = layer.indexText :=
    fills.value_eq (by decide) (by simp [ConfigStruct.segments]) rfl
  obtain ⟨body, text⟩ := struct.join_segments values
  refine ⟨body, ?_⟩
  rw [text, index, Layer.configName, ← String.append_assoc]
  rfl

/-- The call of a layer with an input and an output. -/
theorem call (fills : Role.call.Fills layer segments values) {input output : Variable}
    (reads : layer.input = some input) (writes : layer.output = some output) :
    ∃ op arrays, layer.Arrays arrays ∧
      String.join (segments.map (Segment.textWith values)) =
        "nnet::" ++ op ++ "<" ++ input.elementType ++ ", " ++ output.elementType ++ ", " ++
          layer.configName ++ ">(" ++ input.name ++ ", " ++ output.name ++
          String.join (arrays.map (", " ++ ·)) ++ ");" := by
  obtain ⟨operation, rfl⟩ := fills.shape
  have arrays : layer.Arrays (layer.kind.arrayNames.map values) :=
    fills.arrays_of_fills fun name inside =>
      Invocation.placeholder_mem_callSegments (List.mem_append_right _ inside)
  have structural : ∀ name ∈ Invocation.callNames, name ∈ Role.call.structuralNames := by decide
  have value : ∀ name ∈ Invocation.callNames, ∀ text,
      bound? (Params.structuralBindings layer .call) name = some text → values name = text := by
    intro name listed text binds
    exact fills.value_eq (structural name listed)
      (Invocation.placeholder_mem_callSegments (List.mem_append_left _ listed)) binds
  simp only [Params.structuralBindings, reads, writes, Params.variableBindings] at value
  refine ⟨String.join (operation.map (Segment.textWith values)), _, arrays, ?_⟩
  rw [Invocation.join_callSegments, value "config" (by decide) _ rfl,
    value "input_t" (by decide) _ rfl, value "output_t" (by decide) _ rfl,
    value "input" (by decide) _ rfl, value "output" (by decide) _ rfl]

/-- The registration of a layer with an input and an output as a stage. -/
theorem stage (fills : Role.taskSequence.Fills layer segments values) {input output : Variable}
    (reads : layer.input = some input) (writes : layer.output = some output) :
    ∃ op, String.join (segments.map (Segment.textWith values)) =
      "task_sequence<nnet::" ++ op ++ "_stream<" ++ input.pipeName ++ ", " ++ output.pipeName ++
        ", " ++ layer.configName ++ ">>(" ++ layer.name ++ ");" := by
  obtain ⟨operation, rfl⟩ := fills.shape
  have structural : ∀ name ∈ Invocation.stageNames,
      name ∈ Role.taskSequence.structuralNames := by decide
  have value : ∀ name ∈ Invocation.stageNames, ∀ text,
      bound? (Params.structuralBindings layer .taskSequence) name = some text →
        values name = text := by
    intro name listed text binds
    exact fills.value_eq (structural name listed)
      (Invocation.placeholder_mem_stageSegments listed) binds
  simp only [Params.structuralBindings, reads, writes, Params.variableBindings] at value
  refine ⟨String.join (operation.map (Segment.textWith values)), ?_⟩
  rw [Invocation.join_stageSegments, value "config" (by decide) _ rfl,
    value "input_pipe" (by decide) _ rfl, value "output_pipe" (by decide) _ rfl,
    value "name" (by decide) _ rfl]

/-- The start of the stage of a layer. -/
theorem start (fills : Role.streamCall.Fills layer segments values) :
    ∃ arrays, layer.Arrays arrays ∧ String.join (segments.map (Segment.textWith values)) =
      layer.name ++ ".async(" ++ ", ".intercalate arrays ++ ");" := by
  have shape : segments = if layer.kind = .dense then Invocation.startWithSegments "w" "b"
    else Invocation.startSegments := fills.shape
  have name : values "name" = layer.name := by
    apply fills.value_eq (by decide) _ rfl
    rw [shape]
    split <;> decide
  have arrays : layer.Arrays (layer.kind.arrayNames.map values) := by
    apply fills.arrays_of_fills
    rw [shape, LayerKind.arrayNames]
    split <;> decide
  refine ⟨_, arrays, ?_⟩
  rw [shape, LayerKind.arrayNames]
  split
  · simp [Invocation.startWithSegments, Invocation.further, Segment.textWith, name,
      String.append_assoc]
  · simp [Invocation.startSegments, Segment.textWith, name, String.append_assoc]

end Role.Fills

namespace Backend

theorem isOwn_of_emits {name : String} {dialect : Dialect} {layer : Layer} {source : LayerSource}
    (emits : (ofDialect name dialect).Emits layer source) :
    source.IsOwn ((ofDialect name dialect).streams layer.ioStyle) layer where
  name := emits.name
  index := emits.index
  config := by
    obtain ⟨segments, values, fills, text⟩ := exists_fills_of_format emits.config
    obtain ⟨body, written⟩ := fills.config
    exact ⟨body, text.trans written⟩
  call := by
    intro called input output reads writes
    obtain ⟨segments, values, fills, text⟩ := exists_fills_of_format (emits.call called).1
    obtain ⟨op, arrays, named, written⟩ := fills.call reads writes
    exact ⟨op, arrays, named, text.trans written⟩
  stage := by
    intro staged input output reads writes
    obtain ⟨segments, values, fills, text⟩ := exists_fills_of_format (emits.stage staged).1
    obtain ⟨op, written⟩ := fills.stage reads writes
    exact ⟨op, text.trans written⟩
  start := by
    intro staged
    obtain ⟨start, formatted, given⟩ := (emits.stage staged).2
    obtain ⟨segments, values, fills, rfl⟩ := exists_fills_of_format formatted
    obtain ⟨arrays, named, written⟩ := fills.start
    exact ⟨arrays, named, given.trans (congrArg some written)⟩
  noStart called := (emits.call called).2

variable {backend : Backend}

theorem configName_injective :
    Function.Injective fun index : UInt32 => "config" ++ toString index.toNat := by
  intro first second same
  have texts : toString first.toNat = toString second.toNat := (String.append_right_inj _).mp same
  rw [Nat.toString_eq_ofList_toDigits, Nat.toString_eq_ofList_toDigits] at texts
  have digits : Nat.toDigits 10 first.toNat = Nat.toDigits 10 second.toNat :=
    String.ofList_inj.mp texts
  have numbers := congrArg (Nat.ofDigitChars 10 · 0) digits
  simp only [Nat.ofDigitChars_ten_toDigits] at numbers
  exact UInt32.toNat_inj.mp numbers

/-- A layer that fails only leaves its index out. -/
theorem index_sourcesOf_sublist (layers : List Layer) :
    ((backend.sourcesOf layers).map LayerSource.index).Sublist (layers.map Layer.index) := by
  induction layers with
  | nil => exact .slnil
  | cons layer rest ih =>
      rw [sourcesOf, List.filterMap_cons, List.map_cons]
      cases emitted : backend.emitLayer layer with
      | error reason => exact .cons _ ih
      | ok source =>
          rw [← (emits_of_emitLayer emitted).index]
          exact .cons_cons _ ih

theorem streams_ofDialect (builtin : Builtin) (style : IoStyle) :
    (ofDialect builtin.name builtin.dialect).streams style =
      decide (builtin = .oneApi ∧ style = .stream) := by
  cases builtin <;> cases style <;> rfl

/-- Every layer of a project declares, calls and starts what is its own. -/
theorem emitModel_isOwn (builtin : Builtin) :
    ∃ backend, builtin.backend = .ok backend ∧
      ∀ text model policy project, Model.ofText text = .ok model →
        backend.emitModel model policy = .ok project →
        (project.layers.map fun source => "config" ++ toString source.index.toNat).Nodup ∧
        ∀ source ∈ project.layers, ∃ layer ∈ model.layers, backend.emitLayer layer = .ok source ∧
          source.IsOwn (builtin = .oneApi ∧ model.ioStyle = .stream) layer := by
  refine ⟨_, builtin.backend_eq_ok, ?_⟩
  intro text model policy project loads emitted
  have loaded := Model.isLoaded_of_ofText loads
  have layers := layers_of_emitModel emitted
  constructor
  · have indices : (project.layers.map LayerSource.index).Nodup := by
      rw [layers]
      have emitting : model.emittingLayers.Sublist model.layers := List.filter_sublist
      exact loaded.distinct.sublist
        ((index_sourcesOf_sublist _).trans (emitting.map Layer.index))
    have names := indices.map configName_injective
    rwa [List.map_map] at names
  · intro source member
    rw [layers] at member
    obtain ⟨layer, inside, layerEmitted⟩ := mem_sourcesOf_iff.mp member
    have held : layer ∈ model.layers := List.mem_of_mem_filter inside
    have own := isOwn_of_emits (emits_of_emitLayer layerEmitted)
    rw [streams_ofDialect, loaded.style layer held] at own
    exact ⟨layer, held, layerEmitted, own⟩

end Backend

/-- A streaming model of one layer, which has an attribute named like a structural
    parameter. -/
def streamedText : String :=
  "\x7b\"name\":\"m\",\"io_type\":\"io_stream\",\"layers\":[\x7b\"name\":\"relu\"," ++
  "\"kind\":\"Activation\",\"index\":4,\"input\":\x7b\"name\":\"x\",\"type\":\"t\"\x7d," ++
  "\"output\":\x7b\"name\":\"y\",\"type\":\"u\"\x7d,\"attributes\":" ++
  "\x7b\"n_in\":8,\"table_size\":9,\"index\":7\x7d," ++
  "\"types\":\x7b\"table_t\":\x7b\"name\":\"v\"\x7d\x7d\x7d]\x7d"

theorem Backend.emitModel_streamedText :
    ∃ backend model project, Builtin.oneApi.backend = .ok backend ∧
      Model.ofText streamedText = .ok model ∧ backend.emitModel model .abort = .ok project ∧
      (project.layers.map fun source => "config" ++ toString source.index.toNat).Nodup ∧
      ∀ source ∈ project.layers, ∃ layer ∈ model.layers, backend.emitLayer layer = .ok source ∧
        source.IsOwn (Builtin.oneApi = .oneApi ∧ model.ioStyle = .stream) layer := by
  obtain ⟨backend, built, own⟩ := Backend.emitModel_isOwn .oneApi
  have emits : ((Model.ofText streamedText).toOption.bind fun model =>
      (backend.emitModel model .abort).toOption).isSome = true := by
    obtain rfl := Except.ok.inj (Builtin.oneApi.backend_eq_ok.symm.trans built)
    decide +kernel
  cases loads : Model.ofText streamedText with
  | error reason =>
      rw [loads] at emits
      cases emits
  | ok model =>
      rw [loads] at emits
      cases emitted : backend.emitModel model .abort with
      | error reason =>
          simp [emitted, Except.toOption] at emits
      | ok project =>
          obtain ⟨distinct, each⟩ := own _ _ _ _ loads emitted
          exact ⟨backend, model, project, built, rfl, emitted, distinct, each⟩

end HlsEmit

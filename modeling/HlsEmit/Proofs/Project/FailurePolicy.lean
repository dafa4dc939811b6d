import HlsEmit.Project
import HlsEmit.Proofs.Outcome

/-! # What failing layers do to a project

Layers are emitted independently of each other. A project that keeps going holds
the code of the layers that succeed and the reasons of those that fail, both in
layer order. A project that aborts is the same project if no layer fails, and
otherwise the error of the first layer that does.
-/

namespace HlsEmit.Backend

variable (backend : Backend)

/-- The code of the layers that succeed. -/
def sourcesOf (layers : List Layer) : List LayerSource :=
  layers.filterMap fun layer => (backend.emitLayer layer).toOption

/-- The names of the layers that fail, with the reasons. -/
def failuresOf (layers : List Layer) : List (String × CodegenError) :=
  layers.filterMap fun layer =>
    match backend.emitLayer layer with
    | .ok _ => none
    | .error reason => some (layer.name, reason)

/-- Whether a layer produces code and its code cannot be emitted. -/
def fails (layer : Layer) : Bool :=
  layer.kind.emitsCode && (backend.emitLayer layer).toOption.isNone

/-- The model without the layers that fail. -/
def withoutFailing (model : Model) : Model :=
  { model with layers := model.layers.filter fun layer => !backend.fails layer }

variable {backend}

theorem mem_sourcesOf_iff {layers : List Layer} {source : LayerSource} :
    source ∈ backend.sourcesOf layers ↔
      ∃ layer ∈ layers, backend.emitLayer layer = .ok source := by
  have given : ∀ layer, (backend.emitLayer layer).toOption = some source ↔
      backend.emitLayer layer = .ok source := by
    intro layer
    cases backend.emitLayer layer <;> simp [Except.toOption]
  simp only [sourcesOf, List.mem_filterMap, given]

theorem mem_failuresOf_iff {layers : List Layer} {name : String} {reason : CodegenError} :
    (name, reason) ∈ backend.failuresOf layers ↔
      ∃ layer ∈ layers, layer.name = name ∧ backend.emitLayer layer = .error reason := by
  rw [failuresOf, List.mem_filterMap]
  refine exists_congr fun layer => and_congr_right fun _ => ?_
  cases backend.emitLayer layer <;> simp

theorem emitLayers_keepGoing (layers : List Layer) : backend.emitLayers .keepGoing layers =
    .ok (backend.sourcesOf layers, backend.failuresOf layers) := by
  induction layers with
  | nil => rfl
  | cons layer rest ih =>
      cases result : backend.emitLayer layer with
      | ok source =>
          simp [emitLayers, result, ih, sourcesOf, failuresOf, Except.toOption, Except.map]
      | error reason =>
          simp [emitLayers, result, ih, sourcesOf, failuresOf, Except.toOption, Except.map]

theorem emitLayers_abort_of_ok {layers : List Layer}
    (succeed : ∀ layer ∈ layers, ∃ source, backend.emitLayer layer = .ok source) :
    backend.emitLayers .abort layers = backend.emitLayers .keepGoing layers := by
  induction layers with
  | nil => rfl
  | cons layer rest ih =>
      obtain ⟨source, result⟩ := succeed layer (by simp)
      have others := ih fun other member => succeed other (by simp [member])
      simp only [emitLayers, result, others]

theorem emitLayers_keepGoing_of_abort {layers : List Layer}
    {result : List LayerSource × List (String × CodegenError)}
    (emitted : backend.emitLayers .abort layers = .ok result) :
    backend.emitLayers .keepGoing layers = .ok result := by
  induction layers generalizing result with
  | nil => exact emitted
  | cons layer rest ih =>
      rw [emitLayers] at emitted ⊢
      cases layerEmitted : backend.emitLayer layer with
      | error reason =>
          rw [layerEmitted] at emitted
          cases emitted
      | ok source =>
          rw [layerEmitted] at emitted
          obtain ⟨others, done, rfl⟩ := Outcome.map_eq_ok_iff.mp emitted
          exact Outcome.map_eq_ok_iff.mpr ⟨others, ih done, rfl⟩

/-- The first layer that fails decides. -/
theorem emitLayers_abort_eq_error_iff {layers : List Layer} {reason : CodegenError} :
    backend.emitLayers .abort layers = .error reason ↔
      ∃ before layer after, layers = before ++ layer :: after ∧
        (∀ earlier ∈ before, ∃ source, backend.emitLayer earlier = .ok source) ∧
        backend.emitLayer layer = .error reason := by
  induction layers with
  | nil => simp [emitLayers]
  | cons layer rest ih =>
      cases result : backend.emitLayer layer with
      | error first =>
          simp only [emitLayers, result, Except.error.injEq]
          constructor
          · rintro rfl
            exact ⟨[], layer, rest, rfl, by simp, result⟩
          · rintro ⟨before, failing, after, shape, succeed, failed⟩
            cases before with
            | nil =>
                obtain ⟨rfl, -⟩ := List.cons.inj shape
                exact Except.error.inj (result.symm.trans failed)
            | cons head before =>
                obtain ⟨rfl, -⟩ := List.cons.inj shape
                obtain ⟨source, emitted⟩ := succeed layer (by simp)
                simp [result] at emitted
      | ok source =>
          simp only [emitLayers, result, Outcome.map_eq_error_iff, ih]
          constructor
          · rintro ⟨before, failing, after, rfl, succeed, failed⟩
            exact ⟨layer :: before, failing, after, rfl, by simpa [result] using succeed, failed⟩
          · rintro ⟨before, failing, after, shape, succeed, failed⟩
            cases before with
            | nil =>
                obtain ⟨rfl, -⟩ := List.cons.inj shape
                simp [result] at failed
            | cons head before =>
                obtain ⟨rfl, rfl⟩ := List.cons.inj shape
                exact ⟨before, failing, after, rfl,
                  fun earlier member => succeed earlier (by simp [member]), failed⟩

theorem emitModel_keepGoing (model : Model) : backend.emitModel model .keepGoing = .ok
    { backend := backend.name, layers := backend.sourcesOf model.emittingLayers
      failures := backend.failuresOf model.emittingLayers } := by
  rw [emitModel, emitLayers_keepGoing]
  rfl

theorem emitModel_abort_eq_error_iff {model : Model} {reason : CodegenError} :
    backend.emitModel model .abort = .error reason ↔
      ∃ before layer after, model.emittingLayers = before ++ layer :: after ∧
        (∀ earlier ∈ before, ∃ source, backend.emitLayer earlier = .ok source) ∧
        backend.emitLayer layer = .error reason := by
  rw [emitModel, Outcome.map_eq_error_iff, emitLayers_abort_eq_error_iff]

theorem emitModel_abort_of_ok {model : Model}
    (succeed : ∀ layer ∈ model.emittingLayers, ∃ source, backend.emitLayer layer = .ok source) :
    backend.emitModel model .abort = backend.emitModel model .keepGoing := by
  rw [emitModel, emitModel, emitLayers_abort_of_ok succeed]

/-- Under either policy the code is that of the layers that succeed. -/
theorem layers_of_emitModel {model : Model} {policy : FailurePolicy} {project : Project}
    (emitted : backend.emitModel model policy = .ok project) :
    project.layers = backend.sourcesOf model.emittingLayers := by
  obtain ⟨result, done, rfl⟩ := Outcome.map_eq_ok_iff.mp emitted
  have kept : backend.emitLayers .keepGoing model.emittingLayers = .ok result := by
    cases policy with
    | abort => exact emitLayers_keepGoing_of_abort done
    | keepGoing => exact done
  rw [emitLayers_keepGoing] at kept
  rw [← Except.ok.inj kept]

theorem emittingLayers_withoutFailing (model : Model) :
    (backend.withoutFailing model).emittingLayers =
      model.emittingLayers.filter fun layer => (backend.emitLayer layer).toOption.isSome := by
  simp only [withoutFailing, Model.emittingLayers, List.filter_filter]
  refine List.filter_congr fun layer _ => ?_
  cases emits : layer.kind.emitsCode <;> cases result : (backend.emitLayer layer).toOption <;>
    simp [fails, emits, result]

theorem sourcesOf_filter_isSome (layers : List Layer) :
    backend.sourcesOf (layers.filter fun layer => (backend.emitLayer layer).toOption.isSome) =
      backend.sourcesOf layers := by
  rw [sourcesOf, List.filterMap_filter]
  refine List.filterMap_congr fun layer _ => ?_
  cases (backend.emitLayer layer).toOption <;> rfl

theorem emitLayer_ok_of_mem_withoutFailing {model : Model} {layer : Layer}
    (member : layer ∈ (backend.withoutFailing model).emittingLayers) :
    ∃ source, backend.emitLayer layer = .ok source := by
  rw [emittingLayers_withoutFailing] at member
  have emitted := (List.mem_filter.mp member).2
  cases result : backend.emitLayer layer with
  | ok source => exact ⟨source, rfl⟩
  | error reason => simp [result, Except.toOption] at emitted

/-- The two policies agree, and neither loses, repeats or reorders a layer. -/
theorem emitModel_policies (backend : Backend) (model : Model) :
    ∃ project, backend.emitModel model .keepGoing = .ok project ∧
      project.layers = (model.layers.filter (·.kind ≠ .input)).filterMap
        (fun layer => (backend.emitLayer layer).toOption) ∧
      project.failures = (model.layers.filter (·.kind ≠ .input)).filterMap
        (fun layer => match backend.emitLayer layer with
          | .ok _ => none
          | .error reason => some (layer.name, reason)) ∧
      (∀ reason, backend.emitModel model .abort = .error reason ↔
        ∃ before layer after, model.layers.filter (·.kind ≠ .input) = before ++ layer :: after ∧
          (∀ earlier ∈ before, ∃ source, backend.emitLayer earlier = .ok source) ∧
          backend.emitLayer layer = .error reason) ∧
      ((∀ layer ∈ model.layers.filter (·.kind ≠ .input),
          ∃ source, backend.emitLayer layer = .ok source) →
        backend.emitModel model .abort = .ok project) ∧
      (∀ front back, model.layers = front ++ back → ∃ first second,
        backend.emitModel { model with layers := front } .keepGoing = .ok first ∧
        backend.emitModel { model with layers := back } .keepGoing = .ok second ∧
        project.layers = first.layers ++ second.layers ∧
        project.failures = first.failures ++ second.failures) ∧
      ∃ clean, backend.emitModel (backend.withoutFailing model) .abort = .ok clean ∧
        project.toSource = clean.toSource := by
  refine ⟨_, emitModel_keepGoing model, rfl, rfl, fun reason => emitModel_abort_eq_error_iff,
    fun succeed => (emitModel_abort_of_ok succeed).trans (emitModel_keepGoing model), ?_, ?_⟩
  · intro front back layers
    refine ⟨_, _, emitModel_keepGoing _, emitModel_keepGoing _, ?_, ?_⟩
    · simp only [Model.emittingLayers, layers, List.filter_append, sourcesOf,
        List.filterMap_append]
    · simp only [Model.emittingLayers, layers, List.filter_append, failuresOf,
        List.filterMap_append]
  · have succeed : ∀ layer ∈ (backend.withoutFailing model).emittingLayers,
        ∃ source, backend.emitLayer layer = .ok source :=
      fun layer => emitLayer_ok_of_mem_withoutFailing
    have aborted := (emitModel_abort_of_ok succeed).trans
      (emitModel_keepGoing (backend.withoutFailing model))
    refine ⟨_, aborted, ?_⟩
    have sources : backend.sourcesOf (backend.withoutFailing model).emittingLayers =
        backend.sourcesOf model.emittingLayers := by
      rw [emittingLayers_withoutFailing, sourcesOf_filter_isSome]
    simp only [Project.toSource, Project.includes, sources]

end HlsEmit.Backend

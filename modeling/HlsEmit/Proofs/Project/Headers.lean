import HlsEmit.Proofs.FirstSeen
import HlsEmit.Proofs.Project.Emission
import HlsEmit.Proofs.Project.FailurePolicy

/-! # The headers of a project

A kind needs the headers of its call and those of its stage registration, and a
project needs those of its layers. Both lists have each header once, in order of
first appearance. So the list of a project only grows at its end when further
layers follow, and the source text opens with one line for each header, before the
configuration of the first layer.
-/

namespace HlsEmit

namespace Backend

variable {backend : Backend}

/-- The headers of the template for the kind in a role, if there is one. -/
def headersIn (backend : Backend) (role : Role) (kind : LayerKind) : List String :=
  match backend.template? role kind with
  | some template => template.includes
  | none => []

/-- The headers of the call of a kind, followed by those of its stage registration. -/
def invocationHeaders (backend : Backend) (kind : LayerKind) : List String :=
  backend.headersIn .call kind ++ backend.headersIn .taskSequence kind

theorem includeHeaders_eq (backend : Backend) (kind : LayerKind) :
    backend.includeHeaders kind = (backend.invocationHeaders kind).eraseDups := by
  have each : ∀ role, ((backend.template? role kind).map Template.includes).getD [] =
      backend.headersIn role kind := by
    intro role
    rw [headersIn]
    cases backend.template? role kind <;> rfl
  rw [includeHeaders, invocationHeaders, List.flatMap_cons, List.flatMap_cons, List.flatMap_nil,
    List.append_nil, each, each]

end Backend

namespace Project

/-- The line that includes a header. -/
def includeLine (header : String) : String := "#include \"" ++ header ++ "\"\n"

/-- What follows the headers: a blank line and the configuration of the first layer, or
    nothing if there are no layers. -/
def Resumes : List LayerSource → String → Prop
  | [], rest => rest = ""
  | first :: _, rest => ∃ after, rest = "\n" ++ first.config ++ after

theorem includeLine_injective : Function.Injective includeLine := by
  intro first second same
  rw [includeLine, includeLine, String.append_left_inj, String.append_right_inj] at same
  exact same

theorem exists_toSource_eq (project : Project) : ∃ rest, Resumes project.layers rest ∧
    project.toSource = String.join (project.includes.map includeLine) ++ rest := by
  cases layers : project.layers with
  | nil =>
      refine ⟨"", rfl, ?_⟩
      simp only [toSource, layers, List.isEmpty_nil, if_true, List.map_nil, List.filterMap_nil,
        String.join_nil, String.append_empty]
      rfl
  | cons first others =>
      have start : project.toSource = String.join (project.includes.map includeLine) ++
          ("\n" ++ first.config ++ ("\n" ++ String.join (others.map fun layer =>
            layer.config ++ "\n") ++ String.join (project.layers.map fun layer =>
            layer.invocation ++ "\n") ++ String.join
            ((project.layers.filterMap LayerSource.streamCall).map (· ++ "\n")))) := by
        simp only [toSource, layers, List.isEmpty_cons, Bool.false_eq_true, if_false,
          List.map_cons, String.join_cons, String.append_assoc]
        rfl
      exact ⟨_, ⟨_, rfl⟩, start⟩

/-- The first layers of a project need a part of its headers, the first ones. -/
theorem includes_take (project : Project) (count : Nat) :
    ({ project with layers := project.layers.take count }).includes <+: project.includes := by
  have whole : project.layers.flatMap LayerSource.includes =
      (project.layers.take count).flatMap LayerSource.includes ++
        (project.layers.drop count).flatMap LayerSource.includes := by
    rw [← List.flatMap_append, List.take_append_drop]
  rw [includes, includes, whole]
  exact eraseDups_prefix_append _ _

end Project

/-- The lists of headers have every header once, in order of first appearance, and the
    source of a project opens with them. -/
theorem Project.headers_firstSeen :
    (∀ (backend : Backend) (kind : LayerKind),
      IsFirstSeen (backend.headersIn .call kind ++ backend.headersIn .taskSequence kind)
        (backend.includeHeaders kind)) ∧
    ∀ project : Project,
      IsFirstSeen (project.layers.flatMap LayerSource.includes) project.includes ∧
      (∀ count, ({ project with layers := project.layers.take count }).includes <+:
        project.includes) ∧
      (project.includes.map includeLine).Nodup ∧
      ∃ rest, Resumes project.layers rest ∧
        project.toSource = String.join (project.includes.map includeLine) ++ rest := by
  constructor
  · intro backend kind
    rw [backend.includeHeaders_eq]
    exact isFirstSeen_eraseDups _
  · intro project
    have firstSeen := isFirstSeen_eraseDups (project.layers.flatMap LayerSource.includes)
    exact ⟨firstSeen, project.includes_take, firstSeen.once.map includeLine_injective,
      project.exists_toSource_eq⟩

namespace Backend

variable {backend : Backend} {layer : Layer} {source : LayerSource}

theorem includes_of_emitLayer (emitted : backend.emitLayer layer = .ok source) :
    source.includes = (backend.invocationHeaders layer.kind).eraseDups := by
  obtain ⟨texts, -, rfl⟩ := emitLayer_eq_ok_iff.mp emitted
  rw [← includeHeaders_eq, roles_eq]
  split <;> rfl

theorem flatMap_includes_sourcesOf (layers : List Layer) :
    (backend.sourcesOf layers).flatMap LayerSource.includes =
      (layers.filter fun layer => (backend.emitLayer layer).toOption.isSome).flatMap
        fun layer => (backend.invocationHeaders layer.kind).eraseDups := by
  induction layers with
  | nil => rfl
  | cons layer rest ih =>
      rw [sourcesOf] at ih ⊢
      cases emitted : backend.emitLayer layer with
      | error reason =>
          have absent : (backend.emitLayer layer).toOption = none := by rw [emitted]; rfl
          simpa only [List.filterMap_cons, List.filter_cons, absent, Option.isSome_none,
            Bool.false_eq_true, if_false] using ih
      | ok source =>
          have present : (backend.emitLayer layer).toOption = some source := by rw [emitted]; rfl
          simp only [List.filterMap_cons, List.filter_cons, present, Option.isSome_some, if_true,
            List.flatMap_cons, includes_of_emitLayer emitted, ih]

/-- The headers of an emitted project are those of the templates for its layers, although
    both the kinds and the project leave out repetitions. -/
theorem includes_of_emitModel {model : Model} {policy : FailurePolicy} {project : Project}
    (emitted : backend.emitModel model policy = .ok project) :
    IsFirstSeen ((backend.withoutFailing model).emittingLayers.flatMap
      fun layer => backend.invocationHeaders layer.kind) project.includes := by
  rw [Project.includes, layers_of_emitModel emitted, flatMap_includes_sourcesOf,
    ← emittingLayers_withoutFailing, eraseDups_flatMap]
  exact isFirstSeen_eraseDups _

end Backend

end HlsEmit

import HlsEmit.Family.Activation
import HlsEmit.Proofs.Outcome
import HlsEmit.Proofs.Template.Parameters
import HlsEmit.Template.Basic

/-! # Templates that were checked when they were built

Building a template checks that every kind has a body whose placeholders are
provided by the role, the vocabulary of the kind or a derivation. So formatting a
layer fails for few reasons: the template does not cover its kind, a derivation
refuses it, or it lacks something that its vocabulary asks for.

A derivation may fail with any error, and its error is passed on. What
derivations do to parameters is therefore described by a relation of its own.
-/

namespace HlsEmit

namespace Derivation

variable {context : DeriveContext} {layer : Layer}

/-- Derivations that succeed one after the other. -/
inductive Run (context : DeriveContext) (layer : Layer) : List Derivation → Params → Params → Prop
  | nil {params} : Run context layer [] params params
  | cons {d rest first middle last} : d.apply context layer first = .ok middle →
      Run context layer rest middle last → Run context layer (d :: rest) first last

/-- The first derivation that fails does so for the given reason. -/
def FirstFailure (context : DeriveContext) (layer : Layer) (derivations : List Derivation)
    (params : Params) (reason : CodegenError) : Prop :=
  ∃ before d after reached, derivations = before ++ d :: after ∧
    Run context layer before params reached ∧ d.apply context layer reached = .error reason

/-- A derivation that, where it succeeds, keeps the names that were there and
    adds all that it provides. -/
structure Keeps (d : Derivation) (context : DeriveContext) (layer : Layer) : Prop where
  kept : ∀ before after, d.apply context layer before = .ok after →
    ∀ name, before.contains name = true → after.contains name = true
  provided : ∀ before after, d.apply context layer before = .ok after →
    ∀ name ∈ d.provides, after.contains name = true

theorem foldlM_eq_ok_iff {derivations : List Derivation} {params last : Params} :
    derivations.foldlM (fun params d => d.apply context layer params) params = .ok last ↔
      Run context layer derivations params last := by
  induction derivations generalizing params with
  | nil =>
      constructor
      · intro same
        obtain rfl : params = last := by simpa [pure, Except.pure] using same
        exact .nil
      · rintro ⟨⟩
        rfl
  | cons d rest ih =>
      rw [List.foldlM_cons, Outcome.bind_eq_ok_iff]
      constructor
      · rintro ⟨middle, first, others⟩
        exact .cons first (ih.mp others)
      · rintro (_ | ⟨first, others⟩)
        exact ⟨_, first, ih.mpr others⟩

theorem foldlM_eq_error_iff {derivations : List Derivation} {params : Params}
    {reason : CodegenError} :
    derivations.foldlM (fun params d => d.apply context layer params) params = .error reason ↔
      FirstFailure context layer derivations params reason := by
  induction derivations generalizing params with
  | nil => simp [pure, Except.pure, FirstFailure]
  | cons d rest ih =>
      rw [List.foldlM_cons, Outcome.bind_eq_error_iff]
      constructor
      · rintro (failing | ⟨middle, first, failing⟩)
        · exact ⟨[], d, rest, params, rfl, .nil, failing⟩
        · obtain ⟨before, other, after, reached, rfl, run, fails⟩ := ih.mp failing
          exact ⟨d :: before, other, after, reached, rfl, .cons first run, fails⟩
      · rintro ⟨before, other, after, reached, shape, run, fails⟩
        cases run with
        | nil =>
            obtain ⟨rfl, rfl⟩ : d = other ∧ rest = after := by simpa using shape
            exact .inl fails
        | cons first others =>
            obtain ⟨rfl, rfl⟩ := List.cons.inj shape
            exact .inr ⟨_, first, ih.mpr ⟨_, other, after, reached, rfl, others, fails⟩⟩

/-- A run of derivations that keep names ends with all names from the start and
    all that the derivations provide. -/
theorem Run.contains {derivations : List Derivation} {params last : Params}
    (run : Run context layer derivations params last)
    (keeps : ∀ d ∈ derivations, d.Keeps context layer) {name : String}
    (there : params.contains name = true ∨ ∃ d ∈ derivations, name ∈ d.provides) :
    last.contains name = true := by
  induction run with
  | nil => simpa using there
  | @cons d rest first middle last step _ ih =>
      have head := keeps d (by simp)
      refine ih (fun other member => keeps other (by simp [member])) ?_
      rcases there with present | ⟨other, member, provides⟩
      · exact .inl (head.kept _ _ step name present)
      · rcases List.mem_cons.mp member with rfl | member
        · exact .inl (head.provided _ _ step name provides)
        · exact .inr ⟨other, member, provides⟩

section Writing

variable {provides : List String}
  {bindings : DeriveContext → Layer → Except CodegenError (List (String × String))}

theorem writing_apply_eq_ok_iff {before after : Params} :
    (writing provides bindings).apply context layer before = .ok after ↔
      ∃ pairs, bindings context layer = .ok pairs ∧ before.insertAll pairs = after :=
  Outcome.map_eq_ok_iff

theorem writing_apply_eq_error_iff {before : Params} {reason : CodegenError} :
    (writing provides bindings).apply context layer before = .error reason ↔
      bindings context layer = .error reason :=
  Outcome.map_eq_error_iff

/-- A derivation that writes bindings keeps all names, so it is enough that it
    writes what it provides. -/
theorem keeps_writing (writes : ∀ pairs, bindings context layer = .ok pairs →
      ∀ name ∈ provides, ∃ pair ∈ pairs, pair.1 = name) :
    (writing provides bindings).Keeps context layer where
  kept before after applied name present := by
    obtain ⟨pairs, _, rfl⟩ := writing_apply_eq_ok_iff.mp applied
    exact (Table.contains_insertAll before pairs name).mpr (.inr present)
  provided before after applied name listed := by
    obtain ⟨pairs, bound, rfl⟩ := writing_apply_eq_ok_iff.mp applied
    exact (Table.contains_insertAll before pairs name).mpr (.inl (writes pairs bound name listed))

end Writing

end Derivation

namespace TemplateBody

theorem mem_placeholders_iff (body : TemplateBody) (name : String) :
    name ∈ body.placeholders ↔ .placeholder name ∈ body.segments := by
  simp only [placeholders, List.mem_eraseDups, List.mem_filterMap]
  constructor
  · rintro ⟨segment, member, found⟩
    cases segment with
    | literal text => simp at found
    | placeholder other =>
        obtain rfl : other = name := by simpa using found
        exact member
  · intro member
    exact ⟨_, member, rfl⟩

/-- Rendering fails at a placeholder of the body that has no value. -/
theorem missing_of_render {body : TemplateBody} {params : Params} {name : String}
    (failed : body.render params = .error name) :
    name ∈ body.placeholders ∧ params.contains name = false := by
  obtain ⟨segment, member, missing⟩ :=
    Outcome.exists_of_mapM_eq_error (Outcome.map_eq_error_iff.mp failed)
  cases segment with
  | literal text => simp [Segment.fill] at missing
  | placeholder other =>
      simp only [Segment.fill] at missing
      split at missing
      · simp at missing
      · rename_i absent
        obtain rfl : other = name := by simpa using missing
        exact ⟨(mem_placeholders_iff body other).mpr member, by simp [absent]⟩

end TemplateBody

/-- A layer carries every attribute and type that the family asks for, and both
    variables. -/
structure LayerFamily.IsComplete (family : LayerFamily) (layer : Layer) : Prop where
  attributes : ∀ name ∈ family.attributes layer.kind, (layer.attribute? name).isSome = true
  types : ∀ type ∈ family.types layer.kind, layer.types.contains type = true
  input : layer.input.isSome = true
  output : layer.output.isSome = true

namespace TemplateSpec

/-- What the derivations of the template are told. -/
def context (spec : TemplateSpec) : DeriveContext := ⟨spec.backend, spec.name⟩

/-- The kind of the layer is covered, and the first derivation that fails does so
    for the given reason. -/
def Refuses (spec : TemplateSpec) (layer : Layer) (reason : CodegenError) : Prop :=
  layer.kind ∈ spec.family.kinds ∧ Derivation.FirstFailure spec.context layer spec.derivations
    (Params.defaults spec.role layer) reason

/-- A template is made as specified, with a checked body for every kind. -/
structure Builds (spec : TemplateSpec) (template : LayerTemplate) : Prop where
  name : template.name = spec.name
  backend : template.backend = spec.backend
  role : template.role = spec.role
  kinds : template.kinds = spec.family.kinds
  derivations : template.derivations = spec.derivations
  bodies : ∀ kind ∈ spec.family.kinds, ∃ body, template.bodies.lookup kind = some body ∧
    ∀ placeholder ∈ body.placeholders, placeholder ∈ spec.provided kind

theorem of_chooseBody {spec : TemplateSpec} {own : List (LayerKind × TemplateBody)}
    {shared : Option TemplateBody} {kind : LayerKind} {entry : LayerKind × TemplateBody}
    (chosen : spec.chooseBody own shared kind = .ok entry) :
    entry.1 = kind ∧ ∀ placeholder ∈ entry.2.placeholders, placeholder ∈ spec.provided kind := by
  rw [chooseBody] at chosen
  cases found : (own.lookup kind).or shared with
  | none => simp [found] at chosen
  | some body =>
      cases unbound : body.placeholders.find? (· ∉ spec.provided kind) with
      | some placeholder => simp only [found, unbound, reduceCtorEq] at chosen
      | none =>
          simp only [found, unbound, Except.ok.injEq] at chosen
          subst chosen
          exact ⟨rfl, by simpa using unbound⟩

/-- A list with one entry for each key in turn gives every key its value. -/
theorem exists_lookup_of_keyed {β : Type} (holds : LayerKind → β → Prop)
    {kinds : List LayerKind} {entries : List (LayerKind × β)}
    (keyed : List.Forall₂ (fun kind entry => entry.1 = kind ∧ holds kind entry.2) kinds entries)
    {kind : LayerKind} (covered : kind ∈ kinds) :
    ∃ value, entries.lookup kind = some value ∧ holds kind value := by
  induction keyed with
  | nil => simp at covered
  | @cons first entry kinds entries head _ ih =>
      obtain ⟨key, value⟩ := entry
      obtain ⟨same, held⟩ := head
      obtain rfl : key = first := same
      by_cases here : kind = key
      · subst here
        exact ⟨value, List.lookup_cons_self, held⟩
      · have later : kind ∈ kinds := (List.mem_cons.mp covered).resolve_left here
        obtain ⟨value, found, held⟩ := ih later
        have differ : (kind == key) = false := by simpa using here
        exact ⟨value, by rw [List.lookup_cons, differ, found], held⟩

theorem builds_of_build {spec : TemplateSpec} {template : LayerTemplate}
    (built : spec.build = .ok template) : spec.Builds template := by
  obtain ⟨own, _, built⟩ := Outcome.bind_eq_ok_iff.mp built
  obtain ⟨shared, _, built⟩ := Outcome.bind_eq_ok_iff.mp built
  obtain ⟨bodies, chosen, built⟩ := Outcome.bind_eq_ok_iff.mp built
  obtain rfl := Except.ok.inj built
  have keyed := (Outcome.mapM_eq_ok_iff.mp chosen).imp fun _ _ => of_chooseBody
  exact ⟨rfl, rfl, rfl, rfl, rfl, fun kind covered => exists_lookup_of_keyed
    (fun kind (body : TemplateBody) => ∀ placeholder ∈ body.placeholders,
      placeholder ∈ spec.provided kind) keyed covered⟩

namespace Builds

variable {spec : TemplateSpec} {template : LayerTemplate} {layer : Layer}

theorem context_eq (builds : spec.Builds template) : template.context = spec.context := by
  rw [LayerTemplate.context, builds.backend, builds.name, TemplateSpec.context]

theorem derive_eq_ok_iff (builds : spec.Builds template) {params : Params} :
    template.derive layer = .ok params ↔ Derivation.Run spec.context layer spec.derivations
      (Params.defaults spec.role layer) params := by
  rw [LayerTemplate.derive, builds.context_eq, builds.derivations, builds.role,
    Derivation.foldlM_eq_ok_iff]

theorem derive_eq_error_iff (builds : spec.Builds template) {reason : CodegenError} :
    template.derive layer = .error reason ↔ Derivation.FirstFailure spec.context layer
      spec.derivations (Params.defaults spec.role layer) reason := by
  rw [LayerTemplate.derive, builds.context_eq, builds.derivations, builds.role,
    Derivation.foldlM_eq_error_iff]

theorem format_of_not_mem (builds : spec.Builds template)
    (outside : layer.kind ∉ spec.family.kinds) :
    template.format layer = .error (.unknownKind layer.kind spec.name) := by
  have unsupported : template.supports layer.kind = false := by
    simpa [LayerTemplate.supports, builds.kinds] using outside
  simp [LayerTemplate.format, unsupported, builds.name, throw, throwThe, MonadExceptOf.throw,
    bind, Except.bind]

theorem format_of_mem (builds : spec.Builds template) (covered : layer.kind ∈ spec.family.kinds) :
    ∃ body : TemplateBody,
      (∀ placeholder ∈ body.placeholders, placeholder ∈ spec.provided layer.kind) ∧
      template.format layer = (template.derive layer).bind fun params =>
        (body.render params).mapError fun placeholder =>
          .missingParameter placeholder layer.kind spec.name := by
  obtain ⟨body, found, provided⟩ := builds.bodies layer.kind covered
  have supported : template.supports layer.kind = true := by
    simpa [LayerTemplate.supports, builds.kinds] using covered
  refine ⟨body, provided, ?_⟩
  simp [LayerTemplate.format, supported, LayerTemplate.bodyFor, found, builds.name, bind,
    Except.bind]

end Builds

/-- A complete layer starts with every name of the vocabulary and of the role. -/
theorem contains_defaults_of_isComplete {spec : TemplateSpec} {layer : Layer}
    (complete : spec.family.IsComplete layer) {name : String}
    (known : name ∈ spec.family.vocabulary layer.kind ∨ name ∈ spec.role.structuralNames) :
    (Params.defaults spec.role layer).contains name = true := by
  rcases known with known | structural
  · rcases List.mem_append.mp known with scalar | typed
    · exact Params.contains_defaults_of_attribute spec.role (complete.attributes name scalar)
    · obtain ⟨type, listed, dotted⟩ := List.mem_flatMap.mp typed
      exact Params.contains_defaults_of_type spec.role (complete.types type listed)
        (by simpa using dotted)
  · exact Params.contains_defaults_of_structural complete.input complete.output structural

theorem mem_provided_iff {spec : TemplateSpec} {kind : LayerKind} {name : String} :
    name ∈ spec.provided kind ↔ (name ∈ spec.family.vocabulary kind ∨
      name ∈ spec.role.structuralNames) ∨ ∃ d ∈ spec.derivations, name ∈ d.provides := by
  simp [provided, or_assoc]

namespace Builds

variable {spec : TemplateSpec} {template : LayerTemplate} {layer : Layer}

theorem format_of_refuses (builds : spec.Builds template) {reason : CodegenError}
    (refuses : spec.Refuses layer reason) : template.format layer = .error reason := by
  obtain ⟨body, _, formatted⟩ := builds.format_of_mem refuses.1
  rw [formatted, builds.derive_eq_error_iff.mpr refuses.2]
  rfl

/-- Why formatting a layer fails. -/
theorem format_eq_error_cases (builds : spec.Builds template) {reason : CodegenError}
    (failed : template.format layer = .error reason) :
    (layer.kind ∉ spec.family.kinds ∧ reason = .unknownKind layer.kind spec.name) ∨
      spec.Refuses layer reason ∨
      ∃ params placeholder, Derivation.Run spec.context layer spec.derivations
          (Params.defaults spec.role layer) params ∧
        params.contains placeholder = false ∧ placeholder ∈ spec.provided layer.kind ∧
        reason = .missingParameter placeholder layer.kind spec.name := by
  by_cases covered : layer.kind ∈ spec.family.kinds
  · obtain ⟨body, provided, formatted⟩ := builds.format_of_mem covered
    rw [formatted] at failed
    rcases Outcome.bind_eq_error_iff.mp failed with derivation | ⟨params, run, rendering⟩
    · exact .inr (.inl ⟨covered, builds.derive_eq_error_iff.mp derivation⟩)
    · obtain ⟨placeholder, missing, rfl⟩ := Outcome.mapError_eq_error_iff.mp rendering
      obtain ⟨inBody, absent⟩ := TemplateBody.missing_of_render missing
      exact .inr (.inr ⟨params, placeholder, builds.derive_eq_ok_iff.mp run, absent,
        provided placeholder inBody, rfl⟩)
  · rw [builds.format_of_not_mem covered] at failed
    exact .inl ⟨covered, (Except.error.inj failed).symm⟩

end Builds

/-- What the checks of `build` promise for every layer. Apart from errors with
    which a derivation refuses the layer, the kind is unknown exactly outside the
    family, a body is never missing, and a missing parameter is one that the role,
    the vocabulary or a derivation was to provide. Where the layer is complete and
    the derivations keep what they provide, only a derivation can fail. -/
theorem format_of_build {spec : TemplateSpec} {template : LayerTemplate}
    (built : spec.build = .ok template) (layer : Layer) :
    (∀ kind name, template.format layer = .error (.unknownKind kind name) ↔
      (layer.kind ∉ spec.family.kinds ∧ kind = layer.kind ∧ name = spec.name) ∨
        spec.Refuses layer (.unknownKind kind name)) ∧
    (∀ kind name, template.format layer = .error (.missingTemplateBody kind name) →
      spec.Refuses layer (.missingTemplateBody kind name)) ∧
    (∀ placeholder kind name,
      template.format layer = .error (.missingParameter placeholder kind name) →
        placeholder ∈ spec.role.structuralNames ∨
        placeholder ∈ spec.family.vocabulary layer.kind ∨
        (∃ d ∈ spec.derivations, placeholder ∈ d.provides) ∨
        spec.Refuses layer (.missingParameter placeholder kind name)) ∧
    (layer.kind ∈ spec.family.kinds → spec.family.IsComplete layer →
      (∀ d ∈ spec.derivations, d.Keeps spec.context layer) →
        (∀ reason, spec.Refuses layer reason → template.format layer = .error reason) ∧
        ((∀ reason, ¬ spec.Refuses layer reason) →
          ∃ text, template.format layer = .ok text)) := by
  have builds := builds_of_build built
  refine ⟨fun kind name => ⟨?_, ?_⟩, ?_, ?_, ?_⟩
  · intro failed
    rcases builds.format_eq_error_cases failed with
      ⟨outside, same⟩ | refuses | ⟨_, _, _, _, _, same⟩
    · obtain ⟨rfl, rfl⟩ := CodegenError.unknownKind.inj same
      exact .inl ⟨outside, rfl, rfl⟩
    · exact .inr refuses
    · simp at same
  · rintro (⟨outside, rfl, rfl⟩ | refuses)
    · exact builds.format_of_not_mem outside
    · exact builds.format_of_refuses refuses
  · intro kind name failed
    rcases builds.format_eq_error_cases failed with ⟨_, same⟩ | refuses | ⟨_, _, _, _, _, same⟩
    · simp at same
    · exact refuses
    · simp at same
  · intro placeholder kind name failed
    rcases builds.format_eq_error_cases failed with
      ⟨_, same⟩ | refuses | ⟨_, _, _, _, provided, same⟩
    · simp at same
    · exact .inr (.inr (.inr refuses))
    · obtain ⟨rfl, -, -⟩ := CodegenError.missingParameter.inj same
      rcases mem_provided_iff.mp provided with (known | structural) | derived
      · exact .inr (.inl known)
      · exact .inl structural
      · exact .inr (.inr (.inl derived))
  · intro covered complete keeps
    refine ⟨fun reason => builds.format_of_refuses, fun accepted => ?_⟩
    cases result : template.format layer with
    | ok text => exact ⟨text, rfl⟩
    | error reason =>
        rcases builds.format_eq_error_cases result with
          ⟨outside, _⟩ | refuses | ⟨params, placeholder, run, absent, provided, _⟩
        · exact absurd covered outside
        · exact absurd refuses (accepted reason)
        · have there : params.contains placeholder = true :=
            run.contains keeps ((mem_provided_iff.mp provided).imp_left
              (contains_defaults_of_isComplete complete))
          exact absurd (there.symm.trans absent) (by decide)

/-- A softmax layer with all that its family asks for. -/
def completeSoftmax : Layer where
  name := "softmax4"
  kind := .softmax
  index := 4
  input := some { name := "layer3_out", elementType := "result3_t" }
  output := some { name := "layer4_out", elementType := "result4_t" }
  attributes := .ofList [("n_in", .int 10), ("activation", .text "Softmax"),
    ("table_size", .int 1024), ("implementation", .text "Stable")]
  types := .ofList [("exp_table_t", { name := "exp4_t" }), ("inv_table_t", { name := "inv4_t" }),
    ("accum_t", { name := "accum4_t" })]

theorem isComplete_completeSoftmax : Activation.family.IsComplete completeSoftmax where
  attributes := by decide
  types := by decide
  input := rfl
  output := rfl

theorem keeps_activationName (context : DeriveContext) {layer : Layer}
    (softmax : layer.kind = .softmax) : Activation.activationName.Keeps context layer := by
  refine Derivation.keeps_writing fun pairs bound name listed => ?_
  rw [if_pos softmax, Except.ok.injEq] at bound
  subst bound
  simpa [eq_comm (a := name)] using listed

theorem format_completeSoftmax :
    ∃ template, (Activation.callSpec "oneAPI").build = .ok template ∧
      ∃ text, template.format completeSoftmax = .ok text := by
  have built : (Activation.callSpec "oneAPI").build.toOption.isSome = true := by decide +kernel
  cases result : (Activation.callSpec "oneAPI").build with
  | error reason => simp [result, Except.toOption] at built
  | ok template =>
      have only : (Activation.callSpec "oneAPI").derivations = [Activation.activationName] := rfl
      have keeps : ∀ d ∈ (Activation.callSpec "oneAPI").derivations,
          d.Keeps (Activation.callSpec "oneAPI").context completeSoftmax := by
        simpa [only] using keeps_activationName _ rfl
      refine ⟨template, rfl, ((format_of_build result completeSoftmax).2.2.2 (by decide)
        isComplete_completeSoftmax keeps).2 ?_⟩
      rintro reason ⟨_, before, d, after, reached, shape, _, failed⟩
      have same : d = Activation.activationName := by
        have member : d ∈ before ++ d :: after := by simp
        simpa [← shape, only] using member
      subst same
      rw [Activation.activationName, Derivation.writing_apply_eq_error_iff] at failed
      simp at failed

end TemplateSpec

end HlsEmit

import HlsEmit.Proofs.Backend.Values
import HlsEmit.Proofs.Family.Structs

/-! # Windows of pooling layers

The struct of a pooling layer shows its window twice, as the window and as a filter,
and the number of filters again as that of channels. Each copy is the attribute of
the window, whatever the layer carries under the name of the copy. In the dialect
for either order of channels the struct also shows how the window is implemented,
which only a text under another name can change.
-/

namespace HlsEmit

namespace Pooling

/-- The attributes that the struct of a kind shows twice, with their second names. -/
def shownSlots : LayerKind → List (String × String)
  | .pooling1D => [("pool_width", "filt_width"), ("n_filt", "n_chan")]
  | .pooling2D => slots
  | _ => []

theorem mem_slots_of_shown {kind : LayerKind} {slot : String × String}
    (shown : slot ∈ shownSlots kind) : slot ∈ slots := by
  revert slot
  cases kind <;> decide

/-- How the layer says that its window is implemented. -/
def implementationName (layer : Layer) : String :=
  match layer.attribute? "conv_implementation" with
  | some (.text name) => name
  | _ => "LineBuffer"

theorem sets_implementation (context : DeriveContext) (layer : Layer) :
    implementation.Sets context layer "implementation" (implementationName layer) := by
  have named : (layer.text? "conv_implementation").getD "LineBuffer" =
      implementationName layer := by
    rw [Layer.text?, implementationName]
    cases layer.attribute? "conv_implementation" with
    | none => rfl
    | some value => cases value <;> rfl
  apply Derivation.sets_writing
  intro pairs given
  obtain rfl := Except.ok.inj given
  rw [named]
  rfl

def configSheet (backend : String) (dialect : Dialect) : Sheet :=
  ⟨configSpec backend dialect, fun kind => (config dialect kind).segments⟩

theorem configSheet_mem (backend : String) (dialect : Dialect) :
    configSheet backend dialect ∈ dialect.sheets backend := by
  simp [Dialect.sheets, sheets, configSheet]

theorem role_configSheet (backend : String) (dialect : Dialect) :
    (configSheet backend dialect).spec.role = .config ∧
      (configSheet backend dialect).spec.family = family := by
  cases dialect <;> exact ⟨rfl, rfl⟩

theorem derivations_configSheet (backend : String) (dialect : Dialect) :
    (configSheet backend dialect).spec.derivations =
      if dialect = .vivado then [filterSlots, implementation] else [filterSlots] := by
  cases dialect <;> rfl

theorem eq_of_mem_derivations {backend : String} {dialect : Dialect} {d : Derivation}
    (inside : d ∈ (configSheet backend dialect).spec.derivations) :
    d = filterSlots ∨ d = implementation := by
  rw [derivations_configSheet] at inside
  split at inside
  · simpa using inside
  · exact .inl (List.mem_singleton.mp inside)

/-- No struct of the family has two lines for one name. -/
theorem nodup_names_config (dialect : Dialect) :
    ∀ kind ∈ family.kinds, ((config dialect kind).lines.filterMap ConfigLine.name?).Nodup := by
  cases dialect <;> decide

theorem slots_mem_config (dialect : Dialect) {kind : LayerKind} :
    ∀ slot ∈ shownSlots kind, ∀ name ∈ [slot.1, slot.2],
      ConfigLine.unsigned name name ∈ (config dialect kind).lines := by
  cases dialect <;> cases kind <;> decide

theorem implementation_mem_config :
    ∀ kind ∈ [LayerKind.pooling1D, .pooling2D],
      implementationLine ∈ (config .vivado kind).lines := by
  decide

section

variable {backend : String} {dialect : Dialect} {layer : Layer} {params : Params}
  (given : (configSheet backend dialect).Gives layer params)
include given

theorem find?_window {slot : String × String} (listed : slot ∈ slots) :
    params.find? slot.1 = (layer.attribute? slot.1).map Attribute.render := by
  have aside : ∀ slot ∈ slots, slot.1 ∉ filterSlots.provides ∧ slot.1 ∉ implementation.provides ∧
      slot.1 ∉ Role.config.structuralNames ∧ '.' ∉ slot.1.toList := by
    decide
  obtain ⟨uncopied, other, unstructured, dotless⟩ := aside slot listed
  rw [← (role_configSheet backend dialect).1] at unstructured
  have made := dialect.isOf_sheets backend _ (configSheet_mem backend dialect)
  have unwritten : ∀ d ∈ (configSheet backend dialect).spec.derivations, slot.1 ∉ d.provides := by
    intro d inside
    rcases eq_of_mem_derivations inside with rfl | rfl
    · exact uncopied
    · exact other
  exact given.find?_attribute (made.spares layer unwritten) unstructured dotless

theorem find?_copy {slot : String × String} (listed : slot ∈ slots) {value : Attribute}
    (held : layer.attribute? slot.1 = some value) : params.find? slot.2 = some value.render := by
  have others : ∀ slot ∈ slots, slot.2 ∉ implementation.provides := by decide
  have sets : filterSlots.Sets (configSheet backend dialect).spec.context layer slot.2
      value.render := sets_filterSlots listed held
  apply Derivation.Run.find?_of_sets given
  · intro d inside
    rcases eq_of_mem_derivations inside with rfl | rfl
    · exact .inl sets
    · exact .inr (isWriting_implementation.frames _ _ _ (others slot listed))
  · refine .inr ⟨filterSlots, ?_, sets⟩
    rw [derivations_configSheet]
    split <;> exact List.mem_cons_self

theorem find?_implementation (vivado : dialect = .vivado) :
    params.find? "implementation" = some (implementationName layer) := by
  have sets := sets_implementation (configSheet backend dialect).spec.context layer
  apply Derivation.Run.find?_of_sets given
  · intro d inside
    rcases eq_of_mem_derivations inside with rfl | rfl
    · exact .inr (isWriting_filterSlots.frames _ _ _ (by decide))
    · exact .inl sets
  · refine .inr ⟨implementation, ?_, sets⟩
    rw [derivations_configSheet, if_pos vivado]
    exact List.mem_cons_of_mem _ List.mem_cons_self

end

end Pooling

namespace Backend

variable {name : String} {dialect : Dialect} {layer : Layer} {text : String}

theorem exists_gives_of_format_poolConfig (pooling : layer.kind ∈ Pooling.family.kinds)
    (formatted : (ofDialect name dialect).format .config layer = .ok text) :
    ∃ params, (Pooling.configSheet name dialect).Gives layer params ∧
      TemplateBody.render ⟨(Pooling.config dialect layer.kind).segments⟩ params = .ok text := by
  obtain ⟨role, family⟩ := Pooling.role_configSheet name dialect
  have covered : layer.kind ∈ (Pooling.configSheet name dialect).spec.family.kinds := by
    rwa [family]
  have whole := format_of_sheet (Pooling.configSheet_mem name dialect) covered
  rw [role, formatted] at whole
  exact (Sheet.format_eq_ok_iff covered).mp whole.symm

/-- In the configuration of a pooling layer on a built-in backend the filter is the window
    and the channels are the filters, each the attribute of the layer. The
    implementation is the text that the layer has for it, or else a line buffer. -/
theorem format_poolWindow (builtin : Builtin) :
    ∃ backend, builtin.backend = .ok backend ∧ ∀ layer text,
      layer.kind = .pooling1D ∨ layer.kind = .pooling2D →
      backend.format .config layer = .ok text → ∃ values,
        (∀ slot ∈ Pooling.shownSlots layer.kind, ∃ value, layer.attribute? slot.1 = some value ∧
          ∀ name ∈ [slot.1, slot.2], (Pooling.config builtin.dialect layer.kind).Declares values
            text "unsigned" name value.render) ∧
        (builtin.dialect = .vivado → (Pooling.config builtin.dialect layer.kind).Declares values
          text "nnet::conv_implementation" "implementation"
          ("nnet::conv_implementation::" ++ Pooling.implementationName layer)) := by
  refine ⟨_, builtin.backend_eq_ok, ?_⟩
  intro layer text windowed formatted
  have covered : layer.kind ∈ Pooling.family.kinds := by
    rcases windowed with kind | kind <;> rw [kind] <;> decide
  obtain ⟨params, given, rendered⟩ := exists_gives_of_format_poolConfig covered formatted
  obtain ⟨values, declares⟩ := ConfigStruct.exists_declares_of_render
    (Pooling.nodup_names_config builtin.dialect layer.kind covered) rendered
  refine ⟨values, ?_, ?_⟩
  · intro slot shown
    have listed := Pooling.mem_slots_of_shown shown
    have lines := Pooling.slots_mem_config builtin.dialect slot shown
    obtain ⟨found, window⟩ := declares _ _ _ _ (lines slot.1 (by simp))
    rw [Pooling.find?_window given listed] at found
    obtain ⟨value, held, same⟩ := Option.map_eq_some_iff.mp found
    obtain ⟨copied, filter⟩ := declares _ _ _ _ (lines slot.2 (by simp))
    rw [Pooling.find?_copy given listed held] at copied
    refine ⟨value, held, ?_⟩
    intro name either
    rcases List.mem_pair.mp either with rfl | rfl
    · rwa [same]
    · rwa [Option.some.inj copied]
  · intro vivado
    have listed : layer.kind ∈ [LayerKind.pooling1D, .pooling2D] := by simpa using windowed
    have line := Pooling.implementation_mem_config layer.kind listed
    rw [← vivado] at line
    obtain ⟨found, shown⟩ := declares _ _ _ _ line
    rw [Pooling.find?_implementation given vivado] at found
    rwa [Option.some.inj found]

/-- A layer with attributes under the names of the copies. -/
def copiedPooling : Layer where
  name := "pool4"
  kind := .pooling1D
  index := 4
  attributes := .ofList [("n_in", .int 8), ("n_out", .int 4), ("n_filt", .int 16),
    ("stride_width", .int 2), ("pool_width", .int 2), ("pad_left", .int 0), ("pad_right", .int 0),
    ("count_pad", .bool false), ("pool_op", .text "Max"), ("filt_width", .int 9),
    ("n_chan", .text "n_in"), ("implementation", .text "Encoded"), ("conv_implementation", .int 1)]
  types := .ofList [("accum_t", { name := "accum4_t" })]

theorem format_copiedPooling : ∃ backend, Builtin.vivado.backend = .ok backend ∧
    ∃ text values, backend.format .config copiedPooling = .ok text ∧
      (Pooling.vivadoConfig .pooling1D).Declares values text "unsigned" "filt_width" "2" ∧
      (Pooling.vivadoConfig .pooling1D).Declares values text "unsigned" "n_chan" "16" ∧
      (Pooling.vivadoConfig .pooling1D).Declares values text "nnet::conv_implementation"
        "implementation" "nnet::conv_implementation::LineBuffer" := by
  obtain ⟨backend, built, shows⟩ := format_poolWindow .vivado
  have formats : (backend.format .config copiedPooling).toOption.isSome = true := by
    obtain rfl := Except.ok.inj (Builtin.vivado.backend_eq_ok.symm.trans built)
    decide +kernel
  cases formatted : backend.format .config copiedPooling with
  | error reason =>
      rw [formatted] at formats
      cases formats
  | ok text =>
      obtain ⟨values, copies, chosen⟩ := shows copiedPooling text (.inl rfl) formatted
      obtain ⟨width, widthHeld, widthShown⟩ := copies ("pool_width", "filt_width") (by decide)
      obtain ⟨filters, filtersHeld, filtersShown⟩ := copies ("n_filt", "n_chan") (by decide)
      obtain rfl : Attribute.int 2 = width := Option.some.inj widthHeld
      obtain rfl : Attribute.int 16 = filters := Option.some.inj filtersHeld
      exact ⟨backend, built, text, values, formatted, widthShown "filt_width" (by decide),
        filtersShown "n_chan" (by decide), chosen rfl⟩

end Backend

end HlsEmit

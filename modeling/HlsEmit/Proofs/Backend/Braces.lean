import HlsEmit.Proofs.Backend.Values
import HlsEmit.Proofs.Family.DenseSizes
import HlsEmit.Proofs.Family.Structs
import HlsEmit.Proofs.Text.Characters
import Mathlib.Data.List.Basic

/-! # Braces of generated code

What a layer without braces in its texts contributes to its parameters has no braces
either, and no derivation brings one along. Of the built-in bodies only those of
structs have braces, one that opens the struct and one that closes it. So these are
the only braces of generated code, and none of its parts reads as a placeholder.
-/

namespace HlsEmit

/-- No brace occurs in what the layer may contribute to generated code. -/
structure Layer.IsUnbraced (layer : Layer) : Prop where
  name : Unbraced layer.name
  attributes : ∀ name text, layer.attribute? name = some (.text text) → Unbraced text
  types : ∀ name type, layer.types.find? name = some type → Unbraced type.name
  weights : ∀ name weight, layer.weights.find? name = some weight → Unbraced weight.name
  tensors : ∀ v, layer.input = some v ∨ layer.output = some v →
    Unbraced v.name ∧ Unbraced v.elementType ∧ ∀ pipe, v.pipe = some pipe → Unbraced pipe

/-- The parameters have no braces, the definitions of types left aside. -/
def Params.IsUnbraced (params : Params) : Prop :=
  ∀ name value, params.find? name = some value → (∀ type, name ≠ type ++ ".precision") →
    Unbraced value

namespace Layer.IsUnbraced

variable {layer : Layer} (clean : layer.IsUnbraced)
include clean

theorem render {name : String} {value : Attribute} (held : layer.attribute? name = some value) :
    Unbraced value.render := by
  apply Attribute.unbraced_render
  rintro text rfl
  exact clean.attributes name text held

theorem lowered (name : String) {default : String} (other : Unbraced default) :
    Unbraced (layer.lowered name default) := by
  rw [Layer.lowered]
  cases held : layer.attribute? name with
  | none => exact other
  | some value => exact Text.unbraced_lowerCase (clean.render held)

theorem pipeName {v : Variable} (carried : layer.input = some v ∨ layer.output = some v) :
    Unbraced v.pipeName := by
  obtain ⟨name, -, pipes⟩ := clean.tensors v carried
  rw [Variable.pipeName]
  cases held : v.pipe with
  | none => exact unbraced_append.mpr ⟨name, by decide⟩
  | some pipe => exact pipes pipe held

theorem reuseFactor : Unbraced (Params.reuseFactor layer) := by
  rw [Params.reuseFactor]
  cases held : layer.attribute? "reuse_factor" with
  | none =>
      change Unbraced "1"
      decide
  | some value => exact clean.render held

theorem copied (source slot : String) :
    ∀ pair ∈ Pooling.copied layer source slot, Unbraced pair.2 := by
  rw [Pooling.copied]
  cases held : layer.attribute? source with
  | none => exact List.forall_mem_nil _
  | some value => exact List.forall_mem_singleton.mpr (clean.render held)

theorem weightName (weight slot : String) :
    ∀ pair ∈ Dense.weightName layer weight slot, Unbraced pair.2 := by
  rw [Dense.weightName]
  cases held : layer.weights.find? weight with
  | none => exact List.forall_mem_nil _
  | some v => exact List.forall_mem_singleton.mpr (clean.weights weight v held)

theorem implementation : Unbraced ((layer.text? "conv_implementation").getD "LineBuffer") := by
  cases held : layer.text? "conv_implementation" with
  | none =>
      change Unbraced "LineBuffer"
      decide
  | some name => exact clean.attributes _ name (Layer.text?_eq_some_iff.mp held)

end Layer.IsUnbraced

namespace Params

variable {layer : Layer} {params : Params}

theorem unbraced_of_mem_variableBindings {v? : Option Variable} {typeName valueName : String}
    {value : Variable → String} (clean : ∀ v, v? = some v → Unbraced v.elementType ∧
      Unbraced (value v)) :
    ∀ pair ∈ variableBindings v? typeName valueName value, Unbraced pair.2 := by
  cases v? with
  | none => simp [variableBindings]
  | some v =>
      obtain ⟨type, text⟩ := clean v rfl
      simp [variableBindings, type, text]

theorem unbraced_of_mem_structuralBindings (clean : layer.IsUnbraced) (role : Role) :
    ∀ pair ∈ structuralBindings layer role, Unbraced pair.2 := by
  have index : Unbraced layer.indexText := unbraced_toString_nat _
  have config : Unbraced layer.configName := unbraced_append.mpr ⟨by decide, index⟩
  have style : Unbraced layer.ioStyle.name := by cases layer.ioStyle <;> decide
  have common : ∀ pair ∈ [("index", layer.indexText), ("name", layer.name),
      ("iotype", layer.ioStyle.name), ("reuse", reuseFactor layer),
      ("config", layer.configName)], Unbraced pair.2 := by
    simp [index, clean.name, style, clean.reuseFactor, config]
  have named : ∀ v, layer.input = some v ∨ layer.output = some v →
      Unbraced v.elementType ∧ Unbraced v.name := fun v carried =>
    ⟨(clean.tensors v carried).2.1, (clean.tensors v carried).1⟩
  have piped : ∀ v, layer.input = some v ∨ layer.output = some v →
      Unbraced v.elementType ∧ Unbraced v.pipeName := fun v carried =>
    ⟨(clean.tensors v carried).2.1, clean.pipeName carried⟩
  cases role with
  | config => simp [structuralBindings, index, clean.name, style, clean.reuseFactor]
  | streamCall => simp [structuralBindings, index, clean.name, config]
  | call =>
      rw [structuralBindings]
      refine List.forall_mem_append.mpr ⟨List.forall_mem_append.mpr ⟨common, ?_⟩, ?_⟩
      · exact unbraced_of_mem_variableBindings fun v held => named v (.inl held)
      · exact unbraced_of_mem_variableBindings fun v held => named v (.inr held)
  | taskSequence =>
      rw [structuralBindings]
      refine List.forall_mem_append.mpr ⟨List.forall_mem_append.mpr ⟨common, ?_⟩, ?_⟩
      · exact unbraced_of_mem_variableBindings fun v held => piped v (.inl held)
      · exact unbraced_of_mem_variableBindings fun v held => piped v (.inr held)

theorem isUnbraced_defaults (clean : layer.IsUnbraced) (role : Role) :
    (defaults role layer).IsUnbraced := by
  intro name value found undefined
  rw [find?_defaults] at found
  rcases Option.or_eq_some_iff.mp found with structural | ⟨-, found⟩
  · exact unbraced_of_mem_structuralBindings clean role _ (Table.mem_of_bound? structural)
  · rcases Option.or_eq_some_iff.mp found with typed | ⟨-, found⟩
    · obtain ⟨entry, listed, either⟩ := List.mem_flatMap.mp (Table.mem_of_bound? typed)
      rcases List.mem_pair.mp either with same | same
      · obtain ⟨-, rfl⟩ := Prod.mk.inj same
        exact clean.types entry.1 entry.2 (Table.find?_eq_some_iff.mpr listed)
      · exact absurd (Prod.mk.inj same).1 (undefined entry.1)
    · obtain ⟨given, held, rfl⟩ := Option.map_eq_some_iff.mp found
      exact clean.render held

theorem IsUnbraced.insertAll (before : params.IsUnbraced) {pairs : List (String × String)}
    (clean : ∀ pair ∈ pairs, Unbraced pair.2) : IsUnbraced (params.insertAll pairs) := by
  intro name value found undefined
  rw [Table.find?_insertAll_eq] at found
  rcases Option.or_eq_some_iff.mp found with written | ⟨-, kept⟩
  · exact clean _ (Table.mem_of_bound? written)
  · exact before name value kept undefined

end Params

namespace Derivation

variable {context : DeriveContext} {layer : Layer} {before after : Params}

theorem isUnbraced_of_writing {provides : List String}
    {bindings : DeriveContext → Layer → Except CodegenError (List (String × String))}
    (clean : before.IsUnbraced) (applied : (writing provides bindings).apply context layer before =
      .ok after)
    (values : ∀ pairs, bindings context layer = .ok pairs → ∀ pair ∈ pairs, Unbraced pair.2) :
    after.IsUnbraced := by
  obtain ⟨pairs, given, rfl⟩ := writing_apply_eq_ok_iff.mp applied
  exact clean.insertAll (values pairs given)

end Derivation

theorem Layout.isUnbraced {dialect : Dialect} {context : DeriveContext} {layer : Layer}
    {before after : Params} (unbraced : before.IsUnbraced)
    (applied : (derivation dialect).apply context layer before = .ok after) :
    after.IsUnbraced := by
  have orders : Unbraced "cf" ∧ Unbraced "cl" := by decide
  cases dialect with
  | vivado =>
      apply Derivation.isUnbraced_of_writing unbraced applied
      intro pairs given
      obtain rfl := Except.ok.inj given
      have order : Unbraced (if layer.channelsFirst then "cf" else "cl") := by
        split
        · exact orders.1
        · exact orders.2
      exact List.forall_mem_singleton.mpr order
  | quartus | oneApi =>
      apply Derivation.isUnbraced_of_writing unbraced applied
      intro pairs given
      split at given
      · cases given
      · obtain rfl := Except.ok.inj given
        exact List.forall_mem_singleton.mpr orders.2

theorem Dialect.Derives.isUnbraced {dialect : Dialect} {family : LayerFamily} {role : Role}
    {d : Derivation} {context : DeriveContext} {layer : Layer} {before after : Params}
    (derives : dialect.Derives family role d) (clean : layer.IsUnbraced)
    (unbraced : before.IsUnbraced) (applied : d.apply context layer before = .ok after) :
    after.IsUnbraced := by
  cases derives with
  | filterSlots =>
      apply Derivation.isUnbraced_of_writing unbraced applied
      intro pairs given
      obtain rfl := Except.ok.inj given
      simp only [List.forall_mem_append]
      exact ⟨⟨clean.copied _ _, clean.copied _ _⟩, clean.copied _ _⟩
  | implementation =>
      apply Derivation.isUnbraced_of_writing unbraced applied
      intro pairs given
      obtain rfl := Except.ok.inj given
      exact List.forall_mem_singleton.mpr clean.implementation
  | layout => exact Layout.isUnbraced unbraced applied
  | sparsity =>
      obtain ⟨pairs, tallies, rfl⟩ := Dense.sparsity_apply_eq_ok_iff.mp applied
      apply unbraced.insertAll
      cases tallies with
      | whole _ _ =>
          simp only [List.forall_mem_cons]
          exact ⟨unbraced_toString_int _, unbraced_toString_int _, List.forall_mem_nil _⟩
      | sizeless _ _ _ _ => exact List.forall_mem_singleton.mpr (unbraced_toString_int _)
  | strategy =>
      obtain ⟨reusePad, blockPad, -, -, rfl⟩ := Dense.strategy_apply_eq_ok_iff.mp applied
      apply unbraced.insertAll
      simp only [Dense.strategyBindings, List.forall_mem_cons]
      exact ⟨clean.lowered _ (by decide), clean.lowered _ (by decide), unbraced_toString_int _,
        unbraced_toString_int _, List.forall_mem_nil _⟩
  | weightNames =>
      apply Derivation.isUnbraced_of_writing unbraced applied
      intro pairs given
      obtain rfl := Except.ok.inj given
      exact List.forall_mem_append.mpr ⟨clean.weightName _ _, clean.weightName _ _⟩
  | activationName =>
      apply Derivation.isUnbraced_of_writing unbraced applied
      intro pairs given
      obtain rfl := Except.ok.inj given
      split
      · simp only [List.forall_mem_cons]
        exact ⟨clean.lowered _ (by decide), clean.lowered _ (by decide),
          List.forall_mem_nil _⟩
      · exact List.forall_mem_singleton.mpr (clean.lowered _ (by decide))

/-- What a run of built-in derivations starts without it does not end with. -/
theorem Derivation.Run.isUnbraced {dialect : Dialect} {family : LayerFamily} {role : Role}
    {context : DeriveContext} {layer : Layer} {derivations : List Derivation}
    {before after : Params} (run : Run context layer derivations before after)
    (clean : layer.IsUnbraced) (derives : ∀ d ∈ derivations, dialect.Derives family role d)
    (unbraced : before.IsUnbraced) : after.IsUnbraced := by
  induction run with
  | nil => exact unbraced
  | cons step _ ih =>
      obtain ⟨first, others⟩ := List.forall_mem_cons.mp derives
      exact ih others (first.isUnbraced clean unbraced step)

theorem Sheet.Gives.isUnbraced {sheet : Sheet} {dialect : Dialect} {layer : Layer} {params : Params}
    (given : sheet.Gives layer params) (made : sheet.IsOf dialect) (clean : layer.IsUnbraced) :
    params.IsUnbraced :=
  Derivation.Run.isUnbraced given clean made.derives (Params.isUnbraced_defaults clean _)

/-- Copied text has no braces. -/
def Segment.IsPlain : Segment → Prop
  | .literal text => Unbraced text
  | .placeholder _ => True

instance (segment : Segment) : Decidable segment.IsPlain :=
  match segment with
  | .literal text => inferInstanceAs (Decidable (Unbraced text))
  | .placeholder _ => inferInstanceAs (Decidable True)

theorem Segment.unbraced_join {segments : List Segment} {values : String → String}
    (plain : ∀ segment ∈ segments, segment.IsPlain)
    (filled : ∀ name, .placeholder name ∈ segments → Unbraced (values name)) :
    Unbraced (String.join (segments.map (Segment.textWith values))) := by
  apply HlsEmit.unbraced_join.mpr
  intro text inside
  obtain ⟨segment, listed, rfl⟩ := List.mem_map.mp inside
  cases segment with
  | literal text => exact plain _ listed
  | placeholder name => exact filled name listed

/-- The fixed texts of the line have no braces. -/
def ConfigLine.IsPlain : ConfigLine → Prop
  | .blank | .product _ => True
  | .constant type name scope _ => Unbraced type ∧ Unbraced name ∧ Unbraced scope
  | .fixed type name value => Unbraced type ∧ Unbraced name ∧ Unbraced value
  | .typeName type => Unbraced type

instance (line : ConfigLine) : Decidable line.IsPlain :=
  match line with
  | .blank | .product _ => inferInstanceAs (Decidable True)
  | .constant type name scope _ =>
      inferInstanceAs (Decidable (Unbraced type ∧ Unbraced name ∧ Unbraced scope))
  | .fixed type name value =>
      inferInstanceAs (Decidable (Unbraced type ∧ Unbraced name ∧ Unbraced value))
  | .typeName type => inferInstanceAs (Decidable (Unbraced type))

theorem ConfigLine.isPlain_segments {storage : String} {line : ConfigLine}
    (constants : Unbraced storage) (plain : line.IsPlain) :
    ∀ segment ∈ segments storage line, segment.IsPlain := by
  have spaces : Unbraced "    " ∧ Unbraced " " ∧ Unbraced " = " ∧ Unbraced ";\n" := by decide
  cases line with
  | blank => exact List.forall_mem_singleton.mpr (show Unbraced "\n" by decide)
  | constant type name scope source =>
      obtain ⟨typePlain, namePlain, scopePlain⟩ := plain
      have start :
          Unbraced ("    " ++ storage ++ " " ++ type ++ " " ++ name ++ " = " ++ scope) := by
        simp only [unbraced_append, spaces, constants, typePlain, namePlain, scopePlain, and_self]
      simp only [segments, List.forall_mem_cons]
      exact ⟨start, trivial, spaces.2.2.2, List.forall_mem_nil _⟩
  | fixed type name value =>
      obtain ⟨typePlain, namePlain, valuePlain⟩ := plain
      have whole : Unbraced ("    " ++ storage ++ " " ++ type ++ " " ++ name ++ " = " ++ value ++
          ";\n") := by
        simp only [unbraced_append, spaces, constants, typePlain, namePlain, valuePlain, and_self]
      exact List.forall_mem_singleton.mpr whole
  | typeName type =>
      have last : Unbraced (" " ++ type ++ ";\n") := by
        simp only [unbraced_append, spaces, show Unbraced type from plain, and_self]
      simp only [segments, List.forall_mem_cons]
      exact ⟨show Unbraced "    typedef " by decide, trivial, last, List.forall_mem_nil _⟩
  | product source =>
      simp only [segments, List.forall_mem_cons]
      have start : Unbraced
          "    template<class x_T, class y_T>\n    using product = nnet::product::" := by decide
      have last : Unbraced "<x_T, y_T>;\n" := by decide
      exact ⟨start, trivial, last, List.forall_mem_nil _⟩

/-- The struct has no braces besides those around its lines. -/
structure ConfigStruct.IsPlain (struct : ConfigStruct) : Prop where
  base : Unbraced struct.base
  storage : Unbraced struct.storage
  lines : ∀ line ∈ struct.lines, line.IsPlain

instance (struct : ConfigStruct) : Decidable struct.IsPlain :=
  decidable_of_iff (Unbraced struct.base ∧ Unbraced struct.storage ∧
      ∀ line ∈ struct.lines, line.IsPlain)
    ⟨fun ⟨base, storage, lines⟩ => ⟨base, storage, lines⟩,
      fun plain => ⟨plain.base, plain.storage, plain.lines⟩⟩

/-- The body of a role has no braces besides those of a struct. -/
def Role.IsPlain : Role → List Segment → Prop
  | .config, segments => ∃ struct : ConfigStruct, struct.IsPlain ∧ segments = struct.segments
  | _, segments => ∀ segment ∈ segments, segment.IsPlain

/-- The text of a struct has one pair of braces, with several lines in it, and every other
    text has none. -/
def Role.Embraces : Role → String → Prop
  | .config, text => ∃ front inside back, text = front ++ "\x7b" ++ inside ++ "\x7d" ++ back ∧
      Unbraced front ∧ Unbraced inside ∧ Unbraced back ∧ '\n' ∈ inside.toList
  | _, text => Unbraced text

/-- The bodies of the sheet have no other braces. -/
def Sheet.IsPlain (sheet : Sheet) : Prop :=
  ∀ kind ∈ sheet.spec.family.kinds, sheet.spec.role.IsPlain (sheet.segments kind)

theorem Pooling.isPlain_sheets (backend : String) (dialect : Dialect) :
    ∀ sheet ∈ sheets backend dialect, sheet.IsPlain := by
  have either : ∀ kind ∈ family.kinds, (vivadoConfig kind).IsPlain := by decide +kernel
  have last : ∀ kind ∈ family.kinds, (intelConfig kind).IsPlain := by decide +kernel
  have structs : ∀ kind ∈ family.kinds, (config dialect kind).IsPlain := by
    cases dialect with
    | vivado => exact either
    | quartus | oneApi => exact last
  have calls : ∀ kind ∈ family.kinds,
      ∀ segment ∈ Invocation.callSegments (operation kind) [], segment.IsPlain := by
    decide +kernel
  have stages : ∀ kind ∈ family.kinds,
      ∀ segment ∈ Invocation.stageSegments (operation kind), segment.IsPlain := by
    decide +kernel
  have starts : ∀ segment ∈ Invocation.startSegments, segment.IsPlain := by decide
  apply Sheet.forall_of_dataflow
  · cases dialect <;> exact fun kind covered => ⟨_, structs kind covered, rfl⟩
  · exact calls
  · exact stages
  · exact fun _ _ => starts

theorem Dense.isPlain_sheets (backend : String) (dialect : Dialect) :
    ∀ sheet ∈ sheets backend dialect, sheet.IsPlain := by
  have either : vivadoConfig.IsPlain := by decide +kernel
  have last : intelConfig.IsPlain := by decide +kernel
  have struct : (config dialect).IsPlain := by
    cases dialect with
    | vivado => exact either
    | quartus | oneApi => exact last
  have calls : ∀ segment ∈ Invocation.callSegments (operation dialect) ["w", "b"],
      segment.IsPlain := by
    cases dialect <;> decide +kernel
  have stages : ∀ segment ∈ Invocation.stageSegments (operation dialect), segment.IsPlain := by
    cases dialect <;> decide +kernel
  have starts : ∀ segment ∈ Invocation.startWithSegments "w" "b", segment.IsPlain := by decide
  apply Sheet.forall_of_dataflow
  · exact fun _ _ => ⟨_, struct, rfl⟩
  · exact fun _ _ => calls
  · exact fun _ _ => stages
  · exact fun _ _ => starts

theorem Activation.isPlain_sheets (backend : String) (dialect : Dialect) :
    ∀ sheet ∈ sheets backend dialect, sheet.IsPlain := by
  have structs : ∀ kind ∈ family.kinds, (config dialect kind).IsPlain := by
    cases dialect <;> decide +kernel
  have calls : ∀ segment ∈ Invocation.callSegments operation [], segment.IsPlain := by
    decide +kernel
  have stages : ∀ segment ∈ Invocation.stageSegments operation, segment.IsPlain := by
    decide +kernel
  have starts : ∀ segment ∈ Invocation.startSegments, segment.IsPlain := by decide
  apply Sheet.forall_of_dataflow
  · exact fun kind covered => ⟨_, structs kind covered, rfl⟩
  · exact fun _ _ => calls
  · exact fun _ _ => stages
  · exact fun _ _ => starts

theorem Dialect.isPlain_sheets (backend : String) (dialect : Dialect) :
    ∀ sheet ∈ dialect.sheets backend, sheet.IsPlain := by
  intro sheet member
  simp only [sheets, List.mem_append] at member
  rcases member with (pooling | dense) | activation
  · exact Pooling.isPlain_sheets backend dialect sheet pooling
  · exact Dense.isPlain_sheets backend dialect sheet dense
  · exact Activation.isPlain_sheets backend dialect sheet activation

theorem ConfigStruct.IsPlain.embraces {struct : ConfigStruct} {values : String → String}
    (plain : struct.IsPlain)
    (filled : ∀ name, .placeholder name ∈ struct.segments → Unbraced (values name)) :
    Role.config.Embraces (String.join (struct.segments.map (Segment.textWith values))) := by
  have index : Unbraced (values "index") := filled "index" (by simp [segments])
  have constants : Unbraced "struct config" ∧ Unbraced " : nnet::" ∧ Unbraced " " ∧
      Unbraced "\n" ∧ Unbraced ";\n" := by decide
  have lines : Unbraced (struct.linesText values struct.lines) := by
    apply Segment.unbraced_join
    · intro segment inside
      obtain ⟨line, listed, part⟩ := List.mem_flatMap.mp inside
      exact ConfigLine.isPlain_segments plain.storage (plain.lines line listed) segment part
    · intro name inside
      refine filled name ?_
      rw [segments]
      exact List.mem_append_left _ (List.mem_append_right _ inside)
  refine ⟨"struct config" ++ values "index" ++ " : nnet::" ++ struct.base ++ " ",
    "\n" ++ struct.linesText values struct.lines, ";\n", ?_, ?_, ?_, constants.2.2.2.2, ?_⟩
  · have opening : " \x7b\n" = " " ++ ("\x7b" ++ "\n") := rfl
    have closing : "\x7d;\n" = "\x7d" ++ ";\n" := rfl
    rw [join_segments_eq, openingText_eq, opening, closing]
    simp only [String.append_assoc]
  · simp only [unbraced_append, constants, index, plain.base, and_self]
  · exact unbraced_append.mpr ⟨constants.2.2.2.1, lines⟩
  · simp [String.toList_append]

theorem Role.IsPlain.embraces {role : Role} {segments : List Segment} {values : String → String}
    (plain : role.IsPlain segments)
    (filled : ∀ name, .placeholder name ∈ segments → Unbraced (values name)) :
    role.Embraces (String.join (segments.map (Segment.textWith values))) := by
  cases role with
  | config =>
      obtain ⟨struct, clean, rfl⟩ := plain
      exact clean.embraces filled
  | call | taskSequence | streamCall => exact Segment.unbraced_join plain filled

theorem Body.newline_notMem_of_isDotted {inside : Bool} {chars : List Char}
    (dotted : isDotted inside chars = true) : '\n' ∉ chars := by
  induction chars generalizing inside with
  | nil => exact List.not_mem_nil
  | cons c rest ih =>
      rw [isDotted] at dotted
      split at dotted
      · rename_i dot
        simp only [Bool.and_eq_true] at dotted
        simp [dot, ih dotted.2]
      · simp only [Bool.and_eq_true] at dotted
        have letter : c ≠ '\n' := by
          rintro rfl
          cases inside <;> exact absurd dotted.1 (by decide)
        simp [letter.symm, ih dotted.2]

/-- Nothing in the text reads as a placeholder. Its braces could only be those of the struct,
    which have a newline between them. -/
theorem Role.Embraces.not_placeholder {role : Role} {text : String} (embraces : role.Embraces text)
    {name : String} (named : Body.isName name = true) :
    ¬ (Segment.placeholder name).written <:+: text.toList := by
  rintro ⟨before, after, shape⟩
  have opens : '\x7b' ∈ text.toList := by
    rw [← shape]
    simp [Segment.written]
  cases role with
  | config =>
      obtain ⟨front, inside, back, rfl, frontClean, insideClean, backClean, newline⟩ := embraces
      have split : front.toList ++ '\x7b' :: (inside.toList ++ '\x7d' :: back.toList) =
          before ++ '\x7b' :: (name.toList ++ '\x7d' :: after) := by
        simpa [Segment.written, String.toList_append] using shape.symm
      have onlyOpening : '\x7b' ∉ inside.toList ++ '\x7d' :: back.toList := by
        simp [insideClean.notMem.1, backClean.notMem.1]
      obtain ⟨-, -, rest⟩ :=
        (List.append_cons_inj_of_notMem frontClean.notMem.1 onlyOpening).mp split
      obtain ⟨same, -, -⟩ :=
        (List.append_cons_inj_of_notMem insideClean.notMem.2 backClean.notMem.2).mp rest
      rw [same] at newline
      exact Body.newline_notMem_of_isDotted named newline
  | call | taskSequence | streamCall => exact (embraces _ opens).1 rfl

namespace Backend

variable {name : String} {dialect : Dialect} {role : Role} {layer : Layer} {text : String}

/-- A body asks for the names of types and not for their definitions, which may have
    braces. -/
theorem embraces_of_format (clean : layer.IsUnbraced)
    (formatted : (ofDialect name dialect).format role layer = .ok text) : role.Embraces text := by
  obtain ⟨sheet, member, rfl, covered, params, given, rendered⟩ := exists_sheet_of_format formatted
  obtain ⟨values, bound, rfl⟩ := TemplateBody.render_eq_ok_iff.mp rendered
  have unbraced := given.isUnbraced (dialect.isOf_sheets name sheet member) clean
  apply (dialect.isPlain_sheets name sheet member layer.kind covered).embraces
  intro placeholder used
  apply unbraced placeholder _ (bound placeholder used)
  rintro type rfl
  have dot : '.' ∈ (type ++ ".precision").toList := by simp [String.toList_append]
  have listed := (TemplateBody.mem_placeholders_iff _ _).mpr used
  have grounded := dialect.isGrounded_sheets name sheet member
  obtain ⟨other, -, same⟩ := grounded.dotted layer.kind covered _ listed dot
  exact Params.append_name_ne_append_precision _ _ same.symm

/-- If a layer has no braces in its texts, the only braces of the code for it on a built-in
    backend are those around the lines of its struct, and no part of the code reads as a
    placeholder. -/
theorem format_embraces (builtin : Builtin) :
    ∃ backend, builtin.backend = .ok backend ∧ ∀ role layer text, layer.IsUnbraced →
      backend.format role layer = .ok text → role.Embraces text ∧
        ∀ name, Body.isName name = true →
          ¬ (Segment.placeholder name).written <:+: text.toList := by
  refine ⟨_, builtin.backend_eq_ok, ?_⟩
  intro role layer text clean formatted
  have embraces := embraces_of_format clean formatted
  exact ⟨embraces, fun name named => embraces.not_placeholder named⟩

/-- A layer whose activation has to be written in lower case. -/
def upperActivation : Layer where
  name := "act5"
  kind := .activation
  index := 5
  input := some { name := "x", elementType := "t" }
  attributes := .ofList [("n_in", .int 8), ("table_size", .int 1024), ("activation", .text "ReLU")]
  types := .ofList [("table_t", { name := "table5_t", precision := "ap_fixed<18,\x7b8\x7d>" })]

theorem isUnbraced_upperActivation : upperActivation.IsUnbraced where
  name := by decide
  attributes := by
    have rendered : ∀ entry ∈ upperActivation.attributes.entries, Unbraced entry.2.render := by
      decide +kernel
    intro name text held
    exact rendered _ (Table.find?_eq_some_iff.mp held)
  types := by
    have named : ∀ entry ∈ upperActivation.types.entries, Unbraced entry.2.name := by
      decide +kernel
    intro name type held
    exact named _ (Table.find?_eq_some_iff.mp held)
  weights := nofun
  tensors := by
    rintro v (held | held)
    · obtain rfl := Option.some.inj held
      exact ⟨by decide, by decide, nofun⟩
    · cases held

/-- The definition of the type has braces and is not used. -/
theorem format_upperActivation : ∃ backend, Builtin.oneApi.backend = .ok backend ∧
    ∃ text, backend.format .config upperActivation = .ok text ∧ Role.config.Embraces text ∧
      ¬ (Segment.placeholder "index").written <:+: text.toList := by
  obtain ⟨backend, built, formats⟩ := format_embraces .oneApi
  have succeeds : (backend.format .config upperActivation).toOption.isSome = true := by
    obtain rfl := Except.ok.inj (Builtin.oneApi.backend_eq_ok.symm.trans built)
    decide +kernel
  cases formatted : backend.format .config upperActivation with
  | error reason =>
      rw [formatted] at succeeds
      cases succeeds
  | ok text =>
      obtain ⟨embraces, unmarked⟩ :=
        formats .config upperActivation text isUnbraced_upperActivation formatted
      exact ⟨backend, built, text, formatted, embraces, unmarked "index" (by decide)⟩

end Backend

end HlsEmit

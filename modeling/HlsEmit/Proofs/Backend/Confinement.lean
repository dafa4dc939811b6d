import HlsEmit.Proofs.Backend.Dispatch
import HlsEmit.Proofs.Template.Placeholders

/-! # Derivations stay inside what they provide

A derivation says which names it may write. The names beside these keep their values,
and neither the outcome nor the texts that are written depend on the parameters so far.
So two derivations that share no name can be swapped, and two runs of the same
derivations that start apart end up with the same values wherever they agreed before
or a derivation has set one.
-/

namespace HlsEmit

namespace Derivation

/-- The derivation leaves the names alone that it does not provide, and takes what it
    writes from the context and the layer. -/
structure IsConfined (d : Derivation) : Prop where
  frames : ∀ context layer before after, d.apply context layer before = .ok after →
    ∀ name, name ∉ d.provides → after.find? name = before.find? name
  uniform : ∀ context layer,
    (∃ reason, ∀ params, d.apply context layer params = .error reason) ∨
    ∃ texts : Table String, ∀ params, ∃ after, d.apply context layer params = .ok after ∧
      ∀ name, after.find? name = (texts.find? name).or (params.find? name)

/-- The two derivations can be swapped wherever both succeed. -/
def Commutes (d e : Derivation) : Prop :=
  ∀ context layer params first second, d.apply context layer params = .ok first →
    e.apply context layer params = .ok second →
    ∃ last, e.apply context layer first = .ok last ∧ d.apply context layer second = .ok last

variable {d e : Derivation} {context : DeriveContext} {layer other : Layer}

theorem IsWriting.isConfined (writes : d.IsWriting) : d.IsConfined where
  frames context layer before after applied name outside :=
    writes.frames context layer name outside before after applied
  uniform := by
    obtain ⟨bindings, shape⟩ := writes.writes
    intro context layer
    rw [shape]
    cases given : bindings context layer with
    | error reason =>
        left
        exact ⟨reason, fun params => writing_apply_eq_error_iff.mpr given⟩
    | ok pairs =>
        right
        refine ⟨Table.ofList pairs, fun params =>
          ⟨params.insertAll pairs, writing_apply_eq_ok_iff.mpr ⟨pairs, given, rfl⟩, ?_⟩⟩
        intro name
        rw [Table.ofList, Table.find?_insertAll_eq, Table.find?_insertAll_eq, Table.find?_empty,
          Option.or_none]

namespace IsConfined

/-- Where it succeeds once it writes the same texts into all parameters. -/
theorem exists_texts (confined : d.IsConfined) {params after : Params}
    (applied : d.apply context layer params = .ok after) :
    ∃ texts : Table String, ∀ params, ∃ after, d.apply context layer params = .ok after ∧
      ∀ name, after.find? name = (texts.find? name).or (params.find? name) := by
  rcases confined.uniform context layer with ⟨reason, refuses⟩ | written
  · rw [refuses params] at applied
    cases applied
  · exact written

/-- At most one of the two provides a name, and the other one passes it on. -/
theorem commutes (confined : d.IsConfined) (also : e.IsConfined)
    (apart : d.provides.Disjoint e.provides) : d.Commutes e := by
  intro context layer params first second one two
  obtain ⟨texts, writes⟩ := confined.exists_texts one
  obtain ⟨others, adds⟩ := also.exists_texts two
  obtain ⟨last, after, last_eq⟩ := adds first
  obtain ⟨final, behind, final_eq⟩ := writes second
  have first_eq : ∀ name, first.find? name = (texts.find? name).or (params.find? name) := by
    obtain ⟨_, again, found⟩ := writes params
    exact Except.ok.inj (one.symm.trans again) ▸ found
  have second_eq : ∀ name, second.find? name = (others.find? name).or (params.find? name) := by
    obtain ⟨_, again, found⟩ := adds params
    exact Except.ok.inj (two.symm.trans again) ▸ found
  have same : final = last := by
    apply Table.ext
    intro name
    by_cases provided : name ∈ d.provides
    · have outside : name ∉ e.provides := apart provided
      rw [final_eq, also.frames _ _ _ _ two name outside, also.frames _ _ _ _ after name outside,
        first_eq]
    · rw [last_eq, confined.frames _ _ _ _ one name provided,
        confined.frames _ _ _ _ behind name provided, second_eq]
  exact ⟨last, after, same ▸ behind⟩

end IsConfined

/-- The same derivations on two layers that they treat alike fail with one error, or
    end up with the same values under all names that agreed before or were set. -/
theorem foldlM_congr {derivations : List Derivation} {names : String → Prop}
    {params others : Params} (confined : ∀ d ∈ derivations, d.IsConfined)
    (alike : ∀ d ∈ derivations, d.apply context other = d.apply context layer)
    (agree : ∀ name, names name → others.find? name = params.find? name ∨
      ∃ d ∈ derivations, ∃ value, d.Sets context layer name value) :
    (∃ reason,
      derivations.foldlM (fun params d => d.apply context layer params) params = .error reason ∧
      derivations.foldlM (fun params d => d.apply context other params) others = .error reason) ∨
    ∃ last next, Run context layer derivations params last ∧
      Run context other derivations others next ∧
      ∀ name, names name → next.find? name = last.find? name := by
  induction derivations generalizing params others with
  | nil =>
      right
      refine ⟨params, others, .nil, .nil, fun name named => ?_⟩
      rcases agree name named with same | ⟨_, member, _⟩
      · exact same
      · cases member
  | cons d rest ih =>
      have treated := alike d List.mem_cons_self
      rcases (confined d List.mem_cons_self).uniform context layer with
        ⟨reason, refuses⟩ | ⟨texts, writes⟩
      · left
        refine ⟨reason, ?_, ?_⟩
        · rw [List.foldlM_cons, refuses params]
          rfl
        · rw [List.foldlM_cons, treated, refuses others]
          rfl
      · obtain ⟨after, one, after_eq⟩ := writes params
        obtain ⟨behind, two, behind_eq⟩ := writes others
        have kept : ∀ name, names name → behind.find? name = after.find? name ∨
            ∃ d ∈ rest, ∃ value, d.Sets context layer name value := by
          intro name named
          rcases agree name named with same | ⟨setter, member, value, sets⟩
          · exact .inl (by rw [behind_eq, after_eq, same])
          · rcases List.mem_cons.mp member with rfl | later
            · exact .inl ((sets _ _ two).trans (sets _ _ one).symm)
            · exact .inr ⟨setter, later, value, sets⟩
        rw [List.foldlM_cons, List.foldlM_cons, one, treated, two]
        rcases ih (fun d member => confined d (List.mem_cons_of_mem _ member))
            (fun d member => alike d (List.mem_cons_of_mem _ member)) kept with
          failed | ⟨last, next, run, also, reached⟩
        · exact .inl failed
        · right
          exact ⟨last, next, .cons one run, .cons (treated ▸ two) also, reached⟩

end Derivation

/-- Two layers have the same code or the same failure on a sheet whose derivations treat
    them alike, if each placeholder has the same default for both or is set. -/
theorem Sheet.format_congr {sheet : Sheet} {layer other : Layer} (kind : other.kind = layer.kind)
    (covered : layer.kind ∈ sheet.spec.family.kinds)
    (confined : ∀ d ∈ sheet.spec.derivations, d.IsConfined)
    (alike : ∀ d ∈ sheet.spec.derivations,
      d.apply sheet.spec.context other = d.apply sheet.spec.context layer)
    (agree : ∀ name, .placeholder name ∈ sheet.segments layer.kind →
      (Params.defaults sheet.spec.role other).find? name =
        (Params.defaults sheet.spec.role layer).find? name ∨
      ∃ d ∈ sheet.spec.derivations, ∃ value, d.Sets sheet.spec.context layer name value) :
    sheet.template.format other = sheet.template.format layer := by
  rw [format_template (kind ▸ covered), format_template covered, kind]
  rcases Derivation.foldlM_congr confined alike agree with
    ⟨reason, failed, also⟩ | ⟨last, next, run, also, reached⟩
  · have refused : sheet.template.derive layer = .error reason := failed
    have refusedToo : sheet.template.derive other = .error reason := also
    rw [refused, refusedToo]
  · have rendered : TemplateBody.render ⟨sheet.segments layer.kind⟩ next =
        TemplateBody.render ⟨sheet.segments layer.kind⟩ last :=
      TemplateBody.render_congr fun name used =>
        reached name ((TemplateBody.mem_placeholders_iff _ name).mp used)
    rw [derive_eq_ok_iff.mpr run, derive_eq_ok_iff.mpr also]
    simp only [Except.bind, rendered]

namespace Derivation

/-- The derivations of all families. -/
def builtIn : List Derivation :=
  [Pooling.filterSlots, Pooling.implementation, Dense.weightNames, Dense.sparsity, Dense.strategy,
    Activation.activationName, Layout.channelsLastOnly, Layout.channelFormat]

theorem isWriting_builtIn : ∀ d ∈ builtIn, d.IsWriting := by
  simp only [builtIn, List.forall_mem_cons]
  exact ⟨Pooling.isWriting_filterSlots, Pooling.isWriting_implementation,
    Dense.isWriting_weightNames, Dense.isWriting_sparsity, Dense.isWriting_strategy,
    Activation.isWriting_activationName, Layout.isWriting_derivation .quartus,
    Layout.isWriting_derivation .vivado, nofun⟩

theorem mem_builtIn_of_derives {d : Derivation} {dialect : Dialect} {family : LayerFamily}
    {role : Role} (derives : dialect.Derives family role d) : d ∈ builtIn := by
  cases derives with
  | layout => cases dialect <;> simp [builtIn, Layout.derivation]
  | _ => simp [builtIn]

/-- No backend of a dialect uses any others. -/
theorem mem_builtIn_of_mem_specs {backend : String} {dialect : Dialect} {spec : TemplateSpec}
    (member : spec ∈ dialect.specs backend) {d : Derivation} (used : d ∈ spec.derivations) :
    d ∈ builtIn := by
  rw [← Dialect.map_spec_sheets] at member
  obtain ⟨sheet, inside, rfl⟩ := List.mem_map.mp member
  exact mem_builtIn_of_derives ((dialect.isOf_sheets backend sheet inside).derives d used)

/-- Every derivation of a built-in backend stays inside what it provides and does not look
    at the parameters. So any two that provide different names can be swapped. -/
theorem builtIn_confined :
    (∀ builtin : Builtin, ∀ spec ∈ builtin.dialect.specs builtin.name,
      ∀ d ∈ spec.derivations, d ∈ builtIn) ∧
    (∀ d ∈ builtIn, d.IsConfined) ∧
    ∀ d ∈ builtIn, ∀ e ∈ builtIn, d.provides.Disjoint e.provides → d.Commutes e := by
  have confined : ∀ d ∈ builtIn, d.IsConfined :=
    fun d member => (isWriting_builtIn d member).isConfined
  refine ⟨?_, confined, ?_⟩
  · intro builtin spec member d used
    exact mem_builtIn_of_mem_specs member used
  · intro d member e also apart
    exact (confined d member).commutes (confined e also) apart

end Derivation

/-- A dense layer with zeros among its weights. -/
def sparseDense : Layer where
  name := "fc5"
  kind := .dense
  index := 5
  attributes := .ofList [("n_in", .int 4), ("n_out", .int 2), ("n_zeros", .int 3),
    ("strategy", .text "Resource")]

/-- The count of zeros and the strategy are derived in either order. -/
theorem Derivation.commutes_sparseDense :
    Dense.sparsity ∈ builtIn ∧ Dense.strategy ∈ builtIn ∧
    Dense.sparsity.provides.Disjoint Dense.strategy.provides ∧
    ∃ first second last : Params,
      Dense.sparsity.apply ⟨"Vivado", "Vivado:dense:config"⟩ sparseDense ∅ = .ok first ∧
      Dense.strategy.apply ⟨"Vivado", "Vivado:dense:config"⟩ sparseDense ∅ = .ok second ∧
      first.find? "strategy" = none ∧
      Dense.strategy.apply ⟨"Vivado", "Vivado:dense:config"⟩ sparseDense first = .ok last ∧
      Dense.sparsity.apply ⟨"Vivado", "Vivado:dense:config"⟩ sparseDense second = .ok last := by
  obtain ⟨-, confined, commute⟩ := builtIn_confined
  have sparsity : Dense.sparsity ∈ builtIn := by simp [builtIn]
  have strategy : Dense.strategy ∈ builtIn := by simp [builtIn]
  have apart : Dense.sparsity.provides.Disjoint Dense.strategy.provides :=
    List.disjoint_left.mpr (by decide)
  obtain ⟨first, one⟩ : ∃ first,
      Dense.sparsity.apply ⟨"Vivado", "Vivado:dense:config"⟩ sparseDense ∅ = .ok first := ⟨_, rfl⟩
  obtain ⟨second, two⟩ : ∃ second,
      Dense.strategy.apply ⟨"Vivado", "Vivado:dense:config"⟩ sparseDense ∅ = .ok second := ⟨_, rfl⟩
  have outside := (confined _ sparsity).frames _ _ _ _ one "strategy" (by decide)
  obtain ⟨last, after, also⟩ := commute _ sparsity _ strategy apart _ _ _ _ _ one two
  exact ⟨sparsity, strategy, apart, first, second, last, one, two, outside, after, also⟩

end HlsEmit

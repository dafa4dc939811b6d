import HlsEmit.Proofs.Template.Rendering

/-! # What derivations do to a name

A derivation that writes bindings either sets a name, to a value that depends on
the layer alone, or spares it. So after a run of such derivations a name has the
value that one of them set, or the one from before the run.

Two layers are compared by running the same derivations on both. What the first
run gives to the placeholders of a body the second gives to them too, if every
derivation of the run carries this over.
-/

namespace HlsEmit.Derivation

open Table (bound?)

/-- Where the derivation succeeds, it leaves the name with the value. -/
def Sets (d : Derivation) (context : DeriveContext) (layer : Layer) (name value : String) : Prop :=
  ∀ before after, d.apply context layer before = .ok after → after.find? name = some value

/-- Where the derivation succeeds, it leaves the name as it was. -/
def Spares (d : Derivation) (context : DeriveContext) (layer : Layer) (name : String) : Prop :=
  ∀ before after, d.apply context layer before = .ok after → after.find? name = before.find? name

/-- The derivation writes bindings, all of them under names that it provides. -/
structure IsWriting (d : Derivation) : Prop where
  writes : ∃ bindings, d = writing d.provides bindings
  frames : ∀ context layer name, name ∉ d.provides → d.Spares context layer name

/-- A success for the first layer is one for the second, which then gives the
    placeholders of the segments whatever the first gives them. -/
def Simulates (d : Derivation) (context : DeriveContext) (segments : List Segment)
    (layer other : Layer) : Prop :=
  ∀ params others after, params.Within segments others →
    d.apply context layer params = .ok after →
      ∃ next, d.apply context other others = .ok next ∧ after.Within segments next

variable {context : DeriveContext} {layer other : Layer} {segments : List Segment}
  {name value : String}

section Writing

variable {provides : List String}
  {bindings : DeriveContext → Layer → Except CodegenError (List (String × String))}

theorem sets_writing (binds : ∀ pairs, bindings context layer = .ok pairs →
    bound? pairs name = some value) :
    (writing provides bindings).Sets context layer name value := by
  intro before after applied
  obtain ⟨pairs, given, rfl⟩ := writing_apply_eq_ok_iff.mp applied
  rw [Table.find?_insertAll_eq, binds pairs given, Option.some_or]

theorem exists_sets_writing (binds : ∀ pairs, bindings context layer = .ok pairs →
    (bound? pairs name).isSome) :
    ∃ value, (writing provides bindings).Sets context layer name value := by
  cases given : bindings context layer with
  | error reason =>
      refine ⟨"", sets_writing ?_⟩
      intro pairs also
      rw [given] at also
      cases also
  | ok pairs =>
      obtain ⟨value, bound⟩ := Option.isSome_iff_exists.mp (binds pairs given)
      refine ⟨value, sets_writing ?_⟩
      intro others also
      rw [given] at also
      rwa [← Except.ok.inj also]

theorem spares_writing (leaves : ∀ pairs, bindings context layer = .ok pairs →
    bound? pairs name = none) : (writing provides bindings).Spares context layer name := by
  intro before after applied
  obtain ⟨pairs, given, rfl⟩ := writing_apply_eq_ok_iff.mp applied
  rw [Table.find?_insertAll_eq, leaves pairs given, Option.none_or]

theorem isWriting_writing (listed : ∀ context layer pairs, bindings context layer = .ok pairs →
    ∀ pair ∈ pairs, pair.1 ∈ provides) : (writing provides bindings).IsWriting where
  writes := ⟨bindings, rfl⟩
  frames := by
    intro context layer name outside
    apply spares_writing
    intro pairs given
    apply Table.bound?_eq_none_iff.mpr
    intro pair member same
    exact outside (same ▸ listed context layer pairs given pair member)

theorem simulates_writing (agree : ∀ pairs, bindings context layer = .ok pairs →
    ∃ others, bindings context other = .ok others ∧
      ∀ name, .placeholder name ∈ segments → bound? others name = bound? pairs name) :
    (writing provides bindings).Simulates context segments layer other := by
  intro params others after within applied
  obtain ⟨pairs, given, rfl⟩ := writing_apply_eq_ok_iff.mp applied
  obtain ⟨next, also, same⟩ := agree pairs given
  refine ⟨others.insertAll next, writing_apply_eq_ok_iff.mpr ⟨next, also, rfl⟩, ?_⟩
  intro name used value found
  rw [Table.find?_insertAll_eq] at found ⊢
  rw [same name used]
  cases bound : bound? pairs name with
  | some written => rwa [bound, Option.some_or] at found
  | none =>
      rw [bound, Option.none_or] at found
      exact within name used value found

theorem simulates_writing_of_eq (same : bindings context other = bindings context layer) :
    (writing provides bindings).Simulates context segments layer other := by
  apply simulates_writing
  intro pairs given
  exact ⟨pairs, same.trans given, fun _ _ => rfl⟩

end Writing

theorem IsWriting.sets_or_spares {d : Derivation} (writes : d.IsWriting) (context : DeriveContext)
    (layer : Layer) (name : String) :
    (∃ value, d.Sets context layer name value) ∨ d.Spares context layer name := by
  obtain ⟨bindings, shape⟩ := writes.writes
  rw [shape]
  by_cases binds : ∀ pairs, bindings context layer = .ok pairs → (bound? pairs name).isSome
  · exact .inl (exists_sets_writing binds)
  · right
    simp only [not_forall] at binds
    obtain ⟨pairs, given, unbound⟩ := binds
    apply spares_writing
    intro others also
    rw [given] at also
    obtain rfl := Except.ok.inj also
    exact Option.not_isSome_iff_eq_none.mp unbound

namespace Run

variable {derivations : List Derivation} {params last : Params}

theorem find?_of_spares (run : Run context layer derivations params last)
    (spared : ∀ d ∈ derivations, d.Spares context layer name) :
    last.find? name = params.find? name := by
  induction run with
  | nil => rfl
  | @cons d rest first middle last step _ ih =>
      rw [ih fun other member => spared other (List.mem_cons_of_mem _ member)]
      exact spared d List.mem_cons_self _ _ step

/-- A value from before the run or of a derivation of the run stays, if no other
    derivation sets the name to another. -/
theorem find?_of_sets (run : Run context layer derivations params last)
    (each : ∀ d ∈ derivations, d.Sets context layer name value ∨ d.Spares context layer name)
    (source : params.find? name = some value ∨
      ∃ d ∈ derivations, d.Sets context layer name value) : last.find? name = some value := by
  induction run with
  | nil =>
      rcases source with present | ⟨d, member, -⟩
      · exact present
      · cases member
  | @cons d rest first middle last step _ ih =>
      apply ih fun other member => each other (List.mem_cons_of_mem _ member)
      rcases each d List.mem_cons_self with sets | spares
      · exact .inl (sets _ _ step)
      · rcases source with present | ⟨other, member, sets⟩
        · exact .inl ((spares _ _ step).trans present)
        · rcases List.mem_cons.mp member with rfl | later
          · exact .inl (sets _ _ step)
          · exact .inr ⟨other, later, sets⟩

theorem contains_of_sets (run : Run context layer derivations params last)
    (writing : ∀ d ∈ derivations, d.IsWriting)
    (source : params.contains name = true ∨
      ∃ d ∈ derivations, ∃ value, d.Sets context layer name value) :
    last.contains name = true := by
  induction run with
  | nil =>
      rcases source with present | ⟨d, member, -⟩
      · exact present
      · cases member
  | @cons d rest first middle last step _ ih =>
      have present_of_sets : ∀ value, d.Sets context layer name value →
          middle.contains name = true := by
        intro value sets
        rw [Table.contains_eq_isSome, sets _ _ step, Option.isSome_some]
      apply ih fun other member => writing other (List.mem_cons_of_mem _ member)
      rcases (writing d List.mem_cons_self).sets_or_spares context layer name with
        ⟨value, sets⟩ | spares
      · exact .inl (present_of_sets value sets)
      · rcases source with present | ⟨other, member, value, sets⟩
        · left
          rwa [Table.contains_eq_isSome, spares _ _ step]
        · rcases List.mem_cons.mp member with rfl | later
          · exact .inl (present_of_sets value sets)
          · exact .inr ⟨other, later, value, sets⟩

theorem simulates {others : Params} (run : Run context layer derivations params last)
    (each : ∀ d ∈ derivations, d.Simulates context segments layer other)
    (within : params.Within segments others) :
    ∃ next, Run context other derivations others next ∧ last.Within segments next := by
  induction run generalizing others with
  | nil => exact ⟨others, .nil, within⟩
  | @cons d rest first middle last step _ ih =>
      obtain ⟨next, applied, kept⟩ := each d List.mem_cons_self _ _ _ within step
      obtain ⟨final, run, reached⟩ :=
        ih (fun other member => each other (List.mem_cons_of_mem _ member)) kept
      exact ⟨final, .cons applied run, reached⟩

end Run

end HlsEmit.Derivation

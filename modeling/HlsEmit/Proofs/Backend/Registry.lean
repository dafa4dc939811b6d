import Mathlib.Data.List.Nodup
import HlsEmit.Proofs.Backend.Builtin

/-! # Runs of registrations

A registry holds what was recorded for it: of the calls whose factory builds a
backend, the first one for each name, with case folded. What a registry answers
follows from its entries, since the names of the entries differ.
-/

namespace HlsEmit

/-- A call that registers a backend. -/
structure Registration (φ : Type) where
  name : String
  factory : φ

/-- The call that registers a built-in backend. -/
def Builtin.registration {φ : Type} (ofBuiltin : Builtin → φ) (builtin : Builtin) :
    Registration φ := ⟨builtin.name, ofBuiltin builtin⟩

namespace Registration

variable {φ : Type} [BackendFactory φ]

/-- The entry that the call makes for a new name, unless its factory fails. -/
def made? (call : Registration φ) : Option (RegistryEntry φ) :=
  match BackendFactory.build call.factory with
  | .ok backend => some ⟨call.name, call.factory, backend⟩
  | .error _ => none

/-- Of the entries that the calls would make, the first one for each name. -/
def recorded (calls : List (Registration φ)) : List (RegistryEntry φ) :=
  (calls.filterMap made?).eraseDupsBy fun later earlier => later.key = earlier.key

theorem made?_of_ok {call : Registration φ} {backend : Backend}
    (built : BackendFactory.build call.factory = .ok backend) :
    call.made? = some ⟨call.name, call.factory, backend⟩ := by
  simp only [made?, built]

theorem made?_of_error {call : Registration φ} {reason : CodegenError}
    (failed : BackendFactory.build call.factory = .error reason) : call.made? = none := by
  simp only [made?, failed]

theorem build_of_made? {call : Registration φ} {entry : RegistryEntry φ}
    (made : call.made? = some entry) :
    BackendFactory.build entry.factory = .ok entry.backend := by
  cases outcome : BackendFactory.build call.factory with
  | error reason =>
      rw [made?_of_error outcome] at made
      cases made
  | ok backend =>
      rw [made?_of_ok outcome] at made
      cases made
      exact outcome

end Registration

namespace Registry

variable {φ : Type}

theorem find?_eq_none_iff {registry : Registry φ} {name : String} :
    registry.find? name = none ↔
      ∀ entry ∈ registry.entries, entry.key ≠ Text.foldAscii name := by
  simp [find?, List.find?_eq_none]

/-- Keys are unique, so the entry that is found is the only one with its key. -/
theorem find?_eq_some_iff {registry : Registry φ} {name : String} {entry : RegistryEntry φ} :
    registry.find? name = some entry ↔
      entry ∈ registry.entries ∧ entry.key = Text.foldAscii name := by
  constructor
  · intro found
    exact ⟨List.mem_of_find?_eq_some found, by simpa using List.find?_some found⟩
  · rintro ⟨member, same⟩
    cases found : registry.find? name with
    | none => exact absurd same (find?_eq_none_iff.mp found entry member)
    | some other =>
        have inside : other ∈ registry.entries := List.mem_of_find?_eq_some found
        have key : other.key = Text.foldAscii name := by simpa using List.find?_some found
        rw [List.inj_on_of_nodup_map registry.distinct inside member (key.trans same.symm)]

theorem get_of_find? {registry : Registry φ} {name : String} {entry : RegistryEntry φ}
    (found : registry.find? name = some entry) : registry.get name = .ok entry.backend := by
  simp only [get, found]

theorem get_of_absent {registry : Registry φ} {name : String}
    (absent : registry.find? name = none) :
    registry.get name = .error (.backendNotFound name registry.names) := by
  simp only [get, absent]

variable [DecidableEq φ] [BackendFactory φ]

theorem register_of_known {registry : Registry φ} {name : String} {entry : RegistryEntry φ}
    (found : registry.find? name = some entry) (factory : φ) :
    registry.register name factory =
      (if entry.factory = factory then .ok () else .error (.duplicateBackend name), registry) := by
  unfold register
  split
  · rename_i other known
    rw [Option.some.inj (known.symm.trans found)]
  · rename_i absent
    rw [absent] at found
    cases found

theorem register_of_absent {registry : Registry φ} {name : String}
    (absent : registry.find? name = none) (factory : φ) :
    registry.register name factory =
      match BackendFactory.build factory with
      | .error reason => (.error reason, registry)
      | .ok backend =>
          (.ok (), ⟨registry.entries ++ [⟨name, factory, backend⟩],
            distinct_append ⟨name, factory, backend⟩ absent⟩) := by
  unfold register
  split
  · rename_i entry known
    rw [absent] at known
    cases known
  · rfl

theorem register_of_error {registry : Registry φ} {name : String} {factory : φ}
    {reason : CodegenError} (absent : registry.find? name = none)
    (failed : BackendFactory.build factory = .error reason) :
    registry.register name factory = (.error reason, registry) := by
  simp only [register_of_absent absent, failed]

theorem register_of_ok {registry : Registry φ} {name : String} {factory : φ} {backend : Backend}
    (absent : registry.find? name = none)
    (built : BackendFactory.build factory = .ok backend) :
    registry.register name factory =
      (.ok (), ⟨registry.entries ++ [⟨name, factory, backend⟩],
        distinct_append ⟨name, factory, backend⟩ absent⟩) := by
  simp only [register_of_absent absent, built]

theorem register_of_answer_error {registry : Registry φ} {name : String} {factory : φ}
    {reason : CodegenError} (failed : (registry.register name factory).1 = .error reason) :
    (registry.register name factory).2 = registry := by
  cases found : registry.find? name with
  | some entry => rw [register_of_known found]
  | none =>
      cases outcome : BackendFactory.build factory with
      | error reason => rw [register_of_error found outcome]
      | ok backend =>
          rw [register_of_ok found outcome] at failed
          cases failed

/-- The registry after a run of calls, whatever they answer. -/
def after (registry : Registry φ) (calls : List (Registration φ)) : Registry φ :=
  calls.foldl (fun registry call => (registry.register call.name call.factory).2) registry

theorem after_append (registry : Registry φ) (first second : List (Registration φ)) :
    registry.after (first ++ second) = (registry.after first).after second := by
  simp only [after, List.foldl_append]

/-- One call appends the entry that it makes, unless an earlier one has its key. -/
theorem entries_register (registry : Registry φ) (call : Registration φ) :
    (registry.register call.name call.factory).2.entries =
      match call.made? with
      | none => registry.entries
      | some entry =>
          if registry.entries.any (fun earlier => entry.key = earlier.key) then registry.entries
          else registry.entries ++ [entry] := by
  cases outcome : BackendFactory.build call.factory with
  | error reason =>
      rw [Registration.made?_of_error outcome]
      cases found : registry.find? call.name with
      | some entry => rw [register_of_known found]
      | none => rw [register_of_error found outcome]
  | ok backend =>
      rw [Registration.made?_of_ok outcome]
      cases found : registry.find? call.name with
      | some entry =>
          obtain ⟨member, same⟩ := find?_eq_some_iff.mp found
          have taken : registry.entries.any (fun earlier =>
              decide (RegistryEntry.key ⟨call.name, call.factory, backend⟩ = earlier.key)) :=
            List.any_eq_true.mpr ⟨entry, member, decide_eq_true same.symm⟩
          simp only [register_of_known found, taken, if_true]
      | none =>
          have free : registry.entries.any (fun earlier =>
              decide (RegistryEntry.key ⟨call.name, call.factory, backend⟩ = earlier.key)) =
                false := by
            rw [List.any_eq_false]
            intro earlier member same
            exact find?_eq_none_iff.mp found earlier member (of_decide_eq_true same).symm
          simp only [register_of_ok found outcome, free, Bool.false_eq_true, if_false]

/-- Every entry was there before the calls, or one of them made it. -/
theorem mem_or_made_of_mem_after {registry : Registry φ} {calls : List (Registration φ)}
    {entry : RegistryEntry φ} (member : entry ∈ (registry.after calls).entries) :
    entry ∈ registry.entries ∨ ∃ call ∈ calls, call.made? = some entry := by
  induction calls generalizing registry with
  | nil => exact .inl member
  | cons call rest ih =>
      rcases ih member with before | ⟨other, later, made⟩
      · rw [entries_register] at before
        split at before
        · exact .inl before
        · rename_i added made
          split at before
          · exact .inl before
          · rcases List.mem_append.mp before with held | last
            · exact .inl held
            · rw [List.mem_singleton.mp last]
              exact .inr ⟨call, List.mem_cons_self, made⟩
      · exact .inr ⟨other, List.mem_cons_of_mem _ later, made⟩

theorem build_of_mem_after {registry : Registry φ} (built : ∀ entry ∈ registry.entries,
    BackendFactory.build entry.factory = .ok entry.backend) (calls : List (Registration φ)) :
    ∀ entry ∈ (registry.after calls).entries,
      BackendFactory.build entry.factory = .ok entry.backend := by
  intro entry member
  rcases mem_or_made_of_mem_after member with before | ⟨call, -, made⟩
  · exact built entry before
  · exact Registration.build_of_made? made

/-- A run of calls removes later duplicates as it goes. -/
theorem entries_after_eq_loop (registry : Registry φ) (calls : List (Registration φ)) :
    (registry.after calls).entries =
      List.eraseDupsBy.loop (fun later earlier => decide (later.key = earlier.key))
        (calls.filterMap Registration.made?) registry.entries.reverse := by
  induction calls generalizing registry with
  | nil => simp [after, List.eraseDupsBy.loop]
  | cons call rest ih =>
      have step := entries_register registry call
      have others := ih (registry.register call.name call.factory).2
      rw [after, List.foldl_cons, ← after, others]
      cases made : call.made? with
      | none =>
          rw [made] at step
          rw [step, List.filterMap_cons_none made]
      | some entry =>
          rw [made] at step
          rw [step, List.filterMap_cons_some made, List.eraseDupsBy.loop, List.any_reverse]
          cases taken : registry.entries.any (fun earlier => decide (entry.key = earlier.key)) <;>
            simp [taken]

/-- A registry that started empty holds what was recorded. -/
theorem entries_after (calls : List (Registration φ)) :
    ((∅ : Registry φ).after calls).entries = Registration.recorded calls :=
  entries_after_eq_loop ∅ calls

theorem names_register_of_ok {registry : Registry φ} {name : String} {factory : φ}
    {backend : Backend} (absent : registry.find? name = none)
    (built : BackendFactory.build factory = .ok backend) :
    (registry.register name factory).2.names = registry.names ++ [name] := by
  rw [register_of_ok absent built]
  exact List.map_append

theorem find?_register_of_ok {registry : Registry φ} {name query : String} {factory : φ}
    {backend : Backend} (absent : registry.find? name = none)
    (built : BackendFactory.build factory = .ok backend)
    (queryAbsent : registry.find? query = none)
    (unequal : Text.foldAscii name ≠ Text.foldAscii query) :
    (registry.register name factory).2.find? query = none := by
  rw [register_of_ok absent built, find?_eq_none_iff]
  intro entry inside
  rcases List.mem_append.mp inside with before | last
  · exact find?_eq_none_iff.mp queryAbsent entry before
  · rw [List.mem_singleton.mp last]
    exact unequal

theorem get_register_of_ok {registry : Registry φ} {name : String} {factory : φ}
    {backend : Backend} (absent : registry.find? name = none)
    (built : BackendFactory.build factory = .ok backend) :
    (registry.register name factory).2.get name = .ok backend := by
  have entries : (registry.register name factory).2.entries =
      registry.entries ++ [⟨name, factory, backend⟩] := by rw [register_of_ok absent built]
  have last : (⟨name, factory, backend⟩ : RegistryEntry φ) ∈
      (registry.register name factory).2.entries := by simp [entries]
  exact get_of_find? (find?_eq_some_iff.mpr ⟨last, rfl⟩)

section Builtin

variable {ofBuiltin : Builtin → φ}

/-- Built-in backends whose names are new and distinct are registered one by one. -/
theorem foldlM_register_builtin
    (builds : ∀ builtin, BackendFactory.build (ofBuiltin builtin) = builtin.backend)
    {registry : Registry φ} {builtins : List Builtin}
    (absent : ∀ builtin ∈ builtins, registry.find? builtin.name = none)
    (distinct : (builtins.map fun builtin => Text.foldAscii builtin.name).Nodup) :
    ∃ final, builtins.foldlM (fun registry builtin =>
        let (answer, next) := registry.register builtin.name (ofBuiltin builtin)
        answer.map fun _ => next) registry = .ok final ∧
      final = registry.after (builtins.map (Builtin.registration ofBuiltin)) ∧
      final.names = registry.names ++ builtins.map Builtin.name := by
  induction builtins generalizing registry with
  | nil => exact ⟨registry, rfl, rfl, (List.append_nil _).symm⟩
  | cons first rest ih =>
      obtain ⟨unequal, others⟩ := List.nodup_cons.mp distinct
      have built := (builds first).trans first.backend_eq_ok
      have new := absent first (by simp)
      have answer : (registry.register first.name (ofBuiltin first)).1 = .ok () := by
        rw [register_of_ok new built]
      have stillAbsent : ∀ builtin ∈ rest,
          (registry.register first.name (ofBuiltin first)).2.find? builtin.name = none := by
        intro builtin member
        apply find?_register_of_ok new built (absent builtin (by simp [member]))
        exact fun same => unequal (List.mem_map.mpr ⟨builtin, member, same.symm⟩)
      obtain ⟨final, run, reached, names⟩ := ih stillAbsent others
      refine ⟨final, ?_, reached, ?_⟩
      · rw [List.foldlM_cons]
        simp only [answer]
        exact run
      · rw [names, names_register_of_ok new built, List.append_assoc]
        rfl

theorem exists_withBuiltin
    (builds : ∀ builtin, BackendFactory.build (ofBuiltin builtin) = builtin.backend) :
    ∃ start, Registry.withBuiltin ofBuiltin = .ok start ∧
      start = (∅ : Registry φ).after (Builtin.all.map (Builtin.registration ofBuiltin)) ∧
      start.names = Builtin.all.map Builtin.name :=
  foldlM_register_builtin builds (fun _ _ => rfl) (by decide)

/-- The registry of built-in backends answers a name with the backend that has it. -/
theorem get_withBuiltin_eq_ok_iff
    (builds : ∀ builtin, BackendFactory.build (ofBuiltin builtin) = builtin.backend)
    {registry : Registry φ} (registered : Registry.withBuiltin ofBuiltin = .ok registry)
    {name : String} {backend : Backend} : registry.get name = .ok backend ↔
      ∃ builtin : Builtin, Text.foldAscii builtin.name = Text.foldAscii name ∧
        builtin.backend = .ok backend := by
  obtain ⟨start, begun, reached, names⟩ := exists_withBuiltin builds
  obtain rfl := Except.ok.inj (begun.symm.trans registered)
  have made : ∀ entry ∈ start.entries, ∃ builtin : Builtin, entry.name = builtin.name ∧
      builtin.backend = .ok entry.backend := by
    intro entry member
    rw [reached] at member
    rcases mem_or_made_of_mem_after member with nothing | ⟨call, listed, made⟩
    · cases nothing
    · obtain ⟨builtin, -, rfl⟩ := List.mem_map.mp listed
      rw [Registration.made?_of_ok ((builds builtin).trans builtin.backend_eq_ok)] at made
      obtain rfl := Option.some.inj made
      exact ⟨builtin, rfl, builtin.backend_eq_ok⟩
  constructor
  · intro found
    rw [get] at found
    split at found
    · rename_i entry present
      obtain ⟨member, same⟩ := find?_eq_some_iff.mp present
      obtain ⟨builtin, named, built⟩ := made entry member
      obtain rfl := Except.ok.inj found
      exact ⟨builtin, named ▸ same, built⟩
    · cases found
  · rintro ⟨builtin, same, built⟩
    have listed : builtin.name ∈ start.names := by
      rw [names]
      exact List.mem_map_of_mem (by cases builtin <;> decide)
    obtain ⟨entry, member, named⟩ := List.mem_map.mp listed
    obtain ⟨other, sameName, otherBuilt⟩ := made entry member
    have injective : other = builtin := by
      have names : other.name = builtin.name := sameName.symm.trans named
      revert names
      cases other <;> cases builtin <;> decide
    obtain rfl := injective
    obtain rfl := Except.ok.inj (otherBuilt.symm.trans built)
    exact get_of_find? (find?_eq_some_iff.mpr ⟨member, (congrArg Text.foldAscii named).trans same⟩)

end Builtin

/-- The registry answers every question as an insertion-ordered map with these
    entries, in which each name is written once and case does not matter. -/
structure Refines (registry : Registry φ) (entries : List (RegistryEntry φ)) : Prop where
  /-- The names are those of the entries, in order. -/
  names : registry.names = entries.map RegistryEntry.name
  /-- No two names agree, case folded. -/
  distinct : (registry.names.map Text.foldAscii).Nodup
  /-- Each entry has what its own factory builds. -/
  built : ∀ entry ∈ entries, BackendFactory.build entry.factory = .ok entry.backend
  /-- A name that agrees with that of an entry yields the backend of the entry. -/
  found : ∀ entry ∈ entries, ∀ name, Text.foldAscii name = Text.foldAscii entry.name →
    registry.get name = .ok entry.backend
  /-- Any other name is answered with the names there are. -/
  missing : ∀ name, (∀ entry ∈ entries, Text.foldAscii entry.name ≠ Text.foldAscii name) →
    registry.get name = .error (.backendNotFound name registry.names)
  /-- A known name can be registered only by its own factory, and to no effect.
      The answer is the same whatever the factories build. -/
  known : ∀ entry ∈ entries, ∀ name, Text.foldAscii name = Text.foldAscii entry.name →
    ∀ (factory : φ) (factories : BackendFactory φ),
      @register φ _ factories registry name factory =
        (if entry.factory = factory then .ok () else .error (.duplicateBackend name), registry)
  /-- A new name is registered unless its factory fails. -/
  new : ∀ name, (∀ entry ∈ entries, Text.foldAscii entry.name ≠ Text.foldAscii name) →
    ∀ factory, (registry.register name factory).1 = (BackendFactory.build factory).map fun _ => ()
  /-- A call that fails changes nothing. -/
  failed : ∀ name factory reason, (registry.register name factory).1 = .error reason →
    (registry.register name factory).2 = registry
  /-- After a factory has failed, its name can still be registered. -/
  retried : ∀ name, (∀ entry ∈ entries, Text.foldAscii entry.name ≠ Text.foldAscii name) →
    ∀ broken reason, BackendFactory.build broken = .error reason →
    ∀ working backend, BackendFactory.build working = .ok backend →
      let left := (registry.register name broken).2
      let retry := left.register name working
      (registry.register name broken).1 = .error reason ∧ retry.1 = .ok () ∧
        retry.2.names = registry.names ++ [name] ∧ retry.2.get name = .ok backend

/-- A registry whose entries hold what their factories build refines its entries. -/
theorem refines_entries {registry : Registry φ} (built : ∀ entry ∈ registry.entries,
    BackendFactory.build entry.factory = .ok entry.backend) :
    registry.Refines registry.entries where
  names := rfl
  distinct := by
    rw [names, List.map_map]
    exact registry.distinct
  built := built
  found := by
    intro entry member name same
    exact get_of_find? (find?_eq_some_iff.mpr ⟨member, same.symm⟩)
  missing := by
    intro name absent
    exact get_of_absent (find?_eq_none_iff.mpr absent)
  known := by
    intro entry member name same factory factories
    exact register_of_known (find?_eq_some_iff.mpr ⟨member, same.symm⟩) factory
  new := by
    intro name absent factory
    cases outcome : BackendFactory.build factory with
    | error reason => rw [register_of_error (find?_eq_none_iff.mpr absent) outcome]; rfl
    | ok backend => rw [register_of_ok (find?_eq_none_iff.mpr absent) outcome]; rfl
  failed := fun name factory reason => register_of_answer_error
  retried := by
    intro name absent broken reason fails working backend works
    have unknown := find?_eq_none_iff.mpr absent
    simp only [register_of_error unknown fails]
    refine ⟨trivial, ?_, names_register_of_ok unknown works, get_register_of_ok unknown works⟩
    rw [register_of_ok unknown works]

theorem refines_after (calls : List (Registration φ)) :
    ((∅ : Registry φ).after calls).Refines (Registration.recorded calls) := by
  rw [← entries_after]
  exact refines_entries (build_of_mem_after (fun _ member => absurd member List.not_mem_nil) calls)

/-- Every run of calls leaves a registry that refines what the calls recorded,
    whether it starts empty or from the built-in backends. -/
theorem refines_recorded (ofBuiltin : Builtin → φ)
    (builds : ∀ builtin, BackendFactory.build (ofBuiltin builtin) = builtin.backend)
    (calls : List (Registration φ)) :
    ((∅ : Registry φ).after calls).Refines (Registration.recorded calls) ∧
    ∃ start, Registry.withBuiltin ofBuiltin = .ok start ∧
      start.names = Builtin.all.map Builtin.name ∧
      (start.after calls).Refines (Registration.recorded
        (Builtin.all.map (Builtin.registration ofBuiltin) ++ calls)) := by
  obtain ⟨start, registered, reached, names⟩ := exists_withBuiltin builds
  refine ⟨refines_after calls, start, registered, names, ?_⟩
  rw [reached, ← after_append]
  exact refines_after _

/-- A second factory does not take over a name that is written in another case. -/
theorem get_after_hls :
    let calls : List (Registration Builtin) := [⟨"HLS", .vivado⟩, ⟨"hls", .vitis⟩]
    ((∅ : Registry Builtin).after calls).names = ["HLS"] ∧
      ((∅ : Registry Builtin).after calls).get "hls" =
        .ok (Backend.ofDialect "Vivado" .vivado) := by
  intro calls
  have first : Registration.made? ⟨"HLS", Builtin.vivado⟩ =
      some ⟨"HLS", .vivado, Backend.ofDialect "Vivado" .vivado⟩ :=
    Registration.made?_of_ok (Builtin.backend_eq_ok .vivado)
  have second : Registration.made? ⟨"hls", Builtin.vitis⟩ =
      some ⟨"hls", .vitis, Backend.ofDialect "Vitis" .vivado⟩ :=
    Registration.made?_of_ok (Builtin.backend_eq_ok .vitis)
  have same : Text.foldAscii "hls" = Text.foldAscii "HLS" := by decide
  have recorded : Registration.recorded calls =
      [⟨"HLS", .vivado, Backend.ofDialect "Vivado" .vivado⟩] := by
    simp [calls, Registration.recorded, first, second, List.eraseDupsBy_cons,
      RegistryEntry.key, same]
  have refines := (refines_recorded id (fun _ => rfl) calls).1
  rw [recorded] at refines
  exact ⟨refines.names, refines.found _ (List.mem_singleton_self _) "hls" same⟩

end Registry

end HlsEmit

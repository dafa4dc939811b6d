import HlsEmit.Family.Pooling
import HlsEmit.Proofs.Template.Validation
import Mathlib.Data.List.Nodup

/-! # Which specifications are accepted

A specification is made by calls: bodies for single kinds, shared bodies of which the
last one counts, headers and derivations. Building it succeeds exactly if the calls are
consistent. Each kind then has the body of its own text, or else the shared one, so
the order in which the bodies are given makes no difference to any layer.
-/

namespace HlsEmit

namespace TemplateSpec

/-- A step in making a specification. -/
inductive Call where
  /-- Give a body for one kind. -/
  | body (kind : LayerKind) (text : String)
  /-- Give the body for every kind without its own. -/
  | sharedBody (text : String)
  | includes (headers : List String)
  | derive (derivation : Derivation)

namespace Call

def apply (spec : TemplateSpec) : Call → TemplateSpec
  | body kind text => spec.body kind text
  | sharedBody text => spec.sharedBody text
  | includes headers => spec.withIncludes headers
  | derive derivation => spec.derive derivation

def body? : Call → Option (LayerKind × String)
  | body kind text => some (kind, text)
  | _ => none

def sharedBody? : Call → Option String
  | sharedBody text => some text
  | _ => none

def derivation? : Call → Option Derivation
  | derive derivation => some derivation
  | _ => none

end Call

/-- The specification that the calls make, one after the other. -/
def ofCalls (backend : String) (family : LayerFamily) (role : Role) (calls : List Call) :
    TemplateSpec :=
  calls.foldl Call.apply { backend, family, role }

/-- What calls have left behind in a specification. -/
structure Gathers (spec : TemplateSpec) (backend : String) (family : LayerFamily) (role : Role)
    (calls : List Call) : Prop where
  backend : spec.backend = backend
  family : spec.family = family
  role : spec.role = role
  bodies : spec.bodies = calls.filterMap Call.body?
  /-- The last shared body counts. -/
  shared : spec.shared = (calls.filterMap Call.sharedBody?).getLast?
  derivations : spec.derivations = calls.filterMap Call.derivation?

theorem Gathers.apply {spec : TemplateSpec} {backend : String} {family : LayerFamily}
    {role : Role} {calls : List Call} (gathers : spec.Gathers backend family role calls)
    (call : Call) : (call.apply spec).Gathers backend family role (calls ++ [call]) := by
  obtain ⟨backend, family, role, bodies, shared, derivations⟩ := gathers
  cases call <;> constructor <;>
    simp [Call.apply, body, sharedBody, withIncludes, derive, Call.body?, Call.sharedBody?,
      Call.derivation?, List.filterMap_append, *]

theorem gathers_ofCalls (backend : String) (family : LayerFamily) (role : Role)
    (calls : List Call) :
    (ofCalls backend family role calls).Gathers backend family role calls := by
  have run : ∀ (later earlier : List Call) (spec : TemplateSpec),
      spec.Gathers backend family role earlier →
        (later.foldl Call.apply spec).Gathers backend family role (earlier ++ later) := by
    intro later
    induction later with
    | nil => intro earlier spec gathers; simpa using gathers
    | cons call later ih =>
        intro earlier spec gathers
        simpa using ih _ _ (gathers.apply call)
  exact run calls [] _ ⟨rfl, rfl, rfl, rfl, rfl, rfl⟩

/-- The text whose body serves the kind. -/
inductive Chooses (spec : TemplateSpec) (kind : LayerKind) : String → Prop where
  | own {text} : (kind, text) ∈ spec.bodies → Chooses spec kind text
  | shared {text} : (∀ own, (kind, own) ∉ spec.bodies) → spec.shared = some text →
      Chooses spec kind text

/-- The bodies of a specification fit its family, each other and what is provided. -/
structure IsConsistent (spec : TemplateSpec) : Prop where
  covered : ∀ kind text, (kind, text) ∈ spec.bodies → kind ∈ spec.family.kinds
  once : (spec.bodies.map Prod.fst).Nodup
  readable : ∀ kind text, (kind, text) ∈ spec.bodies →
    ∃ body, TemplateBody.parse text = .ok body
  /-- The shared text has to be readable even if no kind needs it. -/
  sharedReadable : ∀ text, spec.shared = some text →
    ∃ body, TemplateBody.parse text = .ok body
  complete : ∀ kind ∈ spec.family.kinds, ∃ text, spec.Chooses kind text
  bound : ∀ kind ∈ spec.family.kinds, ∀ text body, spec.Chooses kind text →
    TemplateBody.parse text = .ok body → ∀ placeholder ∈ body.placeholders,
      placeholder ∈ spec.role.structuralNames ∨ placeholder ∈ spec.family.vocabulary kind ∨
        ∃ d ∈ spec.derivations, placeholder ∈ d.provides

theorem Chooses.unique {spec : TemplateSpec} {kind : LayerKind} {text other : String}
    (once : (spec.bodies.map Prod.fst).Nodup) (chosen : spec.Chooses kind text)
    (also : spec.Chooses kind other) : text = other := by
  cases chosen with
  | own given =>
      cases also with
      | own givenToo => exact (Prod.mk.inj (List.inj_on_of_nodup_map once given givenToo rfl)).2
      | shared lacks _ => exact absurd given (lacks text)
  | shared lacks given =>
      cases also with
      | own givenToo => exact absurd givenToo (lacks other)
      | shared _ givenToo => exact Option.some.inj (given.symm.trans givenToo)

/-- An entry with a text is read to one with a body. -/
def Reads (spec : TemplateSpec) (entry : LayerKind × String)
    (own : LayerKind × TemplateBody) : Prop :=
  entry.1 ∈ spec.family.kinds ∧ own.1 = entry.1 ∧ TemplateBody.parse entry.2 = .ok own.2

theorem parseBody_eq_ok_iff {spec : TemplateSpec} {text : String} {body : TemplateBody} :
    spec.parseBody text = .ok body ↔ TemplateBody.parse text = .ok body := by
  rw [parseBody]
  cases TemplateBody.parse text <;> simp [Except.mapError]

theorem readBodies_cons_eq_ok_iff {spec : TemplateSpec}
    {done own : List (LayerKind × TemplateBody)} {kind : LayerKind} {text : String}
    {rest : List (LayerKind × String)} :
    spec.readBodies done ((kind, text) :: rest) = .ok own ↔ kind ∈ spec.family.kinds ∧
      kind ∉ done.map Prod.fst ∧ ∃ body, TemplateBody.parse text = .ok body ∧
        spec.readBodies (done ++ [(kind, body)]) rest = .ok own := by
  have known : (done.lookup kind).isSome = true ↔ kind ∈ done.map Prod.fst := by simp
  have parses : ∀ body, TemplateBody.parse text = .ok body ↔ spec.parseBody text = .ok body :=
    fun _ => parseBody_eq_ok_iff.symm
  simp only [parses, ← known]
  rw [readBodies]
  by_cases covered : kind ∈ spec.family.kinds
  · cases read : spec.parseBody text with
    | error reason => simp [covered, bind, Except.bind]
    | ok body =>
        by_cases taken : (done.lookup kind).isSome = true
        · simp [covered, taken, bind, Except.bind, throw, throwThe, MonadExceptOf.throw]
        · simp [covered, taken, bind, Except.bind]
  · simp [covered, bind, Except.bind, throw, throwThe, MonadExceptOf.throw]

/-- Reading succeeds exactly if every entry can be read and no kind comes twice. -/
theorem readBodies_eq_ok_iff {spec : TemplateSpec} {done own : List (LayerKind × TemplateBody)}
    {entries : List (LayerKind × String)} :
    spec.readBodies done entries = .ok own ↔ ∃ read, own = done ++ read ∧
      List.Forall₂ spec.Reads entries read ∧ (entries.map Prod.fst).Nodup ∧
        ∀ kind ∈ entries.map Prod.fst, kind ∉ done.map Prod.fst := by
  induction entries generalizing done with
  | nil => simp [readBodies, eq_comm]
  | cons entry rest ih =>
      obtain ⟨kind, text⟩ := entry
      rw [readBodies_cons_eq_ok_iff]
      simp only [ih]
      constructor
      · rintro ⟨covered, fresh, body, parsed, read, rfl, others, once, apart⟩
        refine ⟨(kind, body) :: read, by simp, .cons ⟨covered, rfl, parsed⟩ others, ?_, ?_⟩
        · rw [List.map_cons, List.nodup_cons]
          exact ⟨fun again => apart kind again (by simp), once⟩
        · intro other member
          rcases List.mem_cons.mp member with rfl | later
          · exact fresh
          · intro held
            exact apart other later (by rw [List.map_append]; exact List.mem_append_left _ held)
      · rintro ⟨read, rfl, reads, once, apart⟩
        rw [List.map_cons, List.nodup_cons] at once
        obtain ⟨own, others, ⟨covered, same, parsed⟩, tail, rfl⟩ :=
          List.forall₂_cons_left_iff.mp reads
        obtain ⟨key, body⟩ := own
        obtain rfl : key = kind := same
        refine ⟨covered, apart key (by simp), body, parsed, others, by simp, tail, once.2, ?_⟩
        intro other member held
        rw [List.map_append, List.mem_append] at held
        rcases held with before | here
        · exact apart other (List.mem_cons_of_mem _ member) before
        · obtain rfl : other = key := by simpa using here
          exact once.1 member

theorem parseBody_mapM_eq_ok_iff {spec : TemplateSpec} {given : Option String}
    {shared : Option TemplateBody} : given.mapM spec.parseBody = .ok shared ↔
      Option.Rel (fun text body => TemplateBody.parse text = .ok body) given shared := by
  cases given with
  | none => cases shared <;> simp [pure, Except.pure]
  | some text =>
      cases shared with
      | none => cases parsed : spec.parseBody text <;> simp [parsed, Functor.map, Except.map]
      | some body =>
          rw [Option.rel_some_some, ← @parseBody_eq_ok_iff spec]
          cases parsed : spec.parseBody text <;> simp [parsed, Functor.map, Except.map]

section Reads

variable {spec : TemplateSpec} {entries : List (LayerKind × String)}
  {read : List (LayerKind × TemplateBody)} {kind : LayerKind} {body : TemplateBody}

theorem lookup_eq_none_iff_of_reads (reads : List.Forall₂ spec.Reads entries read) :
    read.lookup kind = none ↔ ∀ text, (kind, text) ∉ entries := by
  induction reads with
  | nil => simp
  | @cons entry own rest others head _ ih =>
      obtain ⟨_, text⟩ := entry
      obtain ⟨key, parsed⟩ := own
      obtain ⟨-, rfl, -⟩ := head
      by_cases here : kind = key
      · subst here
        constructor
        · intro nothing
          simp at nothing
        · intro lacks
          exact absurd List.mem_cons_self (lacks text)
      · have differ : (kind == key) = false := by simpa using here
        simp [List.lookup_cons, differ, here, ih]

theorem lookup_eq_some_iff_of_reads (reads : List.Forall₂ spec.Reads entries read)
    (once : (entries.map Prod.fst).Nodup) : read.lookup kind = some body ↔
      ∃ text, (kind, text) ∈ entries ∧ TemplateBody.parse text = .ok body := by
  induction reads with
  | nil => simp
  | @cons entry own rest others head _ ih =>
      obtain ⟨_, text⟩ := entry
      obtain ⟨key, parsed⟩ := own
      obtain ⟨-, rfl, parses⟩ := head
      rw [List.map_cons, List.nodup_cons] at once
      by_cases here : kind = key
      · subst here
        have only : ∀ other, (kind, other) ∉ rest :=
          fun other later => once.1 (List.mem_map.mpr ⟨_, later, rfl⟩)
        simp only at parses
        simp [only, parses]
      · have differ : (kind == key) = false := by simpa using here
        simp [List.lookup_cons, differ, here, ih once.2]

/-- The body of a kind is read from the text that serves the kind. -/
theorem chosen_eq_some_iff {shared : Option TemplateBody}
    (reads : List.Forall₂ spec.Reads spec.bodies read)
    (once : (spec.bodies.map Prod.fst).Nodup)
    (readShared : Option.Rel (fun text body => TemplateBody.parse text = .ok body)
      spec.shared shared) : (read.lookup kind).or shared = some body ↔
      ∃ text, spec.Chooses kind text ∧ TemplateBody.parse text = .ok body := by
  cases found : read.lookup kind with
  | some own =>
      obtain ⟨text, given, parsed⟩ := (lookup_eq_some_iff_of_reads reads once).mp found
      rw [Option.some_or, Option.some.injEq]
      constructor
      · rintro rfl
        exact ⟨text, .own given, parsed⟩
      · rintro ⟨other, chosen, also⟩
        obtain rfl := chosen.unique once (.own given)
        exact Except.ok.inj (parsed.symm.trans also)
  | none =>
      have lacks := (lookup_eq_none_iff_of_reads reads).mp found
      rw [Option.none_or]
      constructor
      · rintro rfl
        cases given : spec.shared with
        | none =>
            rw [given] at readShared
            cases readShared
        | some text =>
            rw [given, Option.rel_some_some] at readShared
            exact ⟨text, .shared lacks given, readShared⟩
      · rintro ⟨text, given | ⟨_, given⟩, parsed⟩
        · exact absurd given (lacks text)
        · rw [given] at readShared
          cases readShared with
          | some also => rw [Except.ok.inj (also.symm.trans parsed)]

end Reads

theorem chooseBody_eq_ok_iff {spec : TemplateSpec} {own : List (LayerKind × TemplateBody)}
    {shared : Option TemplateBody} {kind : LayerKind} {entry : LayerKind × TemplateBody} :
    spec.chooseBody own shared kind = .ok entry ↔ entry.1 = kind ∧
      (own.lookup kind).or shared = some entry.2 ∧
      ∀ placeholder ∈ entry.2.placeholders, placeholder ∈ spec.provided kind := by
  constructor
  · intro chosen
    obtain ⟨same, bound⟩ := of_chooseBody chosen
    refine ⟨same, ?_, bound⟩
    rw [chooseBody] at chosen
    cases found : (own.lookup kind).or shared with
    | none => simp [found] at chosen
    | some body =>
        simp only [found] at chosen
        split at chosen
        · cases chosen
        · obtain rfl := Except.ok.inj chosen
          rfl
  · rintro ⟨rfl, found, bound⟩
    have free : entry.2.placeholders.find? (· ∉ spec.provided entry.1) = none := by
      simpa using bound
    simp only [chooseBody, found, free]

/-- A template is made of the bodies that are read and chosen. -/
structure IsMade (spec : TemplateSpec) (own : List (LayerKind × TemplateBody))
    (shared : Option TemplateBody) (template : LayerTemplate) : Prop where
  reads : List.Forall₂ spec.Reads spec.bodies own
  once : (spec.bodies.map Prod.fst).Nodup
  readShared : Option.Rel (fun text body => TemplateBody.parse text = .ok body) spec.shared shared
  chosen : List.Forall₂ (fun kind entry => spec.chooseBody own shared kind = .ok entry)
    spec.family.kinds template.bodies

theorem exists_isMade_of_build {spec : TemplateSpec} {template : LayerTemplate}
    (built : spec.build = .ok template) : ∃ own shared, spec.IsMade own shared template := by
  obtain ⟨own, readOwn, built⟩ := Outcome.bind_eq_ok_iff.mp built
  obtain ⟨shared, readShared, built⟩ := Outcome.bind_eq_ok_iff.mp built
  obtain ⟨bodies, chosen, built⟩ := Outcome.bind_eq_ok_iff.mp built
  obtain ⟨_, rfl, reads, once, -⟩ := readBodies_eq_ok_iff.mp readOwn
  obtain rfl := Except.ok.inj built
  exact ⟨_, shared, reads, once, parseBody_mapM_eq_ok_iff.mp readShared,
    Outcome.mapM_eq_ok_iff.mp chosen⟩

namespace IsMade

variable {spec : TemplateSpec} {own : List (LayerKind × TemplateBody)}
  {shared : Option TemplateBody} {template : LayerTemplate}

theorem served (made : spec.IsMade own shared template) {kind : LayerKind} {body : TemplateBody} :
    (own.lookup kind).or shared = some body ↔
      ∃ text, spec.Chooses kind text ∧ TemplateBody.parse text = .ok body :=
  chosen_eq_some_iff made.reads made.once made.readShared

theorem exists_chooseBody (made : spec.IsMade own shared template) :
    ∀ kind ∈ spec.family.kinds, ∃ entry, spec.chooseBody own shared kind = .ok entry :=
  Outcome.exists_of_mapM_eq_ok (Outcome.mapM_eq_ok_iff.mpr made.chosen)

theorem isConsistent (made : spec.IsMade own shared template) : spec.IsConsistent where
  covered kind text given := by
    obtain ⟨-, covered, -⟩ := Outcome.exists_forall₂_iff.mp ⟨own, made.reads⟩ (kind, text) given
    exact covered
  once := made.once
  readable kind text given := by
    obtain ⟨entry, -, -, parsed⟩ :=
      Outcome.exists_forall₂_iff.mp ⟨own, made.reads⟩ (kind, text) given
    exact ⟨entry.2, parsed⟩
  sharedReadable text given := by
    have readShared := made.readShared
    rw [given] at readShared
    cases readShared with
    | some parsed => exact ⟨_, parsed⟩
  complete kind inside := by
    obtain ⟨entry, chosen⟩ := made.exists_chooseBody kind inside
    obtain ⟨-, found, -⟩ := chooseBody_eq_ok_iff.mp chosen
    obtain ⟨text, served, -⟩ := made.served.mp found
    exact ⟨text, served⟩
  bound kind inside text body served parsed placeholder used := by
    obtain ⟨entry, chosen⟩ := made.exists_chooseBody kind inside
    obtain ⟨rfl, found, bound⟩ := chooseBody_eq_ok_iff.mp chosen
    have also := made.served.mpr ⟨text, served, parsed⟩
    obtain rfl := Option.some.inj (found.symm.trans also)
    rcases mem_provided_iff.mp (bound placeholder used) with (known | structural) | derived
    · exact .inr (.inl known)
    · exact .inl structural
    · exact .inr (.inr derived)

end IsMade

theorem IsConsistent.exists_build {spec : TemplateSpec} (consistent : spec.IsConsistent) :
    ∃ template, spec.build = .ok template := by
  have readEach : ∀ entry ∈ spec.bodies, ∃ own, spec.Reads entry own := by
    rintro ⟨kind, text⟩ given
    obtain ⟨body, parsed⟩ := consistent.readable kind text given
    exact ⟨(kind, body), consistent.covered kind text given, rfl, parsed⟩
  obtain ⟨own, reads⟩ := Outcome.exists_forall₂_iff.mpr readEach
  obtain ⟨shared, readShared⟩ : ∃ shared, Option.Rel
      (fun text body => TemplateBody.parse text = .ok body) spec.shared shared := by
    cases given : spec.shared with
    | none => exact ⟨none, .none⟩
    | some text =>
        obtain ⟨body, parsed⟩ := consistent.sharedReadable text given
        exact ⟨some body, .some parsed⟩
  have chooseEach : ∀ kind ∈ spec.family.kinds, ∃ entry,
      spec.chooseBody own shared kind = .ok entry := by
    intro kind inside
    obtain ⟨text, served⟩ := consistent.complete kind inside
    have parses : ∃ body, TemplateBody.parse text = .ok body := by
      cases served with
      | own given => exact consistent.readable kind text given
      | shared _ given => exact consistent.sharedReadable text given
    obtain ⟨body, parsed⟩ := parses
    refine ⟨(kind, body), chooseBody_eq_ok_iff.mpr ⟨rfl, ?_, ?_⟩⟩
    · exact (chosen_eq_some_iff reads consistent.once readShared).mpr ⟨text, served, parsed⟩
    · intro placeholder used
      apply mem_provided_iff.mpr
      rcases consistent.bound kind inside text body served parsed placeholder used with
        structural | known | derived
      · exact .inl (.inr structural)
      · exact .inl (.inl known)
      · exact .inr derived
  obtain ⟨bodies, chosen⟩ := Outcome.exists_forall₂_iff.mpr chooseEach
  have readOwn : spec.readBodies [] spec.bodies = .ok own :=
    readBodies_eq_ok_iff.mpr ⟨own, rfl, reads, consistent.once, by simp⟩
  exact ⟨_, Outcome.bind_eq_ok_iff.mpr ⟨own, readOwn, Outcome.bind_eq_ok_iff.mpr ⟨shared,
    parseBody_mapM_eq_ok_iff.mpr readShared, Outcome.bind_eq_ok_iff.mpr ⟨bodies,
      Outcome.mapM_eq_ok_iff.mpr chosen, rfl⟩⟩⟩⟩

theorem exists_build_iff {spec : TemplateSpec} :
    (∃ template, spec.build = .ok template) ↔ spec.IsConsistent := by
  constructor
  · rintro ⟨template, built⟩
    obtain ⟨own, shared, made⟩ := exists_isMade_of_build built
    exact made.isConsistent
  · exact IsConsistent.exists_build

/-- The code of a layer under a body. -/
def formatWith (spec : TemplateSpec) (body : TemplateBody) (layer : Layer) :
    Except CodegenError String := do
  let params ← spec.derivations.foldlM (fun params d => d.apply spec.context layer params)
    (Params.defaults spec.role layer)
  (body.render params).mapError fun placeholder =>
    .missingParameter placeholder layer.kind spec.name

/-- The template formats the layers of the family under the text that serves their
    kind, and no others. -/
structure Formats (spec : TemplateSpec) (template : LayerTemplate) : Prop where
  inside : ∀ layer : Layer, layer.kind ∈ spec.family.kinds → ∃ text body,
    spec.Chooses layer.kind text ∧ TemplateBody.parse text = .ok body ∧
      template.format layer = spec.formatWith body layer
  outside : ∀ layer : Layer, layer.kind ∉ spec.family.kinds →
    template.format layer = .error (.unknownKind layer.kind spec.name)

theorem IsMade.lookup_eq {spec : TemplateSpec} {own : List (LayerKind × TemplateBody)}
    {shared : Option TemplateBody} {template : LayerTemplate}
    (made : spec.IsMade own shared template) {kind : LayerKind}
    (inside : kind ∈ spec.family.kinds) : ∃ body, template.bodies.lookup kind = some body ∧
      (own.lookup kind).or shared = some body := by
  apply exists_lookup_of_keyed (fun kind body => (own.lookup kind).or shared = some body) _ inside
  refine made.chosen.imp fun kind entry chosen => ?_
  obtain ⟨same, found, -⟩ := chooseBody_eq_ok_iff.mp chosen
  exact ⟨same, found⟩

theorem formats_of_build {spec : TemplateSpec} {template : LayerTemplate}
    (built : spec.build = .ok template) : spec.Formats template where
  inside layer covered := by
    have builds := builds_of_build built
    obtain ⟨own, shared, made⟩ := exists_isMade_of_build built
    obtain ⟨body, found, chosen⟩ := made.lookup_eq covered
    obtain ⟨text, served, parsed⟩ := made.served.mp chosen
    have supported : template.supports layer.kind = true := by
      simpa [LayerTemplate.supports, builds.kinds] using covered
    refine ⟨text, body, served, parsed, ?_⟩
    simp [LayerTemplate.format, formatWith, supported, LayerTemplate.bodyFor, found, builds.name,
      LayerTemplate.derive, builds.context_eq, builds.derivations, builds.role, bind, Except.bind]
  outside layer := (builds_of_build built).format_of_not_mem

/-- The same bodies are given, in any order, and the same shared body and derivations. -/
structure Rearranges (calls others : List Call) : Prop where
  bodies : (calls.filterMap Call.body?).Perm (others.filterMap Call.body?)
  shared : (others.filterMap Call.sharedBody?).getLast? =
    (calls.filterMap Call.sharedBody?).getLast?
  derivations : others.filterMap Call.derivation? = calls.filterMap Call.derivation?

/-- Two specifications that differ in the order of their bodies and in their headers. -/
structure Resembles (spec other : TemplateSpec) : Prop where
  backend : other.backend = spec.backend
  family : other.family = spec.family
  role : other.role = spec.role
  bodies : spec.bodies.Perm other.bodies
  shared : other.shared = spec.shared
  derivations : other.derivations = spec.derivations

theorem resembles_ofCalls {backend : String} {family : LayerFamily} {role : Role}
    {calls others : List Call} (rearranged : Rearranges calls others) :
    (ofCalls backend family role calls).Resembles (ofCalls backend family role others) := by
  have first := gathers_ofCalls backend family role calls
  have second := gathers_ofCalls backend family role others
  constructor
  · rw [first.backend, second.backend]
  · rw [first.family, second.family]
  · rw [first.role, second.role]
  · rw [first.bodies, second.bodies]
    exact rearranged.bodies
  · rw [first.shared, second.shared, rearranged.shared]
  · rw [first.derivations, second.derivations, rearranged.derivations]

namespace Resembles

variable {spec other : TemplateSpec}

theorem chooses_iff (alike : spec.Resembles other) {kind : LayerKind} {text : String} :
    other.Chooses kind text ↔ spec.Chooses kind text := by
  constructor
  · rintro (given | ⟨lacks, given⟩)
    · exact .own (alike.bodies.mem_iff.mpr given)
    · exact .shared (fun own given => lacks own (alike.bodies.mem_iff.mp given))
        (alike.shared ▸ given)
  · rintro (given | ⟨lacks, given⟩)
    · exact .own (alike.bodies.mem_iff.mp given)
    · exact .shared (fun own given => lacks own (alike.bodies.mem_iff.mpr given))
        (alike.shared.trans given)

theorem isConsistent (alike : spec.Resembles other) (consistent : spec.IsConsistent) :
    other.IsConsistent where
  covered kind text given :=
    alike.family ▸ consistent.covered kind text (alike.bodies.mem_iff.mpr given)
  once := (alike.bodies.map Prod.fst).nodup_iff.mp consistent.once
  readable kind text given := consistent.readable kind text (alike.bodies.mem_iff.mpr given)
  sharedReadable text given := consistent.sharedReadable text (alike.shared ▸ given)
  complete kind inside := by
    rw [alike.family] at inside
    obtain ⟨text, served⟩ := consistent.complete kind inside
    exact ⟨text, alike.chooses_iff.mpr served⟩
  bound kind inside text body served := by
    rw [alike.family, alike.role, alike.derivations] at *
    exact consistent.bound kind inside text body (alike.chooses_iff.mp served)

theorem name_eq (alike : spec.Resembles other) : other.name = spec.name := by
  rw [name, alike.backend, alike.family, alike.role, name]

theorem formatWith_eq (alike : spec.Resembles other) (body : TemplateBody) (layer : Layer) :
    other.formatWith body layer = spec.formatWith body layer := by
  rw [formatWith, formatWith, context, context, alike.name_eq, alike.backend, alike.role,
    alike.derivations]

theorem format_eq (alike : spec.Resembles other) {template otherTemplate : LayerTemplate}
    (built : spec.build = .ok template) (otherBuilt : other.build = .ok otherTemplate)
    (layer : Layer) : otherTemplate.format layer = template.format layer := by
  have formats := formats_of_build built
  have otherFormats := formats_of_build otherBuilt
  by_cases covered : layer.kind ∈ spec.family.kinds
  · obtain ⟨text, body, served, parsed, formatted⟩ := formats.inside layer covered
    obtain ⟨otherText, otherBody, otherServed, otherParsed, otherFormatted⟩ :=
      otherFormats.inside layer (alike.family ▸ covered)
    have once := (exists_build_iff.mp ⟨template, built⟩).once
    obtain rfl := served.unique once (alike.chooses_iff.mp otherServed)
    obtain rfl := Except.ok.inj (parsed.symm.trans otherParsed)
    rw [otherFormatted, formatted, alike.formatWith_eq]
  · rw [formats.outside layer covered, otherFormats.outside layer (alike.family ▸ covered),
      alike.name_eq]

end Resembles

/-- A specification made by calls is built exactly if it is consistent. The layers of
    each kind are then formatted under its own text, or else under the last shared one,
    and giving the same bodies in another order leads to a template with the same code
    for every layer. -/
theorem build_of_calls (backend : String) (family : LayerFamily) (role : Role)
    (calls : List Call) :
    (ofCalls backend family role calls).Gathers backend family role calls ∧
    ((∃ template, (ofCalls backend family role calls).build = .ok template) ↔
      (ofCalls backend family role calls).IsConsistent) ∧
    ∀ template, (ofCalls backend family role calls).build = .ok template →
      (ofCalls backend family role calls).Formats template ∧
      ∀ others, Rearranges calls others → ∃ other,
        (ofCalls backend family role others).build = .ok other ∧
          ∀ layer, other.format layer = template.format layer := by
  refine ⟨gathers_ofCalls backend family role calls, exists_build_iff, ?_⟩
  intro template built
  refine ⟨formats_of_build built, fun others rearranged => ?_⟩
  have alike : (ofCalls backend family role calls).Resembles
      (ofCalls backend family role others) := resembles_ofCalls rearranged
  have consistent := alike.isConsistent (exists_build_iff.mp ⟨template, built⟩)
  obtain ⟨other, otherBuilt⟩ := consistent.exists_build
  exact ⟨other, otherBuilt, alike.format_eq built otherBuilt⟩

/-- Calls with two bodies, a shared body that cannot be read, and one that replaces it. -/
def poolingCalls : List Call :=
  [.sharedBody "\x7b", .body .pooling1D "\x7bpool_width\x7d", .derive Pooling.implementation,
    .body .pooling2D "\x7bimplementation\x7d", .sharedBody "\x7bname\x7d: \x7bpool_op\x7d"]

/-- The calls that count, in another order. -/
def reorderedPoolingCalls : List Call :=
  [.sharedBody "\x7bname\x7d: \x7bpool_op\x7d", .body .pooling2D "\x7bimplementation\x7d",
    .body .pooling1D "\x7bpool_width\x7d", .derive Pooling.implementation]

theorem rearranges_poolingCalls : Rearranges poolingCalls reorderedPoolingCalls where
  bodies := .swap _ _ _
  shared := rfl
  derivations := rfl

theorem build_poolingCalls : ∃ template other,
    (ofCalls "Vivado" Pooling.family .call poolingCalls).build = .ok template ∧
    (ofCalls "Vivado" Pooling.family .call reorderedPoolingCalls).build = .ok other ∧
    ∀ layer, other.format layer = template.format layer := by
  have succeeds :
      (ofCalls "Vivado" Pooling.family .call poolingCalls).build.toOption.isSome = true := by
    decide +kernel
  cases built : (ofCalls "Vivado" Pooling.family .call poolingCalls).build with
  | error reason => simp [built, Except.toOption] at succeeds
  | ok template =>
      obtain ⟨-, -, same⟩ := build_of_calls "Vivado" Pooling.family .call poolingCalls
      obtain ⟨other, otherBuilt, equal⟩ := (same template built).2 _ rearranges_poolingCalls
      exact ⟨template, other, rfl, otherBuilt, equal⟩

end TemplateSpec

end HlsEmit

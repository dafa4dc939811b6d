import HlsEmit.Backend.Basic
import HlsEmit.Text.CaseMap

/-! # The backend registry

Backends by name, in order of registration. Names are compared with the letters
`A` to `Z` folded, and each name is written once: a second registration is
accepted only for the same factory, and then changes nothing.
-/

namespace HlsEmit

/-- Things that build backends. -/
class BackendFactory (φ : Type) where
  /-- The backend, unless its templates are invalid. -/
  build : φ → Except CodegenError Backend

/-- A registered backend. -/
structure RegistryEntry (φ : Type) where
  /-- The name as it was registered. -/
  name : String
  /-- What built the backend. -/
  factory : φ
  backend : Backend

/-- The name as it is compared. -/
def RegistryEntry.key {φ : Type} (entry : RegistryEntry φ) : String := Text.foldAscii entry.name

/-- Backends by name. -/
structure Registry (φ : Type) where
  /-- The registered backends, the first one first. -/
  entries : List (RegistryEntry φ)
  /-- No two names agree. -/
  distinct : (entries.map RegistryEntry.key).Nodup

namespace Registry

variable {φ : Type}

/-- The registry without backends. -/
def empty : Registry φ := ⟨[], by simp⟩

instance : EmptyCollection (Registry φ) := ⟨empty⟩

def find? (registry : Registry φ) (name : String) : Option (RegistryEntry φ) :=
  registry.entries.find? fun entry => entry.key = Text.foldAscii name

/-- The registered names in order. -/
def names (registry : Registry φ) : List String := registry.entries.map RegistryEntry.name

def get (registry : Registry φ) (name : String) : Except CodegenError Backend :=
  match registry.find? name with
  | some entry => .ok entry.backend
  | none => .error (.backendNotFound name registry.names)

theorem distinct_append {registry : Registry φ} (entry : RegistryEntry φ)
    (h : registry.find? entry.name = none) :
    ((registry.entries ++ [entry]).map RegistryEntry.key).Nodup := by
  have absent : ∀ other ∈ registry.entries, other.key ≠ entry.key := by
    intro other inside same
    exact List.find?_eq_none.mp h other inside (decide_eq_true same)
  rw [List.map_append, List.nodup_append]
  refine ⟨registry.distinct, by simp, ?_⟩
  intro key inside other last
  obtain ⟨held, inEntries, rfl⟩ := List.mem_map.mp inside
  simp only [List.map_cons, List.map_nil, List.mem_singleton] at last
  exact last ▸ absent held inEntries

/-- Build a backend and add it under the name: the answer, and the registry that
    is left. A name that is known is left to the factory that was registered for
    it. -/
def register [DecidableEq φ] [BackendFactory φ] (registry : Registry φ) (name : String)
    (factory : φ) : Except CodegenError Unit × Registry φ :=
  match h : registry.find? name with
  | some entry =>
      (if entry.factory = factory then .ok () else .error (.duplicateBackend name), registry)
  | none =>
      match BackendFactory.build factory with
      | .error reason => (.error reason, registry)
      | .ok backend =>
          (.ok (), ⟨registry.entries ++ [⟨name, factory, backend⟩],
            distinct_append ⟨name, factory, backend⟩ h⟩)

/-- What is logged while the entries were registered. -/
def events (registry : Registry φ) : List Log.Event :=
  registry.entries.flatMap fun entry =>
    [entry.backend.builtEvent, .registered entry.name entry.backend.dialect.name]

end Registry

end HlsEmit

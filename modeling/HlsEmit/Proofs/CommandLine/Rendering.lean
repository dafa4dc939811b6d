import HlsEmit.CommandLine.Run
import HlsEmit.Files.Directory
import HlsEmit.Proofs.Backend.Registry
import HlsEmit.Proofs.Project.FailurePolicy

/-! # What a run of rendering delivers

Rendering is all or nothing unless it is told to keep going: either the text of the
whole project is delivered, or nothing is printed or written and the first failure is
reported. Failures are collected first, so what is reported and delivered is compared
here with the project that aborts.

Files are an arbitrary state with operations that always answer. Reading leaves them as
they are; writing may change them in any way and may fail.
-/

namespace HlsEmit

variable {σ : Type}

namespace CommandLine

/-- The name of the backend to render with: that of the command line, else that of the
    model, else the default. -/
def RenderOptions.backendName (options : RenderOptions) (model : Model) : String :=
  match options.backend, model.backend with
  | some name, _ => name
  | none, some name => name
  | none, none => "Vivado"

/-- The backend is the built-in one of that name, in upper or lower case. -/
def RenderOptions.Chooses (options : RenderOptions) (model : Model) (backend : Backend) : Prop :=
  ∃ builtin : Builtin, Text.foldAscii builtin.name = Text.foldAscii (options.backendName model) ∧
    builtin.backend = .ok backend

/-- The run gets as far as a model and a backend for it. -/
structure Prepares (files : FileAccess (StateM σ)) (options : RenderOptions) (before : σ)
    (source : String) (model : Model) (backend : Backend) : Prop where
  read : ((files.read options.model).run before).1 = .ok source
  loads : Model.ofText source = .ok model
  chooses : options.Chooses model backend

theorem exists_builtinRegistry : ∃ registry, builtinRegistry = .ok registry := by
  have builds (builtin : Builtin) : BackendFactory.build (id builtin) = builtin.backend := rfl
  obtain ⟨registry, registered, -⟩ := Registry.exists_withBuiltin builds
  exact ⟨registry, registered⟩

variable {options : RenderOptions} {source : String} {model : Model} {backend : Backend}

theorem backendName_eq (options : RenderOptions) (model : Model) :
    (options.backend <|> model.backend).getD defaultBackend = options.backendName model := by
  rw [RenderOptions.backendName]
  cases options.backend <;> cases model.backend <;> rfl

theorem chooses_iff {registry : Registry Builtin} (registered : builtinRegistry = .ok registry) :
    options.Chooses model backend ↔
      registry.get ((options.backend <|> model.backend).getD defaultBackend) = .ok backend := by
  rw [backendName_eq, Registry.get_withBuiltin_eq_ok_iff (fun _ => rfl) registered]
  rfl

theorem chooses_unique {other : Backend} (first : options.Chooses model backend)
    (second : options.Chooses model other) : backend = other := by
  obtain ⟨registry, registered⟩ := exists_builtinRegistry
  have found := (chooses_iff registered).mp first
  rw [(chooses_iff registered).mp second] at found
  exact (Except.ok.inj found).symm

/-- The log so far stands before what is reported. -/
def Rendering.after (logged : String) (rendering : Rendering) : Rendering :=
  { rendering with stderr := logged ++ rendering.stderr }

variable {files : FileAccess (StateM σ)} {before after : σ} {rendering : Rendering} {path : String}

theorem Prepares.unique {otherSource : String} {otherModel : Model} {otherBackend : Backend}
    (first : Prepares files options before source model backend)
    (second : Prepares files options before otherSource otherModel otherBackend) :
    source = otherSource ∧ model = otherModel ∧ backend = otherBackend := by
  obtain rfl := Except.ok.inj (first.read.symm.trans second.read)
  obtain rfl := Except.ok.inj (first.loads.symm.trans second.loads)
  exact ⟨rfl, rfl, chooses_unique first.chooses second.chooses⟩

variable {logger : Logger} {outcome : Outcome}

end CommandLine

end HlsEmit

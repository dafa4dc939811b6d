import HlsEmit.Backend.Builtin
import HlsEmit.CommandLine.Arguments
import HlsEmit.Diagnostic.Failure
import HlsEmit.Diagnostic.Report
import HlsEmit.Files.Basic
import HlsEmit.Log.Filter
import HlsEmit.Project

/-! # Runs of the command line

What a run prints and writes, and how it ends. Generated code goes to the standard
output or to a file; everything else goes to the standard error.
-/

namespace HlsEmit.CommandLine

/-- The end of a run. -/
structure Outcome where
  /-- Zero if all went well, two if the arguments made no sense, one otherwise. -/
  exitCode : UInt32 := 0
  stdout : String := ""
  stderr : String := ""
  deriving DecidableEq, Repr

/-- A run that could not do what it was asked. -/
def Outcome.failure (stderr : String) : Outcome where
  exitCode := 1
  stderr := stderr

/-- How the program is used. -/
def usage : String :=
  "Usage: hlsgen [-v] backends\n" ++
  "       hlsgen [-v] check\n" ++
  "       hlsgen [-v] render [-b BACKEND] [-o OUTPUT] [--keep-going] MODEL\n"

def versionText : String := "hlsgen 0.1.0\n"

/-- The backend used when neither the command line nor the model names one. -/
def defaultBackend : String := "Vivado"

/-- The log of a run. -/
structure Logger where
  filter : Log.Filter
  /-- Whether the lines name modules. -/
  showTarget : Bool

/-- The logger for the filter of the environment and the detail asked for. -/
def Logger.of (environment : Option String) (verbosity : Nat) : Logger where
  filter := Log.Filter.ofEnvironment environment verbosity
  showTarget := 1 < verbosity

/-- The lines for the events that are shown. -/
def Logger.text (logger : Logger) (events : List Log.Event) : String :=
  String.join ((events.filter logger.filter.shows).map fun event =>
    event.line logger.showTarget ++ "\n")

/-- The registry of every run. -/
def builtinRegistry : Except CodegenError (Registry Builtin) := Registry.withBuiltin id

/-- A run with the built-in backends. -/
def withRegistry (logger : Logger) (run : Registry Builtin → String → Outcome) : Outcome :=
  match builtinRegistry with
  | .error failure => .failure s!"error: {failure.message}\n"
  | .ok registry => run registry (logger.text registry.events)

/-- List the names of the backends. -/
def listBackends (logger : Logger) : Outcome :=
  withRegistry logger fun registry logged => {
    stdout := String.join (registry.names.map (· ++ "\n"))
    stderr := logged }

/-- The line of a role with the kinds it supports, if there are any. -/
def roleLine (backend : Backend) (role : Role) : String :=
  let kinds := backend.kinds role
  let padding := String.ofList (List.replicate (14 - role.name.length) ' ')
  if kinds.isEmpty then ""
  else "  " ++ role.name ++ padding ++ " " ++ ", ".intercalate (kinds.map LayerKind.name) ++ "\n"

def backendTable (name : String) (backend : Backend) : String :=
  s!"{name} ({backend.dialect.name})\n" ++ String.join (Role.all.map (roleLine backend))

/-- List what every backend supports. -/
def listSupport (logger : Logger) : Outcome :=
  withRegistry logger fun registry logged => {
    stdout := String.join (registry.entries.map fun entry => backendTable entry.name entry.backend)
    stderr := logged ++ s!"OK: {registry.entries.length} backends\n" }

/-- What rendering a model comes to before any of it is delivered. -/
structure Rendering where
  /-- What has been printed on the standard error. -/
  stderr : String
  project : Project
  deriving DecidableEq, Repr

/-- The reports on the layers that failed. -/
def failureReports (options : RenderOptions) (source : String) (project : Project) : List String :=
  project.failures.map fun (layer, failure) =>
    (Diagnostic.ofCodegenError layer failure source).report options.model source false

/-- Render a model with a backend. Failures are collected, so that each can be
    reported; what cannot be delivered is left at its reports. -/
def renderModel (logger : Logger) (options : RenderOptions) (source : String) (model : Model)
    (backend : Backend) : Except String Rendering := do
  let project ← (backend.emitModel model .keepGoing).mapError fun failure =>
    s!"error: {failure.message}\n"
  let logged := logger.text (backend.projectEvents model project)
  match failureReports options source project with
  | [] => return ⟨logged, project⟩
  | first :: rest =>
      if options.keepGoing then return ⟨logged ++ String.join (first :: rest), project⟩
      else throw (logged ++ first)

/-- Choose the backend for a model and render with it. -/
def renderWith (registry : Registry Builtin) (logger : Logger) (options : RenderOptions)
    (source : String) (model : Model) : Except String Rendering :=
  match registry.get ((options.backend <|> model.backend).getD defaultBackend) with
  | .error failure =>
      let diagnostic := (Diagnostic.error failure.message none).withHelp
        (Diagnostic.availableHelp registry.names)
      .error (diagnostic.report options.model source false)
  | .ok backend => renderModel logger options source model backend

/-- Render the model that a text describes. -/
def renderText (logger : Logger) (options : RenderOptions) (source : String) :
    Except String Rendering := do
  let model ← (Model.ofText source).mapError fun failure =>
    (Diagnostic.ofLoadError failure source).report options.model source false
  let registry ← builtinRegistry.mapError fun failure => s!"error: {failure.message}\n"
  let logged := logger.text registry.events
  match renderWith registry logger options source model with
  | .error stderr => throw (logged ++ stderr)
  | .ok rendering => return { rendering with stderr := logged ++ rendering.stderr }

variable {m : Type → Type} [Monad m]

/-- Print the project or write it to the file that was asked for. -/
def deliver (files : FileAccess m) (output : Option String) (rendering : Rendering) :
    m Outcome := do
  let exitCode := if rendering.project.failures.isEmpty then 0 else 1
  let text := rendering.project.toSource
  match output with
  | none => return ⟨exitCode, text, rendering.stderr⟩
  | some path =>
      match ← files.write path text with
      | .error reason =>
          return .failure (rendering.stderr ++ s!"error: cannot write '{path}': {reason.message}\n")
      | .ok () =>
          let count := rendering.project.layers.length
          let done := s!"Rendered {count} layers for {rendering.project.backend} -> {path}\n"
          return ⟨exitCode, "", rendering.stderr ++ done⟩

def render (files : FileAccess m) (logger : Logger) (options : RenderOptions) : m Outcome := do
  match ← files.read options.model with
  | .error reason =>
      return .failure s!"error: cannot read '{options.model}': {reason.message}\n"
  | .ok source =>
      match renderText logger options source with
      | .error stderr => return .failure stderr
      | .ok rendering => deliver files options.output rendering

/-- Carry out a command. -/
def Command.run (files : FileAccess m) (logger : Logger) : Command → m Outcome
  | .backends => return listBackends logger
  | .check => return listSupport logger
  | .render options => CommandLine.render files logger options

/-- A run with the filter of the environment and the arguments. -/
def run (files : FileAccess m) (environment : Option String) (arguments : List String) :
    m Outcome :=
  match Request.ofArguments arguments with
  | .run verbosity command => command.run files (.of environment verbosity)
  | .help => return { stdout := usage }
  | .version => return { stdout := versionText }
  | .invalid => return { exitCode := 2, stderr := usage }

end HlsEmit.CommandLine

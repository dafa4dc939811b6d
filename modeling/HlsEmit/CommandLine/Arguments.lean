/-! # Command-line arguments

A run is asked for one command, with options. Arguments are first taken for what
they look like, then counted and checked in order: the first that does not fit
decides, unless help or the version was asked for before it.
-/

namespace HlsEmit.CommandLine

/-- The options of all commands. -/
inductive Switch where
  | verbose
  | help
  | version
  | backend
  | output
  /-- Emit the layers that do not fail. -/
  | keepGoing
  deriving DecidableEq, Repr

namespace Switch

/-- The name after two dashes. -/
def longName : Switch → String
  | verbose => "verbose"
  | help => "help"
  | version => "version"
  | backend => "backend"
  | output => "output"
  | keepGoing => "keep-going"

/-- The letter after one dash. -/
def letter? : Switch → Option Char
  | verbose => some 'v'
  | help => some 'h'
  | version => some 'V'
  | backend => some 'b'
  | output => some 'o'
  | keepGoing => none

/-- Whether a value follows. -/
def takesValue : Switch → Bool
  | backend | output => true
  | _ => false

end Switch

/-- What an argument turns out to be. -/
inductive Item where
  /-- An option without value. -/
  | flag (switch : Switch)
  /-- An option and its value. -/
  | setting (switch : Switch) (value : String)
  /-- Anything but an option. -/
  | plain (text : String)
  /-- An unknown option, a value too many or a missing one. -/
  | invalid
  deriving DecidableEq, Repr

/-- Whether the argument is meant as an option. -/
def isOption (argument : String) : Bool :=
  argument.startsWith "-" && argument ≠ "-"

/-- The options in a group of letters, and the one that waits for its value. -/
def groupItems (switches : List Switch) : List Char → List Item × Option Switch
  | [] => ([], none)
  | letter :: rest =>
      match switches.find? fun switch => switch.letter? = some letter with
      | none => ([.invalid], none)
      | some switch =>
          if switch.takesValue then
            match rest with
            | [] => ([], some switch)
            | '=' :: value => ([.setting switch (String.ofList value)], none)
            | value => ([.setting switch (String.ofList value)], none)
          else
            let (items, waiting) := groupItems switches rest
            (.flag switch :: items, waiting)

/-- The option with a long name, and whether it waits for its value. -/
def longItems (switches : List Switch) (text : List Char) : List Item × Option Switch :=
  let name := String.ofList (text.takeWhile (· ≠ '='))
  match switches.find? (·.longName = name), text.dropWhile (· ≠ '=') with
  | none, _ => ([.invalid], none)
  | some switch, [] =>
      if switch.takesValue then ([], some switch) else ([.flag switch], none)
  | some switch, _ :: value =>
      if switch.takesValue then ([.setting switch (String.ofList value)], none)
      else ([.invalid], none)

/-- What an argument that is meant as an option stands for. -/
def optionItems (switches : List Switch) (argument : String) : List Item × Option Switch :=
  match argument.toList with
  | '-' :: '-' :: name => longItems switches name
  | '-' :: group => groupItems switches group
  | _ => ([.invalid], none)

/-- What the arguments stand for, where an option may be waiting for its value.
    After two dashes nothing is an option. -/
def items (switches : List Switch) : Option Switch → List String → List Item
  | none, [] => []
  | some _, [] => [.invalid]
  | some switch, argument :: rest =>
      if isOption argument then [.invalid]
      else .setting switch argument :: items switches none rest
  | none, argument :: rest =>
      if argument = "--" then rest.map .plain
      else if isOption argument then
        let (given, waiting) := optionItems switches argument
        given ++ items switches waiting rest
      else .plain argument :: items switches none rest

structure RenderOptions where
  model : String
  /-- The backend to use instead of the model's own. -/
  backend : Option String := none
  /-- The file for the generated code; without one it is printed. -/
  output : Option String := none
  /-- Whether to emit the layers that do not fail. -/
  keepGoing : Bool := false
  deriving DecidableEq, Repr

inductive Command where
  | backends
  /-- List what every backend supports. -/
  | check
  | render (options : RenderOptions)
  deriving DecidableEq, Repr

/-- What the arguments ask for. -/
inductive Request where
  /-- Carry out a command, with this much detail in the log. -/
  | run (verbosity : Nat) (command : Command)
  | help
  | version
  | invalid
  deriving DecidableEq, Repr

/-- The options and arguments of a command, as far as they have been read. -/
structure Settings where
  /-- How often more detail was asked for. -/
  verbosity : Nat := 0
  /-- The argument that is no option. -/
  model : Option String := none
  backend : Option String := none
  output : Option String := none
  /-- Whether to emit the layers that do not fail. -/
  keepGoing : Bool := false
  deriving DecidableEq, Repr

namespace Settings

/-- The settings after one more item, or the request that ends the reading. Only
    the verbosity may be set twice, and paths are not empty. -/
def add (settings : Settings) : Item → Except Request Settings
  | .flag .verbose => .ok { settings with verbosity := settings.verbosity + 1 }
  | .flag .help => .error .help
  | .flag .version => .error .version
  | .flag .keepGoing =>
      if settings.keepGoing then .error .invalid else .ok { settings with keepGoing := true }
  | .setting .backend name =>
      if settings.backend.isSome then .error .invalid
      else .ok { settings with backend := some name }
  | .setting .output path =>
      if settings.output.isSome ∨ path = "" then .error .invalid
      else .ok { settings with output := some path }
  | .plain text =>
      if settings.model.isSome ∨ text = "" then .error .invalid
      else .ok { settings with model := some text }
  | _ => .error .invalid

def ofItems (items : List Item) : Except Request Settings :=
  items.foldlM add {}

end Settings

def commandNames : List String := ["backends", "check", "render", "help"]

/-- The command of that name and the settings for it. -/
def readCommand (name : String) (arguments : List String) : Except Request (Nat × Command) := do
  match name with
  | "render" =>
      let settings ← Settings.ofItems
        (items [.verbose, .help, .backend, .output, .keepGoing] none arguments)
      match settings.model with
      | none => .error .invalid
      | some model =>
          return (settings.verbosity, .render {
            model := model
            backend := settings.backend
            output := settings.output
            keepGoing := settings.keepGoing })
  | "backends" | "check" =>
      let settings ← Settings.ofItems (items [.verbose, .help] none arguments)
      if settings.model.isSome then .error .invalid
      else return (settings.verbosity, if name = "check" then .check else .backends)
  | "help" =>
      match arguments with
      | [] => .error .help
      | [about] => .error (if about ∈ commandNames then .help else .invalid)
      | _ => .error .invalid
  | _ => .error .invalid

/-- What the arguments ask for, after options that count for every command. Where
    more detail is asked for on both sides of the command, the later side counts. -/
def requestAfter (settings : Settings) : List String → Except Request (Nat × Command)
  | [] => .error .invalid
  | argument :: rest =>
      if isOption argument then do
        let (given, _) := optionItems [.verbose, .help, .version] argument
        requestAfter (← given.foldlM Settings.add settings) rest
      else do
        let (verbosity, command) ← readCommand argument rest
        return (if verbosity = 0 then settings.verbosity else verbosity, command)

/-- What the arguments ask for. -/
def Request.ofArguments (arguments : List String) : Request :=
  match requestAfter {} arguments with
  | .ok (verbosity, command) => .run verbosity command
  | .error request => request

end HlsEmit.CommandLine

import HlsEmit.Log.Event
import HlsEmit.Text.CaseMap

/-! # Log filters

A filter is a list of directives. Each sets the level for the modules whose names
begin with its target; the most specific one that fits an event decides.
-/

namespace HlsEmit.Log

/-- The least urgent level that is shown, or none if nothing is. -/
abbrev Limit := Option Level

namespace Limit

/-- Every limit, from nothing to everything. -/
def all : List Limit :=
  [none, some .error, some .warn, some .info, some .debug, some .trace]

def name : Limit → String
  | none => "off"
  | some .error => "error"
  | some .warn => "warn"
  | some .info => "info"
  | some .debug => "debug"
  | some .trace => "trace"

/-- The limit of that name, in any case, or of that number. -/
def ofText? (text : String) : Option Limit :=
  if text ≠ "" ∧ text.toList.all Char.isDigit then
    all[text.toList.foldl (fun number digit => number * 10 + (digit.toNat - '0'.toNat)) 0]?
  else all.find? fun limit => limit.name = Text.foldAscii text

/-- Whether events of the level are shown. -/
def admits (limit : Limit) (level : Level) : Bool :=
  match limit with
  | none => false
  | some least => level.detail ≤ least.detail

end Limit

/-- Why a text is no filter. -/
inductive FilterError where
  /-- A directive has no target before its equals sign. -/
  | noTarget
  /-- A directive has no level after its equals sign. -/
  | unknownLevel
  deriving DecidableEq, Repr

/-- The error in words. -/
def FilterError.message : FilterError → String
  | noTarget => "invalid log filter: invalid filter directive"
  | unknownLevel =>
      "invalid log filter: error parsing level filter: expected one of \"off\", \"error\", " ++
        "\"warn\", \"info\", \"debug\", \"trace\", or a number 0-5"

/-- The limit for a part of the program. -/
structure Directive where
  /-- How the names of the modules begin; none stands for all modules. -/
  target : Option String
  limit : Limit
  deriving DecidableEq, Repr

namespace Directive

/-- Read a directive. A missing level admits everything, and a word that is no
    level is a target. -/
def parse (text : String) : Except FilterError Directive :=
  let target := text.toList.takeWhile (· ≠ '=')
  match text.toList.dropWhile (· ≠ '=') with
  | [] =>
      match Limit.ofText? text with
      | some limit => .ok ⟨none, limit⟩
      | none => .ok ⟨some text, some .trace⟩
  | _ :: level =>
      if target.isEmpty then .error .noTarget
      else if level.isEmpty then .ok ⟨some (String.ofList target), some .trace⟩
      else
        match Limit.ofText? (String.ofList level) with
        | some limit => .ok ⟨some (String.ofList target), limit⟩
        | none => .error .unknownLevel

/-- The written form of the directive. -/
def text (directive : Directive) : String :=
  match directive.target with
  | none => directive.limit.name
  | some target => s!"{target}={directive.limit.name}"

/-- Whether the directive is about the module. -/
def covers (directive : Directive) (module : String) : Bool :=
  match directive.target with
  | none => true
  | some target => target.toList.isPrefixOf module.toList

/-- Whether the directive is the more specific one: the longer target comes first,
    of two equally long ones the later in the alphabet, and last that of all
    modules. -/
def precedes (directive other : Directive) : Bool :=
  match directive.target, other.target with
  | none, _ => false
  | some _, none => true
  | some target, some target' =>
      target'.utf8ByteSize < target.utf8ByteSize ||
        target.utf8ByteSize == target'.utf8ByteSize && target' < target

end Directive

/-- Directives, the most specific first, with at most one for each target. -/
structure Filter where
  directives : List Directive := []
  deriving DecidableEq, Repr

namespace Filter

/-- Put a directive in its place. It replaces the one for the same target. -/
def insertInto (directive : Directive) : List Directive → List Directive
  | [] => [directive]
  | other :: rest =>
      if directive.target = other.target then directive :: rest
      else if directive.precedes other then directive :: other :: rest
      else other :: insertInto directive rest

/-- The filter of the directives; of two for one target the later counts. -/
def ofDirectives (directives : List Directive) : Filter where
  directives := directives.foldl (fun sorted directive => insertInto directive sorted) []

/-- Read a filter: directives between commas. -/
def parse (text : String) : Except FilterError Filter :=
  (((text.splitOn ",").filter (· ≠ "")).mapM Directive.parse).map ofDirectives

/-- The written form of the filter. -/
def text (filter : Filter) : String :=
  ",".intercalate (filter.directives.map Directive.text)

/-- Whether the event is shown. -/
def shows (filter : Filter) (event : Event) : Bool :=
  match filter.directives.find? (·.covers event.target) with
  | some directive => directive.limit.admits event.level
  | none => false

/-- The limit for all modules when a run is asked for this much detail. -/
def defaultLimit : Nat → Limit
  | 0 => some .warn
  | 1 => some .debug
  | _ => some .trace

/-- The filter of the environment if it has a valid one, and else that of the
    detail asked for. -/
def ofEnvironment (environment : Option String) (verbosity : Nat) : Filter :=
  match environment.map parse with
  | some (.ok filter) => filter
  | _ => ofDirectives [⟨none, defaultLimit verbosity⟩]

/-- The filter of explicit directives if there are any, and else that of the
    environment. -/
def resolve (directives environment : Option String) (verbosity : Nat) :
    Except FilterError Filter :=
  match directives with
  | some text => parse text
  | none => .ok (ofEnvironment environment verbosity)

end Filter

end HlsEmit.Log

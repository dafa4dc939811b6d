import HlsEmit.Text.Quoted

/-! # Log events

What a run may report beside its result: an event has a level, the module it
comes from, a message and fields. Functions that would log state their events
separately, so their results do not depend on what is shown.
-/

namespace HlsEmit.Log

/-- How urgent an event is. -/
inductive Level where
  | error
  | warn
  | info
  | debug
  | trace
  deriving DecidableEq, Repr

/-- The name of the level in log lines. -/
def Level.label : Level → String
  | .error => "ERROR"
  | .warn => "WARN"
  | .info => "INFO"
  | .debug => "DEBUG"
  | .trace => "TRACE"

/-- How much detail the level stands for; the most urgent one counts one. -/
def Level.detail : Level → Nat
  | .error => 1
  | .warn => 2
  | .info => 3
  | .debug => 4
  | .trace => 5

/-- Something worth reporting. -/
structure Event where
  level : Level
  target : String
  message : String
  /-- The names and the written values of its fields. -/
  fields : List (String × String)
  deriving DecidableEq, Repr

namespace Event

/-- A backend has been put together. -/
def backendBuilt (backend : String) (templates : Nat) : Event where
  level := .debug
  target := "hlsgen::backends"
  message := "backend built"
  fields := [("backend", backend), ("templates", toString templates)]

/-- A backend has been added to a registry. -/
def registered (name dialect : String) : Event where
  level := .debug
  target := "hlsgen::backends::registry"
  message := "registered"
  fields := [("backend", Text.quoted name), ("dialect", dialect)]

/-- A layer is handed to a template. -/
def format (backend template layer : String) : Event where
  level := .debug
  target := "hlsgen::backends"
  message := "format"
  fields := [("backend", backend), ("template", Text.quoted template), ("layer", layer)]

/-- A template fills its body. -/
def rendering (template layer : String) (params : Nat) : Event where
  level := .trace
  target := "hlsgen::template"
  message := "rendering"
  fields := [("template", template), ("layer", layer), ("params", toString params)]

/-- A layer that cannot be formatted is left out. -/
def skippingLayer (layer error : String) : Event where
  level := .warn
  target := "hlsgen::emit"
  message := "skipping layer"
  fields := [("layer", layer), ("error", error)]

/-- A project has been emitted. -/
def emitted (backend : String) (layers failures : Nat) : Event where
  level := .debug
  target := "hlsgen::emit"
  message := "emitted"
  fields :=
    [("backend", Text.quoted backend), ("layers", toString layers),
      ("failures", toString failures)]

/-- The line of an event, whose time is written `T`. The module is shown on
    request. -/
def line (event : Event) (showTarget : Bool) : String :=
  let label := event.level.label
  let padding := String.ofList (List.replicate (5 - label.length) ' ')
  let target := if showTarget then event.target ++ ": " else ""
  let fields := event.fields.map fun field => " " ++ field.1 ++ "=" ++ field.2
  "T " ++ padding ++ label ++ " " ++ target ++ event.message ++ String.join fields

end Event

end HlsEmit.Log

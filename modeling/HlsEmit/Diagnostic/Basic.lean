/-! # Diagnostics

What is reported about a model description: a message, the place in the text it
is about, and advice.
-/

namespace HlsEmit

/-- How bad the reported fact is. -/
inductive Severity where
  | error
  | warning
  deriving DecidableEq, Repr

/-- A range of offsets, without its end. -/
structure Span where
  start : Nat
  /-- The offset after the last one. -/
  stop : Nat
  deriving DecidableEq, Repr

/-- A report on a model description. -/
structure Diagnostic where
  severity : Severity
  message : String
  /-- The bytes of the description it is about, where they are known. -/
  span : Option Span := none
  notes : List String := []
  /-- What to do about it. -/
  help : Option String := none
  deriving DecidableEq, Repr

namespace Diagnostic

def error (message : String) (span : Option Span) : Diagnostic where
  severity := .error
  message := message
  span := span

/-- A diagnostic of something that is no error. -/
def warning (message : String) (span : Option Span) : Diagnostic where
  severity := .warning
  message := message
  span := span

/-- Add a note after those there are. -/
def withNote (diagnostic : Diagnostic) (note : String) : Diagnostic :=
  { diagnostic with notes := diagnostic.notes ++ [note] }

/-- Set the help, which replaces any there is. -/
def withHelp (diagnostic : Diagnostic) (help : String) : Diagnostic :=
  { diagnostic with help := some help }

end Diagnostic

end HlsEmit

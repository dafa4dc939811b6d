/-! # Template roles

A backend attaches up to four texts to a layer, one per role. Each role comes
with structural parameters that every template of the role may use.
-/

namespace HlsEmit

/-- What a template emits. -/
inductive Role where
  /-- The declaration of a configuration struct. -/
  | config
  | call
  /-- The registration of a dataflow stage. -/
  | taskSequence
  /-- The statement that starts a registered stage. -/
  | streamCall
  deriving DecidableEq, Repr

namespace Role

/-- Every role, in role order. -/
def all : List Role := [config, call, taskSequence, streamCall]

/-- The name of the role in messages and template names. -/
def name : Role → String
  | config => "config"
  | call => "call"
  | taskSequence => "task_sequence"
  | streamCall => "stream_call"

def ofName? (text : String) : Option Role := all.find? (·.name = text)

/-- The role as the debugging text of a template shows it. -/
def debugName : Role → String
  | config => "Config"
  | call => "Call"
  | taskSequence => "TaskSequence"
  | streamCall => "StreamCall"

/-- The parameters that every template of the role may use. -/
def structuralNames : Role → List String
  | config => ["index", "name", "iotype", "reuse"]
  | call =>
      ["index", "name", "iotype", "reuse", "config", "input_t", "output_t", "input", "output"]
  | taskSequence =>
      ["index", "name", "iotype", "reuse", "config", "input_t", "output_t", "input_pipe",
        "output_pipe"]
  | streamCall => ["index", "name", "config"]

end Role

end HlsEmit

/-! # Dialects

The flavours of generated code. A dialect decides which bodies and which rewrites
a backend uses.
-/

namespace HlsEmit

/-- A flavour of generated code. -/
inductive Dialect where
  /-- Plain constants in the configuration and either channel layout. -/
  | vivado
  /-- Call style, channels last only. -/
  | quartus
  /-- Call style and dataflow stages, channels last only. -/
  | oneApi
  deriving DecidableEq, Repr

namespace Dialect

def all : List Dialect := [vivado, quartus, oneApi]

/-- The name of the dialect in messages. -/
def name : Dialect → String
  | vivado => "vivado"
  | quartus => "quartus"
  | oneApi => "oneapi"

def ofName? (text : String) : Option Dialect := all.find? (·.name = text)

/-- The dialect as the debugging text of a backend shows it. -/
def debugName : Dialect → String
  | vivado => "Vivado"
  | quartus => "Quartus"
  | oneApi => "OneApi"

/-- Whether the dialect can register dataflow stages. -/
def hasDataflow (dialect : Dialect) : Bool := dialect = oneApi

end Dialect

end HlsEmit

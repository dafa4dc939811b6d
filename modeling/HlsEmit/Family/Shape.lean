import HlsEmit.Template.Body

/-! # Shapes of generated code

The built-in bodies have few shapes: configuration structs made of lines, calls,
stage registrations and stage starts. Each shape is a list of segments, and the
text of a body is the written form of its segments.
-/

namespace HlsEmit

/-- One line of a configuration struct. -/
inductive ConfigLine where
  | blank
  /-- A constant whose value is a placeholder, behind a fixed scope. -/
  | constant (type name scope source : String)
  /-- A constant with a fixed value. -/
  | fixed (type name value : String)
  /-- An alias for the type that the layer gives under the same name. -/
  | typeName (type : String)
  /-- The product used for weights, chosen by a placeholder. -/
  | product (source : String)
  deriving DecidableEq, Repr

namespace ConfigLine

def unsigned (name source : String) : ConfigLine := constant "unsigned" name "" source

/-- Unsigned constants named like their placeholders. -/
def sizes (names : List String) : List ConfigLine := names.map fun name => unsigned name name

/-- The segments of a line in a struct whose constants start with `storage`. -/
def segments (storage : String) : ConfigLine → List Segment
  | blank => [.literal "\n"]
  | constant type name scope source =>
      [.literal s!"    {storage} {type} {name} = {scope}", .placeholder source, .literal ";\n"]
  | fixed type name value => [.literal s!"    {storage} {type} {name} = {value};\n"]
  | typeName type =>
      [.literal "    typedef ", .placeholder (type ++ ".name"), .literal s!" {type};\n"]
  | product source =>
      [.literal "    template<class x_T, class y_T>\n    using product = nnet::product::",
        .placeholder source, .literal "<x_T, y_T>;\n"]

end ConfigLine

/-- A configuration struct. -/
structure ConfigStruct where
  base : String
  /-- What its constants start with. -/
  storage : String
  lines : List ConfigLine
  deriving DecidableEq, Repr

def ConfigStruct.segments (struct : ConfigStruct) : List Segment :=
  [.literal "struct config", .placeholder "index",
    .literal (s!" : nnet::{struct.base} " ++ "\x7b\n")] ++
  struct.lines.flatMap (ConfigLine.segments struct.storage) ++ [.literal "\x7d;\n"]

/-- The body of a configuration template. -/
def ConfigStruct.body (struct : ConfigStruct) : String :=
  TemplateBody.unparse struct.segments

namespace Invocation

/-- A placeholder with a comma in front. -/
def further (name : String) : List Segment := [.literal ", ", .placeholder name]

/-- A call of an operation on input, output and further arrays. -/
def callSegments (operation : List Segment) (arrays : List String) : List Segment :=
  [.literal "nnet::"] ++ operation ++ [.literal "<", .placeholder "input_t"] ++
  further "output_t" ++ further "config" ++ [.literal ">(", .placeholder "input"] ++
  further "output" ++ arrays.flatMap further ++ [.literal ");"]

/-- The registration of an operation as a stage between two pipes. -/
def stageSegments (operation : List Segment) : List Segment :=
  [.literal "task_sequence<nnet::"] ++ operation ++
  [.literal "_stream<", .placeholder "input_pipe"] ++ further "output_pipe" ++ further "config" ++
  [.literal ">>(", .placeholder "name", .literal ");"]

/-- The start of a stage without arrays. -/
def startSegments : List Segment := [.placeholder "name", .literal ".async();"]

/-- The start of a stage that is given two arrays. -/
def startWithSegments (first second : String) : List Segment :=
  [.placeholder "name", .literal ".async(", .placeholder first] ++ further second ++
  [.literal ");"]

def call (operation : List Segment) (arrays : List String) : String :=
  TemplateBody.unparse (callSegments operation arrays)

def stage (operation : List Segment) : String :=
  TemplateBody.unparse (stageSegments operation)

/-- The body of a start template without arrays. -/
def start : String := TemplateBody.unparse startSegments

/-- The body of a start template with two arrays. -/
def startWith (first second : String) : String :=
  TemplateBody.unparse (startWithSegments first second)

end Invocation

end HlsEmit

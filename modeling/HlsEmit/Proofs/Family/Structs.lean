import HlsEmit.Proofs.Template.Rendering
import Mathlib.Data.List.Nodup

/-! # Texts of configuration structs

The text of a struct is an opening that names the layer, the texts of its lines one
after the other, and a closing. So the line of a constant shows the value of its
placeholder. Where no two lines are for the same name, that is all that the struct
says about the name.
-/

namespace HlsEmit

/-- What the line declares. -/
def ConfigLine.name? : ConfigLine → Option String
  | blank => none
  | constant _ name _ _ | fixed _ name _ => some name
  | typeName type => some type
  | product _ => some "product"

namespace ConfigStruct

/-- The text of lines in the struct where the placeholders have the given values. -/
def linesText (struct : ConfigStruct) (values : String → String) (lines : List ConfigLine) :
    String :=
  String.join ((lines.flatMap (ConfigLine.segments struct.storage)).map (Segment.textWith values))

/-- The text of the struct up to its lines. -/
def openingText (struct : ConfigStruct) (values : String → String) : String :=
  "struct config" ++ values "index" ++ " : nnet::" ++ struct.base ++ " \x7b\n"

variable {struct : ConfigStruct} {values : String → String}

theorem openingText_eq : struct.openingText values =
    "struct config" ++ values "index" ++ " : nnet::" ++ struct.base ++ " \x7b\n" := rfl

theorem linesText_append (front back : List ConfigLine) :
    struct.linesText values (front ++ back) =
      struct.linesText values front ++ struct.linesText values back := by
  rw [linesText, List.flatMap_append, List.map_append, String.join_append]
  rfl

theorem linesText_constant (type name scope source : String) (rest : List ConfigLine) :
    struct.linesText values (ConfigLine.constant type name scope source :: rest) =
      "    " ++ struct.storage ++ " " ++ type ++ " " ++ name ++ " = " ++ scope ++ values source ++
        ";\n" ++ struct.linesText values rest := by
  have head : ConfigLine.segments struct.storage (ConfigLine.constant type name scope source) =
      [.literal ("    " ++ struct.storage ++ " " ++ type ++ " " ++ name ++ " = " ++ scope),
        .placeholder source, .literal ";\n"] := rfl
  rw [linesText, List.flatMap_cons, List.map_append, String.join_append, head]
  simp only [List.map_cons, List.map_nil, String.join_cons, String.join_nil, Segment.textWith,
    String.append_empty, String.append_assoc]
  rfl

theorem linesText_unsigned (name source : String) (rest : List ConfigLine) :
    struct.linesText values (ConfigLine.unsigned name source :: rest) =
      "    " ++ struct.storage ++ " unsigned " ++ name ++ " = " ++ values source ++ ";\n" ++
        struct.linesText values rest := by
  have typed : " unsigned " = " " ++ "unsigned" ++ " " := rfl
  rw [ConfigLine.unsigned, linesText_constant, String.append_empty, typed]
  simp only [String.append_assoc]

theorem join_segments_eq : String.join (struct.segments.map (Segment.textWith values)) =
    struct.openingText values ++ struct.linesText values struct.lines ++ "\x7d;\n" := by
  have opening : (s!" : nnet::{struct.base} " ++ "\x7b\n") =
      " : nnet::" ++ (struct.base ++ " \x7b\n") := by
    change " : nnet::" ++ struct.base ++ " " ++ "\x7b\n" = _
    rw [String.append_assoc, String.append_assoc]
    rfl
  simp only [segments, opening]
  simp [Segment.textWith, openingText_eq, linesText, String.append_assoc]

/-- The text is that of the struct, and the line of the constant shows the value. -/
def Prints (struct : ConfigStruct) (text name value : String) : Prop :=
  ∃ values source before after, struct.lines = before ++ ConfigLine.unsigned name source :: after ∧
    text = struct.openingText values ++ struct.linesText values before ++
      "    " ++ struct.storage ++ " unsigned " ++ name ++ " = " ++ value ++ ";\n" ++
      struct.linesText values after ++ "\x7d;\n"

theorem prints_of_mem {name source : String} (values : String → String)
    (line : ConfigLine.unsigned name source ∈ struct.lines) :
    struct.Prints (String.join (struct.segments.map (Segment.textWith values))) name
      (values source) := by
  obtain ⟨before, after, shape⟩ := List.append_of_mem line
  refine ⟨values, source, before, after, shape, ?_⟩
  rw [join_segments_eq, shape, linesText_append, linesText_unsigned]
  simp only [String.append_assoc]

/-- The text is that of the struct with the values, and its only line for the name declares a
    constant of the type that is shown as the text. -/
def Declares (struct : ConfigStruct) (values : String → String) (text type name shown : String) :
    Prop :=
  ∃ scope source before after,
    struct.lines = before ++ ConfigLine.constant type name scope source :: after ∧
    (∀ line ∈ before ++ after, line.name? ≠ some name) ∧
    shown = scope ++ values source ∧
    text = struct.openingText values ++ struct.linesText values before ++
      ("    " ++ struct.storage ++ " " ++ type ++ " " ++ name ++ " = " ++ shown ++ ";\n") ++
      struct.linesText values after ++ "\x7d;\n"

theorem declares_of_mem {type name scope source : String} (values : String → String)
    (distinct : (struct.lines.filterMap ConfigLine.name?).Nodup)
    (line : ConfigLine.constant type name scope source ∈ struct.lines) :
    struct.Declares values (String.join (struct.segments.map (Segment.textWith values))) type name
      (scope ++ values source) := by
  obtain ⟨before, after, shape⟩ := List.append_of_mem line
  refine ⟨scope, source, before, after, shape, ?_, rfl, ?_⟩
  · have named : (ConfigLine.constant type name scope source).name? = some name := rfl
    rw [shape, List.filterMap_append, List.filterMap_cons_some named, List.nodup_middle,
      ← List.filterMap_append] at distinct
    intro other inside same
    exact (List.nodup_cons.mp distinct).1 (List.mem_filterMap.mpr ⟨other, inside, same⟩)
  · rw [join_segments_eq, shape, linesText_append, linesText_constant]
    simp only [String.append_assoc]

theorem placeholder_mem_segments {type name scope source : String}
    (line : ConfigLine.constant type name scope source ∈ struct.lines) :
    .placeholder source ∈ struct.segments := by
  have inside : .placeholder source ∈
      ConfigLine.segments struct.storage (.constant type name scope source) := by
    simp [ConfigLine.segments]
  rw [segments]
  exact List.mem_append_left _ (List.mem_append_right _ (List.mem_flatMap_of_mem line inside))

/-- A text of the struct declares every constant of the struct, with the value that the
    parameters have for its placeholder. -/
theorem exists_declares_of_render {params : Params} {text : String}
    (distinct : (struct.lines.filterMap ConfigLine.name?).Nodup)
    (rendered : TemplateBody.render ⟨struct.segments⟩ params = .ok text) :
    ∃ values : String → String, ∀ type name scope source,
      ConfigLine.constant type name scope source ∈ struct.lines →
        params.find? source = some (values source) ∧
          struct.Declares values text type name (scope ++ values source) := by
  obtain ⟨values, bound, rfl⟩ := TemplateBody.render_eq_ok_iff.mp rendered
  refine ⟨values, fun type name scope source line => ⟨?_, ?_⟩⟩
  · exact bound source (placeholder_mem_segments line)
  · exact declares_of_mem values distinct line

end ConfigStruct

end HlsEmit

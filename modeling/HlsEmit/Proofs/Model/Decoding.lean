import HlsEmit.Model.Load
import HlsEmit.Proofs.Model.Description
import HlsEmit.Proofs.Model.Loading
import Mathlib

/-! # Descriptions are decoded

A text that describes a model is loaded as that model, however the description is
ordered, spaced and spelled.
-/

namespace HlsEmit

open Json

variable {α β : Type}

theorem Table.ofList_of_perm {table : Table α} {pairs : List (String × α)}
    (same : pairs.Perm table.entries) : Table.ofList pairs = table := by
  apply Table.ext
  intro name
  rw [ofList, find?_insertAll, find?_empty, Option.or_none]
  apply Option.ext
  intro value
  rw [find?_eq_some_iff, Option.map_eq_some_iff]
  have members : ∀ pair, pair ∈ pairs.reverse ↔ pair ∈ table.entries := fun pair =>
    List.mem_reverse.trans same.mem_iff
  constructor
  · rintro ⟨⟨key, _⟩, found, rfl⟩
    obtain rfl : key = name := by simpa using List.find?_some found
    exact (members _).mp (List.mem_of_find?_eq_some found)
  · intro held
    cases found : pairs.reverse.find? (·.1 = name) with
    | none => exact absurd (List.find?_eq_none.mp found _ ((members _).mpr held)) (by simp)
    | some pair =>
        obtain ⟨key, other⟩ := pair
        obtain rfl : key = name := by simpa using List.find?_some found
        have inside := (members _).mp (List.mem_of_find?_eq_some found)
        have same := (find?_eq_some_iff.mpr inside).symm.trans (find?_eq_some_iff.mpr held)
        exact ⟨_, rfl, Option.some.inj same⟩

theorem IoStyle.ofName?_name (style : IoStyle) : ofName? style.name = some style := by
  cases style <;> decide

/-- The value of a field if its key was read, and a blank before that. -/
def ifRead (keys : List String) (key : String) (given blank : α) : α :=
  if key ∈ keys then given else blank

section

variable {keys : List String} {key other : String} {given blank : α}

@[simp] theorem ifRead_nil : ifRead [] key given blank = blank := by simp [ifRead]

@[simp] theorem ifRead_cons_self : ifRead (key :: keys) key given blank = given := by
  simp [ifRead]

@[simp] theorem ifRead_cons_of_ne (differ : other ≠ key) :
    ifRead (other :: keys) key given blank = ifRead keys key given blank := by
  simp [ifRead, differ.symm]

theorem ifRead_eq (complete : key ∈ keys ∨ given = blank) :
    ifRead keys key given blank = given := by
  rcases complete with inside | default
  · exact if_pos inside
  · rw [ifRead, default, ite_self]

end

theorem readsField {known : List String → α} {key : String} {required : Bool} {optional : Prop}
    {admits : Value → Prop} {reader : Reader β} {set : α → β → α} {b : β}
    (demanded : required → ¬optional) (decodes : ∀ value, admits value → Decodes reader value b)
    (grows : ∀ keys, set (known keys) b = known (key :: keys)) :
    ReadsField known { key, required, read := fun record => return set record (← reader) }
      ⟨key, optional, admits⟩ where
  key := rfl
  required := demanded
  reads := by
    intro keys value admitted text space rest written isSpace boundary
    rw [← grows]
    exact Reader.run_bind_of_ok (decodes value admitted written isSpace boundary)

theorem decodes_text {text : String} {value : Value} (isText : IsText text value) :
    Decodes Reader.string value text := by
  obtain rfl := isText
  exact decodes_string text

theorem decodes_optionForm {admits : α → Value → Prop} {item : Reader α} {a? : Option α}
    {value : Value} (decodes : ∀ a, admits a value → Decodes item value a)
    (given : ∀ a, ¬admits a .null) (isNullOr : IsNullOr admits a? value) :
    Decodes (Reader.optional item) value a? := by
  cases a? with
  | none =>
      obtain rfl := isNullOr
      exact decodes_optional_null item
  | some a =>
      apply decodes_optional (decodes a isNullOr)
      rintro rfl
      exact given a isNullOr

theorem decodes_tableForm {admits : α → Value → Prop} {item : Reader (Except Rejection α)}
    {table : Table α} {value : Value}
    (decodes : ∀ a value, admits a value → Decodes item value (.ok a))
    (isTable : IsTable admits table value) : Decodes (Reader.map item) value table := by
  obtain ⟨same, describe⟩ := isTable
  rw [← Table.ofList_of_perm same]
  apply decodes_map
  exact describe.imp fun entry pair describes => ⟨describes.1, decodes _ _ describes.2⟩

theorem readsField_text {known : List String → α} {key text : String} {required : Bool}
    {optional : Prop} {set : α → String → α} (demanded : required → ¬optional)
    (grows : ∀ keys, set (known keys) text = known (key :: keys)) :
    ReadsField known (Model.textField key required set) ⟨key, optional, IsText text⟩ :=
  readsField demanded (fun _ => decodes_text) grows

theorem readsField_optionalText {known : List String → α} {key : String} {text? : Option String}
    {set : α → Option String → α}
    (grows : ∀ keys, set (known keys) text? = known (key :: keys)) :
    ReadsField known (Model.optionalTextField key set) (optionForm key IsText text?) :=
  readsField (by simp)
    (fun _ => decodes_optionForm (fun _ => decodes_text) (by simp [IsText])) grows

namespace Precision

def known (precision : Precision) (keys : List String) : Precision where
  name := ifRead keys "name" precision.name ""
  precision := ifRead keys "precision" precision.precision ""

theorem reads (precision : Precision) :
    Model.precisionSchema.Reads precision.forms precision.known precision where
  blank := by simp [known, Model.precisionSchema]
  fields := by
    refine .cons ?name (.cons ?definition .nil)
    case name => exact readsField_text (by simp) (by simp [known])
    case definition => exact readsField_text (by simp) (by simp [known])
  other := by
    intro key keys other
    simp only [forms, List.map_cons, List.map_nil, List.mem_cons, List.not_mem_nil, not_or] at other
    simp [known, other]
  whole := by
    intro keys complete
    simp only [forms, List.forall_mem_cons] at complete
    obtain ⟨name, definition, -⟩ := complete
    rw [known, ifRead_eq (name.imp_right False.elim), ifRead_eq definition]

end Precision

namespace Variable

def known (tensor : Variable) (keys : List String) : Variable where
  name := ifRead keys "name" tensor.name ""
  elementType := ifRead keys "type" tensor.elementType ""
  pipe := ifRead keys "pipe" tensor.pipe none

theorem reads (tensor : Variable) :
    Model.variableSchema.Reads tensor.forms tensor.known tensor where
  blank := by simp [known, Model.variableSchema]
  fields := by
    refine .cons ?name (.cons ?elementType (.cons ?pipe .nil))
    case name => exact readsField_text (by simp) (by simp [known])
    case elementType => exact readsField_text (by simp) (by simp [known])
    case pipe => exact readsField_optionalText (by simp [known])
  other := by
    intro key keys other
    simp only [forms, optionForm, List.map_cons, List.map_nil, List.mem_cons, List.not_mem_nil,
      not_or] at other
    simp [known, other]
  whole := by
    intro keys complete
    simp only [forms, optionForm, List.forall_mem_cons] at complete
    obtain ⟨name, elementType, pipe, -⟩ := complete
    rw [known, ifRead_eq (name.imp_right False.elim), ifRead_eq (elementType.imp_right False.elim),
      ifRead_eq pipe]

end Variable

theorem decodes_variable {tensor? : Option Variable} {value : Value}
    (described : IsNullOr (fun tensor => IsRecord tensor.forms) tensor? value) :
    Decodes Model.readVariable value tensor? := by
  refine decodes_optionForm (fun tensor isRecord => tensor.reads.decodes isRecord) ?_ described
  rintro tensor ⟨⟩

theorem decodes_records {schema : Schema α} {forms : α → List FieldForm}
    {known : α → List String → α} (reads : ∀ a, schema.Reads (forms a) (known a) a)
    {table : Table α} {value : Value}
    (isTable : IsTable (fun a => IsRecord (forms a)) table value) :
    Decodes (Model.readRecords schema) value table := by
  refine decodes_tableForm ?_ isTable
  intro a value isRecord text space rest written isSpace boundary
  exact Reader.run_map_of_ok ((reads a).decodes isRecord written isSpace boundary)

theorem decodes_attribute (given : Attribute) (value : Value)
    (described : given.IsDescribedBy value) : Decodes Reader.attributeValue value (.ok given) := by
  cases given with
  | bool given =>
      obtain rfl := described
      exact decodes_attribute_bool given
  | int given =>
      obtain rfl := described
      exact decodes_attribute_int given
  | float => exact described.elim
  | text given =>
      obtain rfl := described
      exact decodes_attribute_text given

namespace Layer

def known (layer : Layer) (keys : List String) : Layer where
  name := ifRead keys "name" layer.name ""
  kind := ifRead keys "kind" layer.kind .input
  index := ifRead keys "index" layer.index 0
  input := ifRead keys "input" layer.input none
  output := ifRead keys "output" layer.output none
  attributes := ifRead keys "attributes" layer.attributes ∅
  types := ifRead keys "types" layer.types ∅
  weights := ifRead keys "weights" layer.weights ∅

theorem reads (layer : Layer) :
    Model.layerSchema.Reads layer.forms layer.known { layer with ioStyle := .parallel } where
  blank := by simp [known, Model.layerSchema]
  fields := by
    refine .cons ?name (.cons ?kind (.cons ?index (.cons ?input (.cons ?output
      (.cons ?attributes (.cons ?types (.cons ?weights .nil)))))))
    case name => exact readsField_text (by simp) (by simp [known])
    case kind =>
      have decodes : ∀ value, IsText layer.kind.name value →
          Decodes Model.readKind value layer.kind := by
        rintro _ rfl
        exact decodes_choice layer.kind.ofName?_name
      exact readsField (by simp) decodes (by simp [known])
    case index =>
      have decodes : ∀ value, value = .integer layer.index.toNat →
          Decodes Reader.unsigned32 value layer.index := by
        rintro _ rfl
        exact decodes_unsigned32 layer.index
      exact readsField (by simp) decodes (by simp [known])
    case input => exact readsField (by simp) (fun _ => decodes_variable) (by simp [known])
    case output => exact readsField (by simp) (fun _ => decodes_variable) (by simp [known])
    case attributes =>
      exact readsField (by simp) (fun _ => decodes_tableForm decodes_attribute) (by simp [known])
    case types =>
      exact readsField (by simp) (fun _ => decodes_records Precision.reads) (by simp [known])
    case weights =>
      exact readsField (by simp) (fun _ => decodes_records Variable.reads) (by simp [known])
  other := by
    intro key keys other
    simp only [forms, optionForm, tableForm, List.map_cons, List.map_nil, List.mem_cons,
      List.not_mem_nil, not_or] at other
    simp [known, other]
  whole := by
    intro keys complete
    simp only [forms, optionForm, tableForm, List.forall_mem_cons] at complete
    obtain ⟨name, kind, index, input, output, attributes, types, weights, -⟩ := complete
    rw [known, ifRead_eq (name.imp_right False.elim), ifRead_eq (kind.imp_right False.elim),
      ifRead_eq (index.imp_right False.elim), ifRead_eq input, ifRead_eq output,
      ifRead_eq attributes, ifRead_eq types, ifRead_eq weights]

end Layer

namespace Model

/-- The model as it is read, before its style of data passing reaches the layers. -/
def unstamped (model : Model) : Model :=
  { model with layers := model.layers.map fun layer => { layer with ioStyle := .parallel } }

def known (model : Model) (keys : List String) : Model where
  name := ifRead keys "name" model.name ""
  backend := ifRead keys "backend" model.backend none
  ioStyle := ifRead keys "io_type" model.ioStyle .parallel
  layers := ifRead keys "layers" model.unstamped.layers []

/-- The forms of the layers may be any that their schema reads. -/
theorem decodes_layerList {forms : Layer → List FieldForm} (reads : ∀ layer : Layer,
      layerSchema.Reads (forms layer) layer.known { layer with ioStyle := .parallel })
    {layers : List Layer} {values : List Value}
    (describe : List.Forall₂ (fun layer value => IsRecord (forms layer) value) layers values) :
    Decodes (Reader.sequence (Reader.record layerSchema)) (.list values)
      (layers.map fun layer => { layer with ioStyle := .parallel }) := by
  apply decodes_sequence
  rw [List.forall₂_map_right_iff]
  exact describe.flip.imp fun value layer isRecord => (reads layer).decodes isRecord

theorem decodes_layers {layers : List Layer} {value : Value} (areLayers : AreLayers layers value) :
    Decodes (Reader.sequence (Reader.record layerSchema)) value
      (layers.map fun layer => { layer with ioStyle := .parallel }) := by
  obtain ⟨describe⟩ := areLayers
  exact decodes_layerList Layer.reads describe

theorem reads (model : Model) : modelSchema.Reads model.forms model.known model.unstamped where
  blank := by simp [known, modelSchema]
  fields := by
    refine .cons ?name (.cons ?backend (.cons ?ioStyle (.cons ?layers .nil)))
    case name => exact readsField_text (by simp) (by simp [known])
    case backend => exact readsField_optionalText (by simp [known])
    case ioStyle =>
      have decodes : ∀ value, IsText model.ioStyle.name value →
          Decodes readIoStyle value model.ioStyle := by
        rintro _ rfl
        exact decodes_choice model.ioStyle.ofName?_name
      exact readsField (by simp) decodes (by simp [known])
    case layers => exact readsField (by simp) (fun _ => decodes_layers) (by simp [known, unstamped])
  other := by
    intro key keys other
    simp only [forms, optionForm, List.map_cons, List.map_nil, List.mem_cons, List.not_mem_nil,
      not_or] at other
    simp [known, other]
  whole := by
    intro keys complete
    simp only [forms, optionForm, List.forall_mem_cons] at complete
    obtain ⟨name, backend, ioStyle, layers, -⟩ := complete
    rw [known, ifRead_eq (name.imp_right False.elim), ifRead_eq backend, ifRead_eq ioStyle,
      ifRead_eq (layers.imp_right False.elim)]
    rfl

theorem ofDocument_of_decodes {value : Value} {text : String} {model : Model}
    (decodes : Decodes (Reader.record modelSchema) value model)
    (document : IsDocument value text.toList) : ofDocument text.toList = .ok model := by
  generalize text.toList = chars at document
  cases document with
  | @text before written after isBefore writes isAfter =>
      have boundary : IsBoundary after := by
        simpa using isBoundary_cons_of_isSpace isAfter (by simp [IsBoundary] : IsBoundary [])
      have read : readDocument.run (before ++ (written ++ after)) = .ok (model, []) := by
        rw [readDocument, Reader.run_bind_of_ok (decodes writes isBefore boundary),
          Reader.run_bind_of_ok (Reader.run_token?_end isAfter)]
        rfl
      rw [ofDocument, read]
      rfl

theorem ofDocument_of_isDescribedBy {model : Model} {text : String}
    (described : model.IsDescribedBy text) : ofDocument text.toList = .ok model.unstamped := by
  obtain ⟨value, isRecord, document⟩ := described
  exact ofDocument_of_decodes (model.reads.decodes isRecord) document

theorem checked_unstamped {model : Model} (loaded : model.IsLoaded) :
    model.unstamped.checked = .ok model := by
  have free : indexClash? [] model.unstamped.layers = none := by
    rw [indexClash?_eq_none_iff, unstamped, List.map_map]
    exact ⟨loaded.distinct, by simp⟩
  have stamped : model.unstamped.stampIoStyle = model := by
    have restored : ∀ layer ∈ model.layers,
        ({ layer with ioStyle := model.ioStyle } : Layer) = id layer := fun layer member =>
      congrArg (fun style => { layer with ioStyle := style }) (loaded.style layer member).symm
    rw [stampIoStyle, unstamped, List.map_map]
    exact congrArg (fun layers => { model with layers })
      ((List.map_congr_left restored).trans (List.map_id _))
  rw [checked, free, stamped]

/-- Every text that describes a model is loaded as that model. -/
theorem ofText_of_isDescribedBy {model : Model} {text : String} (loaded : model.IsLoaded)
    (described : model.IsDescribedBy text) : ofText text = .ok model := by
  rw [ofText, ofDocument_of_isDescribedBy described]
  exact checked_unstamped loaded

/-! A layer with escapes in its name, an attribute that reads like a number and the least
integer. Its keys come in another order, and one of them is none of a layer's. -/

def sampleLayer : Layer where
  name := "é\"😀"
  kind := .dense
  index := 7
  ioStyle := .stream
  attributes := Table.ofList [("bits", .text "16"), ("least", .int Int64.minValue)]

def sample : Model where
  name := "m"
  ioStyle := .stream
  layers := [sampleLayer]

def sampleText : String :=
  "\x7b\"layers\":[\x7b\"attributes\":\x7b\"least\":-9223372036854775808, \"bits\":\"16\"\x7d," ++
    "\"kind\":\"Dense\",\"io_type\":\"io_parallel\",\"index\":7,\"input\":null," ++
    "\"name\":\"\\u00e9\\\"\\uD83D\\ude00\"\x7d],\"backend\":null,\n\"name\":\"m\"," ++
    "\"io_type\":\"io_stream\"\x7d"

def sampleLayerValue : Value := .object [
  ("attributes", .object [("least", .integer (-9223372036854775808)), ("bits", .text "16")]),
  ("kind", .text "Dense"), ("io_type", .text "io_parallel"), ("index", .integer 7),
  ("input", .null), ("name", .text "é\"😀")]

def sampleValue : Value := .object [("layers", .list [sampleLayerValue]),
  ("backend", .null), ("name", .text "m"), ("io_type", .text "io_stream")]

theorem isRecord_sampleLayer : IsRecord sampleLayer.forms sampleLayerValue := by
  have attributes : IsTable Attribute.IsDescribedBy sampleLayer.attributes
      (.object [("least", .integer (-9223372036854775808)), ("bits", .text "16")]) :=
    .object (.swap _ _ _) (.cons ⟨rfl, rfl⟩ (.cons ⟨rfl, rfl⟩ .nil))
  refine .object ⟨?admitted, ?given, ?once, ?others⟩
  case admitted =>
    simpa [Layer.forms, optionForm, tableForm, sampleLayer, IsText, IsNullOr, LayerKind.name]
      using attributes
  case given => simp [Layer.forms, optionForm, tableForm, sampleLayer]
  case once => simp [Layer.forms, optionForm, tableForm]
  case others => simp [Layer.forms, optionForm, tableForm]

theorem isRecord_sample : IsRecord sample.forms sampleValue := by
  have layers : AreLayers sample.layers (.list [sampleLayerValue]) :=
    .list (.cons isRecord_sampleLayer .nil)
  refine .object ⟨?admitted, ?given, ?once, ?others⟩
  case admitted => simpa [forms, optionForm, sample, IsText, IsNullOr, IoStyle.name] using layers
  case given => simp [forms, optionForm, sample]
  case once => simp [forms, optionForm]
  case others => simp [forms, optionForm]

theorem quotes_sampleLayer : Quotes sampleLayer.name "\"\\u00e9\\\"\\uD83D\\ude00\"".toList := by
  have unit : IsHexUnit 0xE9 ['0', '0', 'e', '9'] :=
    @IsHexUnit.digits 0 0 14 9 _ _ _ _ (by decide) (by decide) (by decide) (by decide)
  have high : IsHexUnit 0xD83D ['D', '8', '3', 'D'] :=
    @IsHexUnit.digits 13 8 3 13 _ _ _ _ (by decide) (by decide) (by decide) (by decide)
  have low : IsHexUnit 0xDE00 ['d', 'e', '0', '0'] :=
    @IsHexUnit.digits 13 14 0 0 _ _ _ _ (by decide) (by decide) (by decide) (by decide)
  have accent : SpellsChar 'é' ('\\' :: 'u' :: ['0', '0', 'e', '9']) := .unit unit
  have quote : SpellsChar '"' ['\\', '"'] := .letter (by decide)
  have smile : SpellsChar '😀' ('\\' :: 'u' :: ['D', '8', '3', 'D'] ++
    '\\' :: 'u' :: ['d', 'e', '0', '0']) := .pair (by decide) high low
  exact @Quotes.marks sampleLayer.name _ (.cons accent (.cons quote (.cons smile .nil)))

theorem isDescribedBy_sampleText : sample.IsDescribedBy sampleText := by
  have start : Leads true [] := .first isSpace_nil
  have next : Leads false [','] := .comma isSpace_nil isSpace_nil
  have spaced : Leads false [',', ' '] := @Leads.comma [] [' '] isSpace_nil (by simp [IsSpace])
  have newLine : Leads false [',', '\n'] := @Leads.comma [] ['\n'] isSpace_nil (by simp [IsSpace])
  have attributes := Written.object
    (.item start (writtenEntry_of_plain "least" (by simp) (.integer (-9223372036854775808)))
    (.item spaced (writtenEntry_of_plain "bits" (by simp) (writtenText_of_plain "16" (by simp)))
    (.close isSpace_nil)))
  have layer := Written.object
    (.item start (writtenEntry_of_plain "attributes" (by simp) attributes)
    (.item next (writtenEntry_of_plain "kind" (by simp) (writtenText_of_plain "Dense" (by simp)))
    (.item next (writtenEntry_of_plain "io_type" (by simp)
      (writtenText_of_plain "io_parallel" (by simp)))
    (.item next (writtenEntry_of_plain "index" (by simp) (.integer 7))
    (.item next (writtenEntry_of_plain "input" (by simp) .null)
    (.item next (writtenEntry_of_plain "name" (by simp) (.text quotes_sampleLayer))
    (.close isSpace_nil)))))))
  have model := Written.object
    (.item start (writtenEntry_of_plain "layers" (by simp)
      (.list (.item start layer (.close isSpace_nil))))
    (.item next (writtenEntry_of_plain "backend" (by simp) .null)
    (.item newLine (writtenEntry_of_plain "name" (by simp) (writtenText_of_plain "m" (by simp)))
    (.item next (writtenEntry_of_plain "io_type" (by simp)
      (writtenText_of_plain "io_stream" (by simp)))
    (.close isSpace_nil)))))
  have document : IsDocument sampleValue _ := .text isSpace_nil model isSpace_nil
  refine ⟨sampleValue, isRecord_sample, ?_⟩
  convert document using 1
  decide +kernel

theorem ofText_sampleText :
    sample.IsLoaded ∧ sample.IsDescribedBy sampleText ∧ ofText sampleText = .ok sample := by
  have loaded : sample.IsLoaded := ⟨by simp [sample], by simp [sample, sampleLayer]⟩
  exact ⟨loaded, isDescribedBy_sampleText, ofText_of_isDescribedBy loaded isDescribedBy_sampleText⟩

end Model

end HlsEmit

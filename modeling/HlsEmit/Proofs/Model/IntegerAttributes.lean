import HlsEmit.Proofs.Json.Integers
import HlsEmit.Proofs.Model.Decoding
import Mathlib

/-! # Integers as attributes

An integer of any size may be written as the value of an attribute. A document that holds
such integers is loaded with the attributes that the reader makes of their literals: the
integers themselves up to 64 bits, and floating-point numbers beyond.
-/

namespace HlsEmit

open Json

/-- An integer stands for the attribute that is read for its literal. -/
def Attribute.IsWrittenAs (given : Attribute) : Value → Prop
  | .integer value => (IntegerLiteral.ofInt value).attribute? = some given
  | value => given.IsDescribedBy value

theorem decodes_writtenAttribute (given : Attribute) (value : Value)
    (written : given.IsWrittenAs value) : Decodes Reader.attributeValue value (.ok given) := by
  cases value with
  | integer value =>
      have kept : (IntegerLiteral.ofInt value).attribute? = some given := written
      intro text space rest writes isSpace boundary
      cases writes
      rw [← IntegerLiteral.text_ofInt, IntegerLiteral.run_attributeValue _ isSpace boundary, kept]
  | _ => exact decodes_attribute given _ written

namespace Layer

/-- The forms of a layer in whose attributes any integer may stand. -/
def writtenForms (layer : Layer) : List FieldForm :=
  withAdmitted "attributes" (IsTable Attribute.IsWrittenAs layer.attributes) layer.forms

theorem readsWritten (layer : Layer) :
    Model.layerSchema.Reads layer.writtenForms layer.known { layer with ioStyle := .parallel } := by
  have attributes : ∀ keys value, IsTable Attribute.IsWrittenAs layer.attributes value →
      Decodes (do return { layer.known keys with
        attributes := ← Reader.map Reader.attributeValue }) value
        (layer.known ("attributes" :: keys)) := by
    intro keys value isTable text space rest writes isSpace boundary
    have grows : layer.known ("attributes" :: keys) =
        { layer.known keys with attributes := layer.attributes } := by simp [known]
    rw [grows]
    exact Reader.run_bind_of_ok
      (decodes_tableForm decodes_writtenAttribute isTable writes isSpace boundary)
  exact layer.reads.withAdmitted (by simpa [Model.layerSchema, Model.textField] using attributes)

end Layer

namespace Model

/-- A list of objects, one for each layer in turn. -/
def AreWrittenLayers (layers : List Layer) (value : Value) : Prop :=
  ∃ values, value = .list values ∧
    List.Forall₂ (fun layer value => IsRecord layer.writtenForms value) layers values

def writtenForms (model : Model) : List FieldForm :=
  withAdmitted "layers" (AreWrittenLayers model.layers) model.forms

/-- The text is a document of the model, with integers of any size among its attributes. -/
def IsWrittenAs (model : Model) (text : String) : Prop :=
  ∃ value, IsRecord model.writtenForms value ∧ IsDocument value text.toList

theorem readsWritten (model : Model) :
    modelSchema.Reads model.writtenForms model.known model.unstamped := by
  have layers : ∀ keys value, AreWrittenLayers model.layers value →
      Decodes (do return { model.known keys with
        layers := ← Reader.sequence (Reader.record layerSchema) }) value
        (model.known ("layers" :: keys)) := by
    rintro keys _ ⟨values, rfl, describe⟩ text space rest writes isSpace boundary
    have grows : model.known ("layers" :: keys) =
        { model.known keys with layers := model.unstamped.layers } := by simp [known]
    rw [grows]
    exact Reader.run_bind_of_ok
      (decodes_layerList Layer.readsWritten describe writes isSpace boundary)
  exact model.reads.withAdmitted (by simpa [modelSchema, textField, optionalTextField] using layers)

/-- A document is loaded with the attributes that are read for its integers. -/
theorem ofText_of_isWrittenAs {model : Model} {text : String} (loaded : model.IsLoaded)
    (written : model.IsWrittenAs text) : ofText text = .ok model := by
  obtain ⟨value, isRecord, document⟩ := written
  rw [ofText, ofDocument_of_decodes (model.readsWritten.decodes isRecord) document]
  exact checked_unstamped loaded

/-- Literals of 64-bit integers keep their digits. Any other one keeps them if it is out of
    range or is the display of the floating-point number that it is loaded as. -/
theorem loads_integers (literal : IntegerLiteral) :
    (∀ space rest : List Char, IsSpace space → IsBoundary rest →
      Reader.attributeValue.run (space ++ (literal.text.toList ++ rest)) =
        match literal.attribute? with
        | some given => .ok (.ok given, rest)
        | none => .error ⟨.numberOutOfRange, Text.byteSize rest⟩) ∧
    (literal.IsNarrow → ∃ given, literal.attribute? = some given ∧
      given.render = literal.text) ∧
    ((∀ given, literal.attribute? = some given → given.render = literal.text) ↔
      literal.IsNarrow ∨ ∀ value, literal.float? = some value → value.positional = literal.text) ∧
    ∀ (model : Model) (text : String), model.IsLoaded → model.IsWrittenAs text →
      ofText text = .ok model := by
  refine ⟨?read, ?narrow, literal.keepsDigits_iff, ?document⟩
  case read => exact fun space rest => literal.run_attributeValue
  case narrow => exact IntegerLiteral.exists_render_eq_text
  case document => exact fun model text => ofText_of_isWrittenAs

/-! The least integer that 64 bits do not hold. -/

def oversizedLayer : Layer where
  name := "a"
  kind := .dense
  index := 1
  attributes := Table.ofList [("n", .float ⟨0x43E0000000000000⟩)]

def oversized : Model where
  name := "m"
  layers := [oversizedLayer]

def oversizedText : String :=
  "\x7b\"name\":\"m\",\"layers\":[\x7b\"name\":\"a\",\"kind\":\"Dense\",\"index\":1," ++
    "\"attributes\":\x7b\"n\":9223372036854775808\x7d\x7d]\x7d"

def oversizedLayerValue : Value := .object [("name", .text "a"), ("kind", .text "Dense"),
  ("index", .integer 1), ("attributes", .object [("n", .integer 9223372036854775808)])]

def oversizedValue : Value := .object [("name", .text "m"), ("layers", .list [oversizedLayerValue])]

theorem isRecord_oversizedLayer : IsRecord oversizedLayer.writtenForms oversizedLayerValue := by
  have written : Attribute.IsWrittenAs (.float ⟨0x43E0000000000000⟩)
      (.integer 9223372036854775808) := by
    change IntegerLiteral.attribute? _ = _
    decide +kernel
  have attributes : IsTable Attribute.IsWrittenAs oversizedLayer.attributes
      (.object [("n", .integer 9223372036854775808)]) :=
    .object (.refl _) (.cons ⟨rfl, written⟩ .nil)
  refine .object ⟨?admitted, ?given, ?once, ?others⟩
  case admitted =>
    simpa [Layer.writtenForms, withAdmitted, Layer.forms, optionForm, tableForm, oversizedLayer,
      IsText, LayerKind.name] using attributes
  case given =>
    simp [Layer.writtenForms, withAdmitted, Layer.forms, optionForm, tableForm, oversizedLayer]
  case once =>
    simp [Layer.writtenForms, withAdmitted, Layer.forms, optionForm, tableForm]
  case others =>
    simp [Layer.writtenForms, withAdmitted, Layer.forms, optionForm, tableForm]

theorem isRecord_oversized : IsRecord oversized.writtenForms oversizedValue := by
  have layers : AreWrittenLayers oversized.layers (.list [oversizedLayerValue]) :=
    ⟨_, rfl, .cons isRecord_oversizedLayer .nil⟩
  refine .object ⟨?admitted, ?given, ?once, ?others⟩
  case admitted =>
    simpa [writtenForms, withAdmitted, forms, optionForm, oversized, IsText] using layers
  case given => simp [writtenForms, withAdmitted, forms, optionForm, oversized]
  case once => simp [writtenForms, withAdmitted, forms, optionForm]
  case others => simp [writtenForms, withAdmitted, forms, optionForm]

theorem isWrittenAs_oversizedText : oversized.IsWrittenAs oversizedText := by
  have start : Leads true [] := .first isSpace_nil
  have next : Leads false [','] := .comma isSpace_nil isSpace_nil
  have attributes := Written.object
    (.item start (writtenEntry_of_plain "n" (by simp) (.integer 9223372036854775808))
    (.close isSpace_nil))
  have layer := Written.object
    (.item start (writtenEntry_of_plain "name" (by simp) (writtenText_of_plain "a" (by simp)))
    (.item next (writtenEntry_of_plain "kind" (by simp) (writtenText_of_plain "Dense" (by simp)))
    (.item next (writtenEntry_of_plain "index" (by simp) (.integer 1))
    (.item next (writtenEntry_of_plain "attributes" (by simp) attributes)
    (.close isSpace_nil)))))
  have model := Written.object
    (.item start (writtenEntry_of_plain "name" (by simp) (writtenText_of_plain "m" (by simp)))
    (.item next (writtenEntry_of_plain "layers" (by simp)
      (.list (.item start layer (.close isSpace_nil))))
    (.close isSpace_nil)))
  have document : IsDocument oversizedValue _ := .text isSpace_nil model isSpace_nil
  refine ⟨oversizedValue, isRecord_oversized, ?_⟩
  convert document using 1
  decide +kernel

theorem isLoaded_oversized : oversized.IsLoaded :=
  ⟨by simp [oversized], by simp [oversized, oversizedLayer]⟩

theorem loads_integers_oversized :
    Reader.attributeValue.run ([' '] ++
        ((IntegerLiteral.ofInt 9223372036854775808).text.toList ++ ['\x7d'])) =
      .ok (.ok (.float ⟨0x43E0000000000000⟩), ['\x7d']) ∧
    (∃ given, IntegerLiteral.attribute? ⟨true, 0⟩ = some given ∧ given.render = "-0") ∧
    ofText oversizedText = .ok oversized := by
  obtain ⟨read, -, -, document⟩ := loads_integers (.ofInt 9223372036854775808)
  obtain ⟨-, narrow, -, -⟩ := loads_integers ⟨true, 0⟩
  have space : IsSpace [' '] := by simp [IsSpace]
  have boundary : IsBoundary ['\x7d'] := by simp [IsBoundary]
  have float : (IntegerLiteral.ofInt 9223372036854775808).attribute? =
      some (.float ⟨0x43E0000000000000⟩) := by decide +kernel
  refine ⟨?read, narrow (by decide), ?document⟩
  case read => rw [read _ _ space boundary, float]
  case document => exact document _ _ isLoaded_oversized isWrittenAs_oversizedText

/-- The last digits are lost, while the document is accepted. -/
theorem render_oversized_ne : ofText oversizedText = .ok oversized ∧
    ∃ given, oversizedLayer.attributes.find? "n" = some given ∧
      given.render = "9223372036854776000" ∧
      given.render ≠ (IntegerLiteral.ofInt 9223372036854775808).text :=
  ⟨ofText_of_isWrittenAs isLoaded_oversized isWrittenAs_oversizedText,
    .float ⟨0x43E0000000000000⟩, by decide +kernel, by decide +kernel, by decide +kernel⟩

end Model

end HlsEmit

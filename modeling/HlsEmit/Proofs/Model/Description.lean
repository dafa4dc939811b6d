import HlsEmit.Model.Basic
import HlsEmit.Proofs.Json.Records
import Mathlib

/-! # What describes a model

The values that stand for a model in a document: an object for each record, whose keys
come in any order. A field with its default value may be left out; nothing is written as
null, which is a default too. A floating-point attribute has no form here.
-/

namespace HlsEmit

open Json

variable {α : Type}

def IsText (text : String) (value : Value) : Prop := value = .text text

/-- Null stands for nothing. -/
def IsNullOr (admits : α → Value → Prop) : Option α → Value → Prop
  | none, value => value = .null
  | some a, value => admits a value

/-- An object with the entries of the table in any order. -/
inductive IsTable (admits : α → Value → Prop) (table : Table α) : Value → Prop where
  | object {pairs : List (String × α)} {entries : List (String × Value)} :
      pairs.Perm table.entries →
      List.Forall₂ (fun entry pair => entry.1 = pair.1 ∧ admits pair.2 entry.2) entries pairs →
      IsTable admits table (.object entries)

def optionForm (key : String) (admits : α → Value → Prop) (a? : Option α) : FieldForm :=
  ⟨key, a? = none, IsNullOr admits a?⟩

def tableForm (key : String) (admits : α → Value → Prop) (table : Table α) : FieldForm :=
  ⟨key, table = ∅, IsTable admits table⟩

def Precision.forms (precision : Precision) : List FieldForm := [
  ⟨"name", False, IsText precision.name⟩,
  ⟨"precision", precision.precision = "", IsText precision.precision⟩]

def Variable.forms (tensor : Variable) : List FieldForm := [
  ⟨"name", False, IsText tensor.name⟩,
  ⟨"type", False, IsText tensor.elementType⟩,
  optionForm "pipe" IsText tensor.pipe]

/-- A text stays a text, also where it reads like a number. -/
def Attribute.IsDescribedBy : Attribute → Value → Prop
  | bool given, value => value = .bool given
  | int given, value => value = .integer given.toInt
  | float _, _ => False
  | text given, value => value = .text given

/-- The style of data passing is not among them. -/
def Layer.forms (layer : Layer) : List FieldForm := [
  ⟨"name", False, IsText layer.name⟩,
  ⟨"kind", False, IsText layer.kind.name⟩,
  ⟨"index", False, fun value => value = .integer layer.index.toNat⟩,
  optionForm "input" (fun tensor => IsRecord tensor.forms) layer.input,
  optionForm "output" (fun tensor => IsRecord tensor.forms) layer.output,
  tableForm "attributes" Attribute.IsDescribedBy layer.attributes,
  tableForm "types" (fun precision => IsRecord precision.forms) layer.types,
  tableForm "weights" (fun tensor => IsRecord tensor.forms) layer.weights]

/-- A list of objects, one for each layer in turn. -/
inductive AreLayers (layers : List Layer) : Value → Prop where
  | list {values : List Value} :
      List.Forall₂ (fun layer value => IsRecord layer.forms value) layers values →
      AreLayers layers (.list values)

def Model.forms (model : Model) : List FieldForm := [
  ⟨"name", False, IsText model.name⟩,
  optionForm "backend" IsText model.backend,
  ⟨"io_type", model.ioStyle = .parallel, IsText model.ioStyle.name⟩,
  ⟨"layers", False, AreLayers model.layers⟩]

/-- The text is a document of the model. -/
def Model.IsDescribedBy (model : Model) (text : String) : Prop :=
  ∃ value, IsRecord model.forms value ∧ IsDocument value text.toList

end HlsEmit

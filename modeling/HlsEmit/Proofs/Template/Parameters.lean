import HlsEmit.Template.Params
import Mathlib.Tactic.Tauto

/-! # The default parameters

The default parameters of a layer hold its attributes, its types and the
structural parameters of the role. A layer with an input and an output has every
structural name of the role. Where a name comes from several of these sources, the
structural parameter counts before the type, and the type before the attribute.
-/

namespace HlsEmit

theorem Table.contains_insertAll {α : Type} (table : Table α) (pairs : List (String × α))
    (name : String) : (table.insertAll pairs).contains name = true ↔
      (∃ pair ∈ pairs, pair.1 = name) ∨ table.contains name = true := by
  rw [contains_eq_isSome, contains_eq_isSome, find?_insertAll, Option.isSome_or, Bool.or_eq_true,
    Option.isSome_map, List.find?_isSome]
  simp

theorem Table.contains_eq_true_iff {α : Type} {table : Table α} {name : String} :
    table.contains name = true ↔ ∃ value, (name, value) ∈ table.entries := by
  rw [contains_eq_isSome, Option.isSome_iff_exists]
  simp only [find?_eq_some_iff]

namespace Table

variable {α : Type} {pairs : List (String × α)} {name : String} {value : α}

/-- The value that the pairs bind the name to: that of the last pair that has it. -/
def bound? (pairs : List (String × α)) (name : String) : Option α :=
  (pairs.reverse.find? (·.1 = name)).map (·.2)

theorem find?_insertAll_eq (table : Table α) (pairs : List (String × α)) (name : String) :
    (table.insertAll pairs).find? name = (bound? pairs name).or (table.find? name) :=
  find?_insertAll pairs table name

@[simp] theorem bound?_nil : bound? ([] : List (String × α)) name = none := rfl

theorem bound?_append (pairs others : List (String × α)) (name : String) :
    bound? (pairs ++ others) name = (bound? others name).or (bound? pairs name) := by
  simp only [bound?, List.reverse_append, List.find?_append]
  cases others.reverse.find? (·.1 = name) <;> rfl

theorem bound?_cons (pair : String × α) (rest : List (String × α)) (name : String) :
    bound? (pair :: rest) name =
      (bound? rest name).or (if pair.1 = name then some pair.2 else none) := by
  rw [← List.singleton_append, bound?_append]
  congr 1
  by_cases same : pair.1 = name <;> simp [bound?, same]

theorem bound?_eq_none_iff : bound? pairs name = none ↔ ∀ pair ∈ pairs, pair.1 ≠ name := by
  simp [bound?]

theorem mem_of_bound? (bound : bound? pairs name = some value) : (name, value) ∈ pairs := by
  obtain ⟨pair, found, rfl⟩ := Option.map_eq_some_iff.mp bound
  have member : pair ∈ pairs := List.mem_reverse.mp (List.mem_of_find?_eq_some found)
  have same : pair.1 = name := by simpa using List.find?_some found
  exact same ▸ member

theorem bound?_of_unique (inside : (name, value) ∈ pairs)
    (unique : ∀ other, (name, other) ∈ pairs → other = value) : bound? pairs name = some value := by
  cases bound : bound? pairs name with
  | none => exact absurd rfl (bound?_eq_none_iff.mp bound _ inside)
  | some other => rw [unique other (mem_of_bound? bound)]

/-! A name may be bound to a value that need not exist. -/

theorem bound?_toList (value? : Option α) (slot name : String) :
    bound? (value?.map (slot, ·)).toList name = if slot = name then value? else none := by
  cases value? with
  | none => by_cases same : slot = name <;> simp [same]
  | some value => by_cases same : slot = name <;> simp [bound?_cons, same]

theorem fst_of_mem_toList {value? : Option α} {slot : String} {pair : String × α}
    (member : pair ∈ (value?.map (slot, ·)).toList) : pair.1 = slot := by
  obtain ⟨value, _, rfl⟩ := Option.map_eq_some_iff.mp (Option.mem_toList.mp member)
  rfl

end Table

namespace Params

open Table (bound? bound?_of_unique bound?_eq_none_iff)

theorem bound?_attributeBindings (layer : Layer) (name : String) :
    bound? (attributeBindings layer) name = (layer.attribute? name).map Attribute.render := by
  cases held : layer.attribute? name with
  | none =>
      apply bound?_eq_none_iff.mpr
      intro pair member same
      obtain ⟨entry, inside, rfl⟩ := List.mem_map.mp member
      have present : layer.attribute? entry.1 = some entry.2 := Table.find?_eq_some_iff.mpr inside
      rw [show entry.1 = name from same, held] at present
      cases present
  | some value =>
      have inside : (name, value) ∈ layer.attributes.entries := Table.find?_eq_some_iff.mp held
      have bound : (name, value.render) ∈ attributeBindings layer :=
        List.mem_map.mpr ⟨_, inside, rfl⟩
      apply bound?_of_unique bound
      intro other member
      obtain ⟨entry, found, same⟩ := List.mem_map.mp member
      obtain ⟨rfl, rfl⟩ := Prod.mk.inj same
      have present : layer.attribute? entry.1 = some entry.2 := Table.find?_eq_some_iff.mpr found
      rw [held] at present
      rw [Option.some.inj present]

theorem append_name_ne_append_precision (type other : String) :
    type ++ ".name" ≠ other ++ ".precision" := by
  intro same
  have last := congrArg (fun text => text.toList.getLast?) same
  simp [String.toList_append] at last

end Params

namespace Layer

variable {layer : Layer} {name type text : String}

/-- A type of the layer has the text for a name, which is made of the name of the type. -/
def TypeGives (layer : Layer) (name text : String) : Prop :=
  ∃ type precision, layer.types.find? type = some precision ∧
    ((name = type ++ ".name" ∧ text = precision.name) ∨
      (name = type ++ ".precision" ∧ text = precision.precision))

theorem typeGives_name : layer.TypeGives (type ++ ".name") text ↔
    ∃ precision, layer.types.find? type = some precision ∧ text = precision.name := by
  constructor
  · rintro ⟨other, precision, held, ⟨same, rfl⟩ | ⟨same, -⟩⟩
    · exact ⟨precision, (String.append_left_inj _).mp same ▸ held, rfl⟩
    · exact absurd same (Params.append_name_ne_append_precision _ _)
  · rintro ⟨precision, held, rfl⟩
    exact ⟨type, precision, held, .inl ⟨rfl, rfl⟩⟩

theorem typeGives_precision : layer.TypeGives (type ++ ".precision") text ↔
    ∃ precision, layer.types.find? type = some precision ∧ text = precision.precision := by
  constructor
  · rintro ⟨other, precision, held, ⟨same, -⟩ | ⟨same, rfl⟩⟩
    · exact absurd same.symm (Params.append_name_ne_append_precision _ _)
    · exact ⟨precision, (String.append_left_inj _).mp same ▸ held, rfl⟩
  · rintro ⟨precision, held, rfl⟩
    exact ⟨type, precision, held, .inr ⟨rfl, rfl⟩⟩

theorem TypeGives.unique {other : String} (given : layer.TypeGives name text)
    (also : layer.TypeGives name other) : other = text := by
  obtain ⟨type, precision, held, ⟨rfl, rfl⟩ | ⟨rfl, rfl⟩⟩ := given
  · obtain ⟨_, found, rfl⟩ := typeGives_name.mp also
    rw [Option.some.inj (held.symm.trans found)]
  · obtain ⟨_, found, rfl⟩ := typeGives_precision.mp also
    rw [Option.some.inj (held.symm.trans found)]

theorem TypeGives.dotted (given : layer.TypeGives name text) : '.' ∈ name.toList := by
  obtain ⟨_, _, _, ⟨rfl, _⟩ | ⟨rfl, _⟩⟩ := given
  all_goals simp [String.toList_append]

end Layer

namespace Params

open Table (bound? bound?_cons bound?_of_unique)

theorem mem_typeBindings {layer : Layer} {name text : String} :
    (name, text) ∈ typeBindings layer ↔ layer.TypeGives name text := by
  simp only [typeBindings, Layer.TypeGives, List.mem_flatMap, List.mem_cons, List.not_mem_nil,
    or_false, Prod.mk.injEq, Table.find?_eq_some_iff, Prod.exists]

theorem bound?_typeBindings_eq_some_iff {layer : Layer} {name text : String} :
    bound? (typeBindings layer) name = some text ↔ layer.TypeGives name text := by
  constructor
  · intro bound
    exact mem_typeBindings.mp (Table.mem_of_bound? bound)
  · intro given
    apply bound?_of_unique (mem_typeBindings.mpr given)
    intro other inside
    exact given.unique (mem_typeBindings.mp inside)

theorem bound?_typeBindings_eq_none_iff {layer : Layer} {name : String} :
    bound? (typeBindings layer) name = none ↔ ∀ text, ¬layer.TypeGives name text := by
  simp only [Option.eq_none_iff_forall_ne_some, ne_eq, bound?_typeBindings_eq_some_iff]

theorem bound?_typeBindings_name (layer : Layer) (type : String) :
    bound? (typeBindings layer) (type ++ ".name") =
      (layer.types.find? type).map Precision.name := by
  ext text
  rw [bound?_typeBindings_eq_some_iff, Layer.typeGives_name, Option.map_eq_some_iff]
  simp only [eq_comm]

/-- Types are bound under dotted names only. -/
theorem bound?_typeBindings_of_dotless {layer : Layer} {name : String}
    (dotless : '.' ∉ name.toList) : bound? (typeBindings layer) name = none :=
  bound?_typeBindings_eq_none_iff.mpr fun _ given => dotless given.dotted

/-- A structural parameter counts before a type, and a type before an attribute. -/
theorem find?_defaults (role : Role) (layer : Layer) (name : String) :
    (defaults role layer).find? name = (bound? (structuralBindings layer role) name).or
      ((bound? (typeBindings layer) name).or ((layer.attribute? name).map Attribute.render)) := by
  rw [defaults, Table.find?_insertAll_eq, Table.find?_insertAll_eq, Table.find?_insertAll_eq,
    bound?_attributeBindings, Table.find?_empty, Option.or_none]

theorem contains_defaults (role : Role) (layer : Layer) (name : String) :
    (defaults role layer).contains name = true ↔
      (∃ pair ∈ structuralBindings layer role, pair.1 = name) ∨
      (∃ pair ∈ typeBindings layer, pair.1 = name) ∨
      ∃ pair ∈ attributeBindings layer, pair.1 = name := by
  have empty : (∅ : Params).contains name = false := rfl
  simp only [defaults, Table.contains_insertAll, empty, Bool.false_eq_true, or_false]

theorem contains_defaults_of_attribute (role : Role) {layer : Layer} {name : String}
    (carried : (layer.attribute? name).isSome = true) :
    (defaults role layer).contains name = true := by
  obtain ⟨value, entry⟩ := Table.contains_eq_true_iff.mp carried
  exact (contains_defaults role layer name).mpr
    (.inr (.inr ⟨(name, value.render), List.mem_map.mpr ⟨_, entry, rfl⟩, rfl⟩))

theorem contains_defaults_of_type (role : Role) {layer : Layer} {type : String}
    (carried : layer.types.contains type = true) {name : String}
    (dotted : name = type ++ ".name" ∨ name = type ++ ".precision") :
    (defaults role layer).contains name = true := by
  obtain ⟨value, entry⟩ := Table.contains_eq_true_iff.mp carried
  refine (contains_defaults role layer name).mpr (.inr (.inl ?_))
  simp only [typeBindings, List.mem_flatMap]
  rcases dotted with rfl | rfl
  · exact ⟨(type ++ ".name", value.name), ⟨_, entry, by simp⟩, rfl⟩
  · exact ⟨(type ++ ".precision", value.precision), ⟨_, entry, by simp⟩, rfl⟩

theorem bound?_variableBindings (v : Option Variable) {typeName valueName : String}
    (value : Variable → String) (name : String) :
    bound? (variableBindings v typeName valueName value) name =
      if valueName = name then v.map value
      else if typeName = name then v.map Variable.elementType else none := by
  cases v with
  | none => simp [variableBindings]
  | some v =>
      by_cases same : valueName = name <;> by_cases also : typeName = name <;>
        simp [variableBindings, bound?_cons, same, also]

theorem fst_mem_structuralNames {layer : Layer} {role : Role} {pair : String × String}
    (member : pair ∈ structuralBindings layer role) : pair.1 ∈ role.structuralNames := by
  cases role <;> cases layer.input <;> cases layer.output <;>
    simp_all [structuralBindings, variableBindings, Role.structuralNames] <;> grind

/-- The structural parameters of a layer with both variables go by the structural
    names of the role. -/
theorem mem_structuralNames_iff (role : Role) {layer : Layer}
    (input : layer.input.isSome = true) (output : layer.output.isSome = true) (name : String) :
    name ∈ role.structuralNames ↔ ∃ pair ∈ structuralBindings layer role, pair.1 = name := by
  obtain ⟨source, reads⟩ := Option.isSome_iff_exists.mp input
  obtain ⟨target, writes⟩ := Option.isSome_iff_exists.mp output
  cases role <;>
    simp only [Role.structuralNames, structuralBindings, variableBindings, reads, writes,
      List.cons_append, List.nil_append, List.mem_cons, List.not_mem_nil, or_false,
      exists_eq_or_imp, exists_eq_left, eq_comm (a := name)] <;>
    tauto

theorem contains_defaults_of_structural {role : Role} {layer : Layer}
    (input : layer.input.isSome = true) (output : layer.output.isSome = true) {name : String}
    (structural : name ∈ role.structuralNames) : (defaults role layer).contains name = true :=
  (contains_defaults role layer name).mpr
    (.inl ((mem_structuralNames_iff role input output name).mp structural))

end Params

end HlsEmit

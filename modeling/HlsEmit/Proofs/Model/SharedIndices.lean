import HlsEmit.Proofs.Model.Loading
import Mathlib.Data.List.Nodup

/-! # Described models whose layers share an index

A described model is loaded unless two of its layers share an index. Its layers then
differ from the described ones in the style of data passing alone. Otherwise the error
names the first layer that repeats an index, and the one layer before it that has the
same index.
-/

namespace HlsEmit.Model

/-- The second layer is the first one to repeat an index, and of the layers before it
    the first one alone has this index. -/
structure IsFirstRepeat (layers : List Layer) (first second : Layer) : Prop where
  same : first.index = second.index
  reached : ∃ earlier later, layers = earlier ++ second :: later ∧
    (earlier.map Layer.index).Nodup ∧ first ∈ earlier ∧
    ∀ other ∈ earlier, other.index = second.index → other = first

/-- The loaded model is the described one, with its style of data passing for every
    layer. -/
structure IsStamped (model loaded : Model) : Prop where
  name : loaded.name = model.name
  backend : loaded.backend = model.backend
  ioStyle : loaded.ioStyle = model.ioStyle
  layers : List.Forall₂ (fun layer stamped => stamped.ioStyle = model.ioStyle ∧
    stamped = { layer with ioStyle := stamped.ioStyle }) model.layers loaded.layers

theorem isStamped_stampIoStyle (model : Model) : model.IsStamped model.stampIoStyle where
  name := rfl
  backend := rfl
  ioStyle := rfl
  layers := List.forall₂_map_right_iff.mpr (List.forall₂_same.mpr fun _ _ => ⟨rfl, rfl⟩)

/-- The search passes over layers without a repeated index, which join the earlier ones. -/
theorem exists_split_of_indexClash? {earlier layers : List Layer} {first second : Layer}
    (apart : (earlier.map Layer.index).Nodup)
    (clash : indexClash? earlier layers = some (first, second)) :
    first.index = second.index ∧ ∃ passed rest, layers = passed ++ second :: rest ∧
      ((earlier.reverse ++ passed).map Layer.index).Nodup ∧
      first ∈ earlier.reverse ++ passed := by
  induction layers generalizing earlier with
  | nil => cases clash
  | cons layer others ih =>
      rw [indexClash?] at clash
      cases found : earlier.find? (·.index = layer.index) with
      | some holder =>
          rw [found] at clash
          obtain ⟨rfl, rfl⟩ := Prod.mk.inj (Option.some.inj clash)
          have member : holder ∈ earlier := List.mem_of_find?_eq_some found
          refine ⟨by simpa using List.find?_some found, [], others, rfl, ?_, by simpa using member⟩
          rw [List.append_nil, List.map_reverse]
          exact List.nodup_reverse.mpr apart
      | none =>
          rw [found] at clash
          have fresh : ∀ other ∈ earlier, other.index ≠ layer.index := by simpa using found
          have next : ((layer :: earlier).map Layer.index).Nodup := by
            rw [List.map_cons, List.nodup_cons]
            refine ⟨?_, apart⟩
            intro repeated
            obtain ⟨other, inside, same⟩ := List.mem_map.mp repeated
            exact fresh other inside same
          obtain ⟨same, passed, rest, rfl, distinct, inside⟩ := ih next clash
          rw [List.reverse_cons, List.append_assoc, List.singleton_append] at distinct inside
          exact ⟨same, layer :: passed, rest, rfl, distinct, inside⟩

theorem isFirstRepeat_of_indexClash? {layers : List Layer} {first second : Layer}
    (clash : indexClash? [] layers = some (first, second)) :
    IsFirstRepeat layers first second := by
  have empty : (([] : List Layer).map Layer.index).Nodup := List.nodup_nil
  obtain ⟨same, earlier, later, shape, distinct, inside⟩ :=
    exists_split_of_indexClash? empty clash
  rw [List.reverse_nil, List.nil_append] at distinct inside
  refine ⟨same, earlier, later, shape, distinct, inside, ?_⟩
  intro other member also
  exact List.inj_on_of_nodup_map distinct member inside (also.trans same.symm)

theorem ofText_eq_checked {text : String} {model : Model}
    (described : ofDocument text.toList = .ok model) : ofText text = model.checked := by
  rw [ofText, described]

theorem checked_of_nodup {model : Model} (distinct : (model.layers.map Layer.index).Nodup) :
    model.checked = .ok model.stampIoStyle := by
  have free : indexClash? [] model.layers = none :=
    indexClash?_eq_none_iff.mpr ⟨distinct, fun _ _ _ held => nomatch held⟩
  rw [checked, free]

theorem checked_of_not_nodup {model : Model} (repeated : ¬ (model.layers.map Layer.index).Nodup) :
    ∃ first second, IsFirstRepeat model.layers first second ∧
      model.checked = .error (.duplicateIndex second.index first.name second.name) := by
  cases clash : indexClash? [] model.layers with
  | none => exact absurd (indexClash?_eq_none_iff.mp clash).1 repeated
  | some pair =>
      obtain ⟨first, second⟩ := pair
      exact ⟨first, second, isFirstRepeat_of_indexClash? clash, by rw [checked, clash]⟩

/-- A text that describes a model is loaded exactly if the indices of the layers are
    distinct, as that model with its style of data passing for every layer. Otherwise
    the first layer that repeats an index is reported, with the layer before it that
    has the index. -/
theorem ofText_of_ofDocument {text : String} {model : Model}
    (described : ofDocument text.toList = .ok model) :
    ((∃ loaded, ofText text = .ok loaded) ↔ (model.layers.map Layer.index).Nodup) ∧
    (∀ loaded, ofText text = .ok loaded → model.IsStamped loaded) ∧
    (¬ (model.layers.map Layer.index).Nodup →
      ∃ first second, IsFirstRepeat model.layers first second ∧
        ofText text = .error (.duplicateIndex second.index first.name second.name)) := by
  rw [ofText_eq_checked described]
  by_cases distinct : (model.layers.map Layer.index).Nodup
  · have loads := checked_of_nodup distinct
    refine ⟨⟨fun _ => distinct, fun _ => ⟨_, loads⟩⟩, ?_, fun repeated => absurd distinct repeated⟩
    intro loaded also
    obtain rfl := Except.ok.inj (loads.symm.trans also)
    exact isStamped_stampIoStyle model
  · obtain ⟨first, second, isFirst, fails⟩ := checked_of_not_nodup distinct
    have never : ∀ loaded, model.checked ≠ .ok loaded := by
      intro loaded loads
      rw [fails] at loads
      cases loads
    refine ⟨⟨?_, fun also => absurd also distinct⟩, ?_, fun _ => ⟨first, second, isFirst, fails⟩⟩
    · rintro ⟨loaded, loads⟩
      exact absurd loads (never loaded)
    · intro loaded loads
      exact absurd loads (never loaded)

/-- Four layers with two indices, each used twice, and two layers of one name. -/
def repeating : Model where
  name := "m"
  layers :=
    [{ name := "a", kind := .input, index := 1 }, { name := "b", kind := .dense, index := 2 },
      { name := "a", kind := .dense, index := 2 }, { name := "c", kind := .softmax, index := 1 }]

def repeatingText : String :=
  "\x7b\"name\":\"m\",\"layers\":[\x7b\"name\":\"a\",\"kind\":\"Input\",\"index\":1\x7d," ++
    "\x7b\"name\":\"b\",\"kind\":\"Dense\",\"index\":2\x7d," ++
    "\x7b\"name\":\"a\",\"kind\":\"Dense\",\"index\":2\x7d," ++
    "\x7b\"name\":\"c\",\"kind\":\"Softmax\",\"index\":1\x7d]\x7d"

theorem ofDocument_repeatingText : ofDocument repeatingText.toList = .ok repeating := by
  have read : (ofDocument repeatingText.toList).toOption = some repeating := by decide +kernel
  cases result : ofDocument repeatingText.toList with
  | error fault => simp [result, Except.toOption] at read
  | ok model => simpa [result, Except.toOption] using read

theorem ofText_repeatingText :
    ofDocument repeatingText.toList = .ok repeating ∧
      ∃ first second, IsFirstRepeat repeating.layers first second ∧
        ofText repeatingText = .error (.duplicateIndex second.index first.name second.name) :=
  ⟨ofDocument_repeatingText, (ofText_of_ofDocument ofDocument_repeatingText).2.2 (by decide)⟩

end HlsEmit.Model

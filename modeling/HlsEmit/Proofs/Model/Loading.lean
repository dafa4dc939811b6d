import HlsEmit.Model.Load

/-! # What loaded models have in common

A model is loaded from a text only if its indices are distinct, and all its layers
then pass data on in its style.
-/

namespace HlsEmit.Model

theorem indexClash?_eq_none_iff {earlier layers : List Layer} :
    indexClash? earlier layers = none ↔ (layers.map Layer.index).Nodup ∧
      ∀ layer ∈ layers, ∀ first ∈ earlier, first.index ≠ layer.index := by
  induction layers generalizing earlier with
  | nil => simp [indexClash?]
  | cons layer rest ih =>
      rw [indexClash?]
      cases found : earlier.find? (·.index = layer.index) with
      | some first =>
          have same : first.index = layer.index := by simpa using List.find?_some found
          constructor
          · intro free
            cases free
          · rintro ⟨-, apart⟩
            exact absurd same
              (apart layer List.mem_cons_self first (List.mem_of_find?_eq_some found))
      | none =>
          have fresh : ∀ first ∈ earlier, first.index ≠ layer.index := by simpa using found
          rw [ih, List.map_cons, List.nodup_cons]
          constructor
          · rintro ⟨distinct, apart⟩
            refine ⟨⟨?_, distinct⟩, ?_⟩
            · intro repeated
              obtain ⟨other, inside, same⟩ := List.mem_map.mp repeated
              exact apart other inside layer List.mem_cons_self same.symm
            · intro other inside first held
              rcases List.mem_cons.mp inside with rfl | later
              · exact fresh first held
              · exact apart other later first (List.mem_cons_of_mem _ held)
          · rintro ⟨⟨once, distinct⟩, apart⟩
            refine ⟨distinct, ?_⟩
            intro other later first held
            rcases List.mem_cons.mp held with rfl | inside
            · exact fun same => once (List.mem_map.mpr ⟨other, later, same.symm⟩)
            · exact apart other (List.mem_cons_of_mem _ later) first inside

theorem sublist_of_indexClash? {earlier layers : List Layer} {first second : Layer}
    (clash : indexClash? earlier layers = some (first, second)) :
    [first, second].Sublist (earlier.reverse ++ layers) ∧ first.index = second.index := by
  induction layers generalizing earlier with
  | nil => cases clash
  | cons layer rest ih =>
      rw [indexClash?] at clash
      split at clash
      · rename_i found
        obtain ⟨rfl, rfl⟩ := Prod.mk.inj (Option.some.inj clash)
        have inside := List.mem_reverse.mpr (List.mem_of_find?_eq_some found)
        have here : [layer].Sublist (layer :: rest) := List.singleton_sublist.mpr List.mem_cons_self
        have both := (List.singleton_sublist.mpr inside).append here
        exact ⟨both, by simpa using List.find?_some found⟩
      · obtain ⟨later, same⟩ := ih clash
        exact ⟨by simpa using later, same⟩

/-- What holds of every model that is loaded. -/
structure IsLoaded (model : Model) : Prop where
  distinct : (model.layers.map Layer.index).Nodup
  style : ∀ layer ∈ model.layers, layer.ioStyle = model.ioStyle

theorem isLoaded_of_checked {model loaded : Model} (checks : model.checked = .ok loaded) :
    loaded.IsLoaded := by
  rw [checked] at checks
  cases clash : indexClash? [] model.layers with
  | some pair =>
      rw [clash] at checks
      cases checks
  | none =>
      rw [clash] at checks
      obtain rfl := Except.ok.inj checks
      constructor
      · rw [stampIoStyle, List.map_map]
        exact (indexClash?_eq_none_iff.mp clash).1
      · intro layer member
        obtain ⟨_, _, rfl⟩ := List.mem_map.mp member
        rfl

theorem isLoaded_of_ofText {text : String} {model : Model} (loads : ofText text = .ok model) :
    model.IsLoaded := by
  rw [ofText] at loads
  cases read : ofDocument text.toList with
  | error fault =>
      rw [read] at loads
      cases loads
  | ok document =>
      rw [read] at loads
      exact isLoaded_of_checked loads

end HlsEmit.Model

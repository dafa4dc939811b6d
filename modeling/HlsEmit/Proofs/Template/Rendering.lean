import HlsEmit.Proofs.Template.BodySyntax
import HlsEmit.Proofs.Template.Validation

/-! # The text of a body

The text of a body consists of the texts of its segments, one after the other.
How literals are cut into segments does not matter, so a body that was read from
written segments has the text of these segments. The text depends on the values of
the placeholders alone.
-/

namespace HlsEmit

/-- The text of a segment where the placeholders have the given values. -/
def Segment.textWith (values : String → String) : Segment → String
  | literal text => text
  | placeholder name => values name

namespace TemplateBody

open Body (Piece)

variable {params : Params} {text : String}

theorem render_nil (params : Params) : render ⟨[]⟩ params = .ok "" := rfl

theorem render_cons (segment : Segment) (rest : List Segment) (params : Params) :
    render ⟨segment :: rest⟩ params = (segment.fill params).bind fun head =>
      (render ⟨rest⟩ params).map (head ++ ·) := by
  simp only [render, List.mapM_cons, bind]
  cases segment.fill params with
  | error name => rfl
  | ok head =>
      cases rest.mapM (Segment.fill params) with
      | error name => rfl
      | ok tail => simp [Except.bind, Except.map, pure, Except.pure, String.join_cons]

theorem render_append (front back : List Segment) (params : Params) :
    render ⟨front ++ back⟩ params = (render ⟨front⟩ params).bind fun head =>
      (render ⟨back⟩ params).map (head ++ ·) := by
  induction front with
  | nil =>
      rw [List.nil_append, render_nil]
      cases render ⟨back⟩ params <;> simp [Except.bind, Except.map]
  | cons segment rest ih =>
      rw [List.cons_append, render_cons, render_cons, ih]
      cases segment.fill params with
      | error name => rfl
      | ok first =>
          cases render ⟨rest⟩ params with
          | error name => rfl
          | ok middle =>
              cases render ⟨back⟩ params with
              | error name => rfl
              | ok last => simp [Except.bind, Except.map, String.append_assoc]

/-- A piece as a segment of its own. -/
def ofPiece : Piece → Segment
  | .char c => .literal (String.singleton c)
  | .hole name => .placeholder name

theorem render_chars (chars : List Char) (params : Params) :
    render ⟨chars.map fun c => ofPiece (.char c)⟩ params = .ok (String.ofList chars) := by
  induction chars with
  | nil => rfl
  | cons c rest ih =>
      have joined : String.singleton c ++ String.ofList rest = String.ofList (c :: rest) := by
        rw [← String.toList_inj]
        simp
      rw [List.map_cons, render_cons, ih]
      simp only [ofPiece, Segment.fill, Except.bind, Except.map, joined]

theorem render_singleton (segment : Segment) (params : Params) :
    render ⟨[segment]⟩ params = render ⟨segment.pieces.map ofPiece⟩ params := by
  cases segment with
  | literal text =>
      rw [Segment.pieces, List.map_map]
      have whole := render_chars text.toList params
      rw [String.ofList_toList] at whole
      rw [render_cons, render_nil]
      simpa [Segment.fill, Except.bind, Except.map, Function.comp_def] using whole.symm
  | placeholder name => rfl

theorem render_pieces (segments : List Segment) (params : Params) :
    render ⟨segments⟩ params = render ⟨(segments.flatMap Segment.pieces).map ofPiece⟩ params := by
  induction segments with
  | nil => rfl
  | cons segment rest ih =>
      rw [← List.singleton_append, render_append, List.flatMap_append, List.map_append,
        render_append, ← ih, render_singleton]
      simp

/-- Joining neighbouring literals keeps the text. -/
theorem render_normalize (segments : List Segment) (params : Params) :
    (normalize segments).render params = render ⟨segments⟩ params := by
  rw [normalize, render_pieces, render_pieces segments, Body.pieces_group]
  rfl

theorem fill_placeholder_eq_ok_iff {name value : String} :
    (Segment.placeholder name).fill params = .ok value ↔ params.find? name = some value := by
  rw [Segment.fill]
  cases params.find? name <;> simp

theorem render_of_values {segments : List Segment} {values : String → String}
    (bound : ∀ name, .placeholder name ∈ segments → params.find? name = some (values name)) :
    render ⟨segments⟩ params = .ok (String.join (segments.map (Segment.textWith values))) := by
  have each : ∀ segment ∈ segments, segment.fill params = .ok (segment.textWith values) := by
    intro segment member
    cases segment with
    | literal text => rfl
    | placeholder name => exact fill_placeholder_eq_ok_iff.mpr (bound name member)
  rw [render, Outcome.mapM_eq_ok_map each]
  rfl

/-- A text joins its segments, each placeholder having its value. -/
theorem render_eq_ok_iff {segments : List Segment} :
    render ⟨segments⟩ params = .ok text ↔ ∃ values : String → String,
      (∀ name, .placeholder name ∈ segments → params.find? name = some (values name)) ∧
      text = String.join (segments.map (Segment.textWith values)) := by
  constructor
  · intro rendered
    obtain ⟨_, filled, -⟩ := Outcome.map_eq_ok_iff.mp rendered
    have bound : ∀ name, .placeholder name ∈ segments →
        params.find? name = some ((params.find? name).getD "") := by
      intro name used
      obtain ⟨value, given⟩ := Outcome.exists_of_mapM_eq_ok filled _ used
      rw [fill_placeholder_eq_ok_iff.mp given, Option.getD_some]
    refine ⟨fun name => (params.find? name).getD "", bound, ?_⟩
    exact Except.ok.inj (rendered.symm.trans (render_of_values bound))
  · rintro ⟨values, bound, rfl⟩
    exact render_of_values bound

end TemplateBody

/-- Under the placeholders of the segments, the second parameters have all values
    of the first. -/
def Params.Within (params : Params) (segments : List Segment) (others : Params) : Prop :=
  ∀ name, .placeholder name ∈ segments →
    ∀ value, params.find? name = some value → others.find? name = some value

theorem TemplateBody.render_of_within {segments : List Segment} {params others : Params}
    (within : params.Within segments others) {text : String}
    (rendered : render ⟨segments⟩ params = .ok text) : render ⟨segments⟩ others = .ok text := by
  obtain ⟨values, bound, rfl⟩ := render_eq_ok_iff.mp rendered
  exact render_of_values fun name used => within name used _ (bound name used)

end HlsEmit

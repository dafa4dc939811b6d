import HlsEmit.Proofs.FirstSeen
import HlsEmit.Proofs.Template.BodySyntax
import HlsEmit.Proofs.Template.Rendering
import Mathlib.Data.List.Find

/-! # The placeholders of a body decide its rendering

The placeholders of a body are listed once each, in order of first appearance. Rendering
goes through the segments and does not use that list, but nothing else matters to it: it
fails at the first name of the list that has no value. If all have one, the values stand
in the text as they are, whatever they contain.
-/

namespace HlsEmit.TemplateBody

variable {params others : Params} {front segments : List Segment} {segment : Segment}
  {name : String}

/-- The names are those of the placeholders, each once, in order of first appearance. -/
structure IsListing (segments : List Segment) (names : List String) : Prop where
  complete : ∀ name, name ∈ names ↔ .placeholder name ∈ segments
  once : names.Nodup
  ordered : names.Pairwise fun first second =>
    segments.idxOf (.placeholder first) < segments.idxOf (.placeholder second)

/-- The first placeholder that the parameters do not contain. -/
def unbound? (body : TemplateBody) (params : Params) : Option String :=
  body.placeholders.find? fun name => !params.contains name

theorem placeholders_concat_literal (front : List Segment) (text : String) :
    placeholders ⟨front ++ [.literal text]⟩ = placeholders ⟨front⟩ := by
  simp [placeholders, List.filterMap_append]

theorem placeholders_concat_of_mem (again : .placeholder name ∈ front) :
    placeholders ⟨front ++ [.placeholder name]⟩ = placeholders ⟨front⟩ := by
  have listed := (mem_placeholders_iff ⟨front⟩ name).mpr again
  rw [placeholders, List.mem_eraseDups] at listed
  simp only [placeholders, List.filterMap_append]
  exact eraseDups_concat_of_mem listed

theorem placeholders_concat_of_not_mem (first : .placeholder name ∉ front) :
    placeholders ⟨front ++ [.placeholder name]⟩ = placeholders ⟨front⟩ ++ [name] := by
  have unlisted := mt (mem_placeholders_iff ⟨front⟩ name).mp first
  rw [placeholders, List.mem_eraseDups] at unlisted
  simp only [placeholders, List.filterMap_append]
  exact eraseDups_concat_of_not_mem unlisted

/-- The last segment adds a name only behind all that are listed. -/
theorem ordered_placeholders (segments : List Segment) :
    (placeholders ⟨segments⟩).Pairwise fun first second =>
      segments.idxOf (.placeholder first) < segments.idxOf (.placeholder second) := by
  induction segments using List.reverseRecOn with
  | nil => exact .nil
  | append_singleton front segment ih =>
      have inside : ∀ name ∈ placeholders ⟨front⟩, .placeholder name ∈ front :=
        fun name => (mem_placeholders_iff ⟨front⟩ name).mp
      cases segment with
      | literal text =>
          rw [placeholders_concat_literal]
          exact pairwise_idxOf_concat inside ih _
      | placeholder name =>
          by_cases again : .placeholder name ∈ front
          · rw [placeholders_concat_of_mem again]
            exact pairwise_idxOf_concat inside ih _
          · rw [placeholders_concat_of_not_mem again]
            exact pairwise_idxOf_concat_of_not_mem inside ih again

theorem isListing_placeholders (body : TemplateBody) :
    IsListing body.segments body.placeholders where
  complete := mem_placeholders_iff body
  once := (ordered_placeholders body.segments).imp fun before same => by
    subst same
    exact absurd before (lt_irrefl _)
  ordered := ordered_placeholders body.segments

theorem render_concat_eq_error_iff : render ⟨front ++ [segment]⟩ params = .error name ↔
    render ⟨front⟩ params = .error name ∨
      (∃ text, render ⟨front⟩ params = .ok text) ∧ segment.fill params = .error name := by
  rw [render_append, render_cons, render_nil]
  cases render ⟨front⟩ params with
  | error other => simp [Except.bind]
  | ok text => cases segment.fill params <;> simp [Except.bind, Except.map]

theorem fill_placeholder_eq_error_iff {other : String} :
    (Segment.placeholder other).fill params = .error name ↔
      params.contains other = false ∧ other = name := by
  rw [Segment.fill, Table.contains_eq_isSome]
  cases params.find? other <;> simp

theorem exists_ok_iff_of_error {body : TemplateBody}
    (failing : ∀ name, body.render params = .error name ↔ body.unbound? params = some name) :
    (∃ text, body.render params = .ok text) ↔ body.unbound? params = none := by
  rw [Option.eq_none_iff_forall_ne_some]
  simp only [← failing, ne_eq]
  cases body.render params <;> simp

/-- Rendering fails exactly at the first placeholder without a value. By induction from the
    end, because the list of names leaves out what came before. -/
theorem render_eq_error_iff (segments : List Segment) (params : Params) (name : String) :
    render ⟨segments⟩ params = .error name ↔ unbound? ⟨segments⟩ params = some name := by
  induction segments using List.reverseRecOn generalizing name with
  | nil => simp [render_nil, unbound?, placeholders]
  | append_singleton front segment ih =>
      rw [render_concat_eq_error_iff, exists_ok_iff_of_error ih, ih]
      cases segment with
      | literal text =>
          rw [unbound?, unbound?, placeholders_concat_literal]
          simp [Segment.fill]
      | placeholder other =>
          rw [fill_placeholder_eq_error_iff]
          by_cases again : .placeholder other ∈ front
          · rw [unbound?, unbound?, placeholders_concat_of_mem again]
            refine or_iff_left ?_
            rintro ⟨bound, absent, -⟩
            have listed := (mem_placeholders_iff ⟨front⟩ other).mpr again
            have present := List.find?_eq_none.mp bound other listed
            rw [absent] at present
            exact present rfl
          · rw [unbound?, unbound?, placeholders_concat_of_not_mem again, List.find?_append,
              Option.or_eq_some_iff]
            refine or_congr_right (and_congr_right fun _ => ?_)
            simp

/-- Where all placeholders have values, these stand in the text as they are. -/
theorem render_eq_ok_iff_of_placeholders {body : TemplateBody} {text : String} :
    body.render params = .ok text ↔ ∃ values : String → String,
      (∀ name ∈ body.placeholders, params.find? name = some (values name)) ∧
      text = String.join (body.segments.map (Segment.textWith values)) := by
  simp only [mem_placeholders_iff]
  exact render_eq_ok_iff

/-- Bindings of other names do not matter. -/
theorem render_congr {body : TemplateBody}
    (agree : ∀ name ∈ body.placeholders, others.find? name = params.find? name) :
    body.render others = body.render params := by
  cases result : body.render params with
  | error name =>
      rw [render_eq_error_iff, unbound?] at result ⊢
      rw [← result]
      refine List.find?_congr fun other used => ?_
      rw [Table.contains_eq_isSome, Table.contains_eq_isSome, agree other used]
  | ok text =>
      obtain ⟨values, bound, joined⟩ := render_eq_ok_iff_of_placeholders.mp result
      refine render_eq_ok_iff_of_placeholders.mpr ⟨values, ?_, joined⟩
      intro name used
      rw [agree name used, bound name used]

/-- The list of placeholders says everything about which texts a body can have. -/
theorem render_decided (body : TemplateBody) :
    IsListing body.segments body.placeholders ∧
    ∀ params : Params,
      (∀ name, body.render params = .error name ↔
        body.placeholders.find? (fun name => !params.contains name) = some name) ∧
      (∀ text, body.render params = .ok text ↔ ∃ values : String → String,
        (∀ name ∈ body.placeholders, params.find? name = some (values name)) ∧
        text = String.join (body.segments.map (Segment.textWith values))) ∧
      ∀ others : Params, (∀ name ∈ body.placeholders, others.find? name = params.find? name) →
        body.render others = body.render params := by
  refine ⟨isListing_placeholders body, fun params => ⟨?_, ?_, ?_⟩⟩
  · exact render_eq_error_iff body.segments params
  · intro text
    exact render_eq_ok_iff_of_placeholders
  · intro others agree
    exact render_congr agree

/-- A value with braces is copied as often as its name occurs. -/
theorem render_repeated :
    let body : TemplateBody := ⟨[.placeholder "b", .literal "-", .placeholder "a",
      .literal "-", .placeholder "b"]⟩
    body.placeholders = ["b", "a"] ∧
    body.render (Table.ofList [("b", "\x7ba\x7d")]) = .error "a" ∧
    body.render (Table.ofList [("b", "\x7ba\x7d"), ("a", "x")]) = .ok "\x7ba\x7d-x-\x7ba\x7d" ∧
    body.render (Table.ofList [("b", "\x7ba\x7d"), ("a", "x"), ("c", "y")]) =
      .ok "\x7ba\x7d-x-\x7ba\x7d" := by
  intro body
  let params : Params := Table.ofList [("b", "\x7ba\x7d"), ("a", "x")]
  have bound : ∀ name ∈ body.placeholders,
      params.find? name = some (if name = "a" then "x" else "\x7ba\x7d") := by decide
  obtain ⟨_, renders, stable⟩ := (render_decided body).2 params
  have full : body.render params = .ok "\x7ba\x7d-x-\x7ba\x7d" :=
    (renders _).mpr ⟨_, bound, by decide⟩
  refine ⟨by decide, ?_, full, ?_⟩
  · exact (((render_decided body).2 _).1 "a").mpr (by decide)
  · rw [← full]
    exact stable _ (by decide)

end HlsEmit.TemplateBody

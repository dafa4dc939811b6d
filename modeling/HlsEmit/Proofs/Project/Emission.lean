import HlsEmit.Project
import HlsEmit.Proofs.Outcome
import Mathlib.Tactic.Choose

/-! # The code of a layer

A layer is emitted if it is formatted in every role that the backend uses for it,
and its code consists of these texts. The roles depend on whether the layer is a
stage: on a backend with dataflow every layer of a model that streams is one.
-/

namespace HlsEmit.Backend

variable {backend : Backend} {layer other : Layer} {source : LayerSource}

/-- Whether the layers of a model in that style are stages. -/
def streams (backend : Backend) (style : IoStyle) : Bool :=
  backend.dialect.hasDataflow && style = .stream

theorem roles_eq (backend : Backend) (style : IoStyle) : backend.roles style =
    if backend.streams style then [.config, .taskSequence, .streamCall] else [.config, .call] := by
  unfold roles streams
  cases backend.dialect.hasDataflow <;> cases style <;> rfl

theorem emitLayer_eq_ok_iff : backend.emitLayer layer = .ok source ↔
    ∃ texts : Role → String,
      (∀ role ∈ backend.roles layer.ioStyle, backend.format role layer = .ok (texts role)) ∧
      source = (backend.roles layer.ioStyle).foldl
        (fun source role => source.set role (texts role))
        { layer := layer.name, index := layer.index
          includes := backend.includeHeaders layer.kind } := by
  constructor
  · intro emitted
    choose! texts formatted using Outcome.exists_of_foldlM_map emitted
    refine ⟨texts, formatted, ?_⟩
    rw [emitLayer, Outcome.foldlM_map_of_ok formatted] at emitted
    exact (Except.ok.inj emitted).symm
  · rintro ⟨texts, formatted, rfl⟩
    exact Outcome.foldlM_map_of_ok formatted

/-- A layer that is formatted like another in every role has the same code. -/
theorem emitLayer_of_format (emitted : backend.emitLayer layer = .ok source)
    (name : other.name = layer.name) (index : other.index = layer.index)
    (kind : other.kind = layer.kind) (style : other.ioStyle = layer.ioStyle)
    (kept : ∀ role text, backend.format role layer = .ok text →
      backend.format role other = .ok text) : backend.emitLayer other = .ok source := by
  obtain ⟨texts, formatted, rfl⟩ := emitLayer_eq_ok_iff.mp emitted
  refine emitLayer_eq_ok_iff.mpr ⟨texts, ?_, by rw [name, index, kind, style]⟩
  intro role used
  rw [style] at used
  exact kept role _ (formatted role used)

/-- How the parts of the code of a layer come about. -/
structure Emits (backend : Backend) (layer : Layer) (source : LayerSource) : Prop where
  name : source.layer = layer.name
  index : source.index = layer.index
  config : backend.format .config layer = .ok source.config
  stage : backend.streams layer.ioStyle = true →
    backend.format .taskSequence layer = .ok source.invocation ∧
    ∃ start, backend.format .streamCall layer = .ok start ∧ source.streamCall = some start
  call : backend.streams layer.ioStyle = false →
    backend.format .call layer = .ok source.invocation ∧ source.streamCall = none

theorem emits_of_emitLayer (emitted : backend.emitLayer layer = .ok source) :
    backend.Emits layer source := by
  obtain ⟨texts, formatted, rfl⟩ := emitLayer_eq_ok_iff.mp emitted
  rw [roles_eq] at formatted ⊢
  cases streaming : backend.streams layer.ioStyle with
  | true =>
      rw [streaming, if_pos rfl] at formatted
      refine ⟨rfl, rfl, formatted .config (by simp), fun _ => ⟨?_, ?_⟩, ?_⟩
      · exact formatted .taskSequence (by simp)
      · exact ⟨_, formatted .streamCall (by simp), rfl⟩
      · intro called
        cases streaming.symm.trans called
  | false =>
      rw [streaming, if_neg Bool.false_ne_true] at formatted
      refine ⟨rfl, rfl, formatted .config (by simp), ?_, fun _ => ?_⟩
      · intro staged
        cases streaming.symm.trans staged
      · exact ⟨formatted .call (by simp), rfl⟩

end HlsEmit.Backend

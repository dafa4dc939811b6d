import HlsEmit.Diagnostic.Failure
import HlsEmit.Proofs.Text.Position

/-! # Where faults are shown

A text that describes no model is shown where it is at fault: at the byte before the
offset of the fault, or at the offset itself where a line starts. Only a fault at the end
of a text that ends in a newline is not shown, since no line starts there.
-/

namespace HlsEmit

open Text (byteSize EndsLine Position)

/-- What the diagnostic of a fault at an offset shows of the source. -/
structure Diagnostic.Shows (diagnostic : Diagnostic) (source : List Char) (offset : Nat) :
    Prop where
  /-- A fault is shown unless the text is over and its last line complete. -/
  none_iff : diagnostic.span = none ↔ offset = byteSize source ∧ EndsLine source
  /-- The shown bytes are some of the text, and the fault lies at one end of them. -/
  inside : ∀ span ∈ diagnostic.span, span.start < span.stop ∧ span.stop ≤ byteSize source ∧
    span.start ≤ offset ∧ offset ≤ span.stop

theorem Model.exists_offset_of_ofText {source : String} {cause : Json.Cause} {position : Position}
    (malformed : Model.ofText source = .error (.malformed cause position)) :
    ∃ offset ≤ byteSize source.toList, position = Position.ofOffset source.toList offset := by
  rw [Model.ofText] at malformed
  split at malformed
  · rename_i fault _
    obtain ⟨-, rfl⟩ := LoadError.malformed.inj (Except.error.inj malformed)
    exact ⟨_, Nat.sub_le _ _, rfl⟩
  · rename_i model _
    rw [Model.checked] at malformed
    split at malformed <;> cases malformed

namespace Diagnostic

theorem shows_of_offset (cause : Json.Cause) {source : String} {offset : Nat}
    (inside : offset ≤ byteSize source.toList) :
    (ofLoadError (.malformed cause (.ofOffset source.toList offset)) source).Shows
      source.toList offset := by
  have shown : (ofLoadError (.malformed cause (.ofOffset source.toList offset)) source).span =
      positionSpan? source.toList (.ofOffset source.toList offset) := rfl
  rw [positionSpan?, Text.offsetOf?_ofOffset inside] at shown
  generalize (ofLoadError (.malformed cause (.ofOffset source.toList offset)) source) =
    diagnostic at shown
  by_cases finished : offset = byteSize source.toList ∧ EndsLine source.toList
  · rw [if_pos finished] at shown
    exact ⟨iff_of_true shown finished, by simp [shown]⟩
  · rw [if_neg finished] at shown
    have nonempty : source.toList ≠ [] := by
      intro nothing
      rw [nothing] at inside finished
      exact finished ⟨Nat.le_zero.mp inside, Text.endsLine_nil⟩
    have size := Text.byteSize_pos nonempty
    refine ⟨by simp [shown, finished], ?_⟩
    intro span member
    rw [shown, Option.map_some, Option.mem_some_iff] at member
    subst member
    simp only
    omega

/-- A text that cannot be read is located, unless it ends in a newline and the fault is
    at its end. -/
theorem exists_shows_of_malformed {source : String} {cause : Json.Cause} {position : Position}
    (malformed : Model.ofText source = .error (.malformed cause position)) :
    ∃ offset ≤ byteSize source.toList, position = Position.ofOffset source.toList offset ∧
      (ofLoadError (.malformed cause position) source).Shows source.toList offset := by
  obtain ⟨offset, inside, rfl⟩ := Model.exists_offset_of_ofText malformed
  exact ⟨offset, inside, rfl, shows_of_offset cause inside⟩

/-- A key that is no string stands at the start of a line. -/
theorem shows_key_bracket :
    Model.ofText "\x7b\n[" = .error (.malformed .keyNotString ⟨2, 1⟩) ∧
      ∃ offset ≤ byteSize "\x7b\n[".toList, ⟨2, 1⟩ = Position.ofOffset "\x7b\n[".toList offset ∧
        (ofLoadError (.malformed .keyNotString ⟨2, 1⟩) "\x7b\n[").Shows "\x7b\n[".toList offset :=
  ⟨rfl, exists_shows_of_malformed rfl⟩

/-- An object that is not finished on its first line is not located. -/
theorem span_unfinished_object :
    ∃ cause position, Model.ofText "\x7b\n" = .error (.malformed cause position) ∧
      (ofLoadError (.malformed cause position) "\x7b\n").span = none := by
  exact ⟨.endInObject, ⟨2, 0⟩, rfl, rfl⟩

end Diagnostic

end HlsEmit

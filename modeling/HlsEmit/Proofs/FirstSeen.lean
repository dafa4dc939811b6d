import Mathlib.Data.List.Induction
import Mathlib.Data.List.Nodup

/-! # First appearances

A list without its repetitions has every element once, in order of first
appearance. It grows only at its end when the list does, and it does not matter
whether parts of the list were freed from repetitions before.
-/

namespace HlsEmit

variable {α β : Type} [BEq α] [LawfulBEq α] {front seen source : List α} {a : α}

/-- The elements of the source, each once, in order of first appearance. -/
structure IsFirstSeen (source seen : List α) : Prop where
  complete : ∀ a, a ∈ seen ↔ a ∈ source
  once : seen.Nodup
  ordered : seen.Pairwise fun first second => source.idxOf first < source.idxOf second

section Order

variable {key : β → α} {listed : List β} (inside : ∀ b ∈ listed, key b ∈ front)
  (ordered : listed.Pairwise fun first second => front.idxOf (key first) < front.idxOf (key second))
include inside ordered

/-- A further element leaves the places of those before it. -/
theorem pairwise_idxOf_concat (a : α) : listed.Pairwise fun first second =>
    (front ++ [a]).idxOf (key first) < (front ++ [a]).idxOf (key second) := by
  refine ordered.imp_of_mem ?_
  intro first second firstIn secondIn before
  rwa [List.idxOf_append_of_mem (inside first firstIn),
    List.idxOf_append_of_mem (inside second secondIn)]

/-- A new element comes behind all that are listed. -/
theorem pairwise_idxOf_concat_of_not_mem {b : β} (fresh : key b ∉ front) :
    (listed ++ [b]).Pairwise fun first second =>
      (front ++ [key b]).idxOf (key first) < (front ++ [key b]).idxOf (key second) := by
  have kept := pairwise_idxOf_concat inside ordered (key b)
  refine List.pairwise_append.mpr ⟨kept, List.pairwise_singleton _ _, ?_⟩
  intro earlier member last same
  obtain rfl := List.mem_singleton.mp same
  have place := List.idxOf_lt_length_iff.mpr (inside earlier member)
  rw [List.idxOf_append_of_mem (inside earlier member), List.idxOf_append_of_notMem fresh]
  omega

end Order

namespace IsFirstSeen

theorem concat_of_mem (firstSeen : IsFirstSeen front seen) (again : a ∈ front) :
    IsFirstSeen (front ++ [a]) seen where
  complete other := by
    rw [firstSeen.complete, List.mem_append, List.mem_singleton]
    exact ⟨.inl, fun either => either.elim id fun same => same ▸ again⟩
  once := firstSeen.once
  ordered := pairwise_idxOf_concat (fun a => (firstSeen.complete a).mp) firstSeen.ordered a

theorem concat_of_not_mem (firstSeen : IsFirstSeen front seen) (fresh : a ∉ front) :
    IsFirstSeen (front ++ [a]) (seen ++ [a]) where
  complete other := by
    rw [List.mem_append, List.mem_append, firstSeen.complete]
  once := by
    have unseen : a ∉ seen := fun listed => fresh ((firstSeen.complete a).mp listed)
    rw [← List.concat_eq_append]
    exact firstSeen.once.concat unseen
  ordered := pairwise_idxOf_concat_of_not_mem (fun a => (firstSeen.complete a).mp)
    firstSeen.ordered fresh

end IsFirstSeen

theorem eraseDups_concat_of_mem (again : a ∈ front) :
    (front ++ [a]).eraseDups = front.eraseDups := by
  simp [List.eraseDups_append, List.removeAll, again]

theorem eraseDups_concat_of_not_mem (fresh : a ∉ front) :
    (front ++ [a]).eraseDups = front.eraseDups ++ [a] := by
  simp [List.eraseDups_append, List.removeAll, fresh, List.eraseDups_cons]

theorem isFirstSeen_eraseDups (source : List α) : IsFirstSeen source source.eraseDups := by
  induction source using List.reverseRecOn with
  | nil => exact ⟨fun _ => Iff.rfl, .nil, .nil⟩
  | append_singleton front a ih =>
      by_cases again : a ∈ front
      · rw [eraseDups_concat_of_mem again]
        exact ih.concat_of_mem again
      · rw [eraseDups_concat_of_not_mem again]
        exact ih.concat_of_not_mem again

theorem eraseDups_prefix_append (front back : List α) :
    front.eraseDups <+: (front ++ back).eraseDups := by
  rw [List.eraseDups_append]
  exact List.prefix_append _ _

theorem eraseDups_filter (p : α → Bool) (source : List α) :
    (source.filter p).eraseDups = source.eraseDups.filter p := by
  induction source using List.reverseRecOn with
  | nil => rfl
  | append_singleton front a ih =>
      rw [List.filter_append]
      cases holds : p a with
      | false =>
          by_cases again : a ∈ front
          · simp [eraseDups_concat_of_mem again, holds, ih]
          · simp [eraseDups_concat_of_not_mem again, holds, ih]
      | true =>
          have single : [a].filter p = [a] := by simp [holds]
          rw [single]
          by_cases again : a ∈ front
          · rw [eraseDups_concat_of_mem again, eraseDups_concat_of_mem (by simp [again, holds]), ih]
          · rw [eraseDups_concat_of_not_mem again, eraseDups_concat_of_not_mem (by simp [again]),
              List.filter_append, single, ih]

theorem eraseDups_of_nodup (distinct : source.Nodup) : source.eraseDups = source := by
  induction source using List.reverseRecOn with
  | nil => rfl
  | append_singleton front a ih =>
      obtain ⟨rest, -, apart⟩ := List.nodup_append.mp distinct
      have fresh : a ∉ front := fun again => apart a again a (List.mem_singleton_self a) rfl
      rw [eraseDups_concat_of_not_mem fresh, ih rest]

/-- Repetitions inside the parts of a list may be left out first. -/
theorem eraseDups_flatMap (source : List β) (f : β → List α) :
    (source.flatMap fun b => (f b).eraseDups).eraseDups = (source.flatMap f).eraseDups := by
  induction source with
  | nil => rfl
  | cons b rest ih =>
      have removed : ∀ others : List α,
          others.removeAll (f b).eraseDups = others.removeAll (f b) := by
        intro others
        refine List.filter_congr fun a _ => ?_
        by_cases inside : a ∈ f b <;> simp [inside]
      rw [List.flatMap_cons, List.flatMap_cons, List.eraseDups_append, List.eraseDups_append,
        removed, eraseDups_of_nodup (isFirstSeen_eraseDups (f b)).once, List.removeAll,
        List.removeAll, eraseDups_filter, eraseDups_filter, ih]

end HlsEmit

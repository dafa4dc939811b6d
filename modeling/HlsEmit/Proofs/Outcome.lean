import Mathlib.Data.List.Forall2

/-! # Outcomes of steps that can fail

How a composed outcome splits into the outcomes of its parts. Proofs about a
function written with these operations take its success or its failure apart with
the lemmas below and never unfold the operations.
-/

namespace HlsEmit.Outcome

variable {ε ε' α β γ : Type}

theorem map_eq_ok_iff {f : α → β} {x : Except ε α} {b : β} :
    x.map f = .ok b ↔ ∃ a, x = .ok a ∧ f a = b := by
  cases x <;> simp [Except.map]

theorem map_eq_error_iff {f : α → β} {x : Except ε α} {e : ε} :
    x.map f = .error e ↔ x = .error e := by
  cases x <;> simp [Except.map]

theorem mapError_eq_error_iff {f : ε → ε'} {x : Except ε α} {e : ε'} :
    x.mapError f = .error e ↔ ∃ inner, x = .error inner ∧ f inner = e := by
  cases x <;> simp [Except.mapError]

theorem mapError_bind (g : ε → ε') (x : Except ε α) (f : α → Except ε β) :
    (x.bind f).mapError g = (x.mapError g).bind fun a => (f a).mapError g := by
  cases x <;> rfl

theorem mapError_map (g : ε → ε') (x : Except ε α) (f : α → β) :
    (x.map f).mapError g = (x.mapError g).map f := by
  cases x <;> rfl

theorem mapError_mapError {ε'' : Type} (g : ε' → ε'') (h : ε → ε') (x : Except ε α) :
    (x.mapError h).mapError g = x.mapError fun reason => g (h reason) := by
  cases x <;> rfl

theorem bind_eq_ok_iff {x : Except ε α} {f : α → Except ε β} {b : β} :
    (x >>= f) = .ok b ↔ ∃ a, x = .ok a ∧ f a = .ok b := by
  cases x <;> simp [bind, Except.bind]

theorem bind_eq_error_iff {x : Except ε α} {f : α → Except ε β} {e : ε} :
    (x >>= f) = .error e ↔ x = .error e ∨ ∃ a, x = .ok a ∧ f a = .error e := by
  cases x <;> simp [bind, Except.bind]

/-- All steps of a list succeed exactly when each of them does. -/
theorem mapM_eq_ok_iff {f : α → Except ε β} {as : List α} {bs : List β} :
    as.mapM f = .ok bs ↔ List.Forall₂ (fun a b => f a = .ok b) as bs := by
  induction as generalizing bs with
  | nil => simp [pure, Except.pure, eq_comm]
  | cons a as ih =>
      simp only [List.mapM_cons, bind_eq_ok_iff, ih, List.forall₂_cons_left_iff]
      constructor
      · rintro ⟨b, first, rest, others, same⟩
        exact ⟨b, rest, first, others, (Except.ok.inj same).symm⟩
      · rintro ⟨b, rest, first, others, rfl⟩
        exact ⟨b, first, rest, others, rfl⟩

theorem exists_forall₂_iff {R : α → β → Prop} {as : List α} :
    (∃ bs, List.Forall₂ R as bs) ↔ ∀ a ∈ as, ∃ b, R a b := by
  induction as with
  | nil => simp
  | cons a as ih =>
      rw [List.forall_mem_cons, ← ih]
      constructor
      · rintro ⟨_, related⟩
        obtain ⟨b, bs, first, rest, -⟩ := List.forall₂_cons_left_iff.mp related
        exact ⟨⟨b, first⟩, bs, rest⟩
      · rintro ⟨⟨b, first⟩, bs, rest⟩
        exact ⟨b :: bs, .cons first rest⟩

theorem mapM_eq_ok_map {f : α → Except ε β} {g : α → β} {as : List α}
    (each : ∀ a ∈ as, f a = .ok (g a)) : as.mapM f = .ok (as.map g) :=
  mapM_eq_ok_iff.mpr (List.forall₂_map_right_iff.mpr (List.forall₂_same.mpr each))

theorem exists_of_mapM_eq_ok {f : α → Except ε β} {as : List α} {bs : List β}
    (run : as.mapM f = .ok bs) : ∀ a ∈ as, ∃ b, f a = .ok b :=
  exists_forall₂_iff.mp ⟨bs, mapM_eq_ok_iff.mp run⟩

theorem exists_of_mapM_eq_error {f : α → Except ε β} {as : List α} {e : ε}
    (failed : as.mapM f = .error e) : ∃ a ∈ as, f a = .error e := by
  induction as with
  | nil => simp [pure, Except.pure] at failed
  | cons a as ih =>
      rw [List.mapM_cons, bind_eq_error_iff] at failed
      rcases failed with first | ⟨b, _, failed⟩
      · exact ⟨a, by simp, first⟩
      · rcases bind_eq_error_iff.mp failed with rest | ⟨bs, _, last⟩
        · obtain ⟨other, member, failing⟩ := ih rest
          exact ⟨other, by simp [member], failing⟩
        · simp [pure, Except.pure] at last

/-- Steps that each put a value into its place succeed only if all values are there. -/
theorem exists_of_foldlM_map {f : α → Except ε γ} {g : β → α → γ → β} {as : List α} {b c : β}
    (run : as.foldlM (fun b a => (f a).map (g b a)) b = .ok c) :
    ∀ a ∈ as, ∃ value, f a = .ok value := by
  induction as generalizing b with
  | nil => intro a member; cases member
  | cons first rest ih =>
      rw [List.foldlM_cons] at run
      obtain ⟨next, step, later⟩ := bind_eq_ok_iff.mp run
      obtain ⟨value, given, -⟩ := map_eq_ok_iff.mp step
      intro a member
      rcases List.mem_cons.mp member with rfl | inside
      · exact ⟨value, given⟩
      · exact ih later a inside

theorem foldlM_map_of_ok {f : α → Except ε γ} {g : β → α → γ → β} {values : α → γ} {as : List α}
    {b : β} (each : ∀ a ∈ as, f a = .ok (values a)) :
    as.foldlM (fun b a => (f a).map (g b a)) b =
      .ok (as.foldl (fun b a => g b a (values a)) b) := by
  induction as generalizing b with
  | nil => rfl
  | cons first rest ih =>
      rw [List.foldlM_cons, each first List.mem_cons_self, List.foldl_cons]
      exact ih fun a member => each a (List.mem_cons_of_mem _ member)

/-- A fold reports its errors in other words if each of its steps does. -/
theorem foldlM_eq_mapError {g : ε → ε'} {f : β → α → Except ε' β} {f' : β → α → Except ε β}
    {as : List α} (each : ∀ a ∈ as, ∀ b, f b a = (f' b a).mapError g) (b : β) :
    as.foldlM f b = (as.foldlM f' b).mapError g := by
  induction as generalizing b with
  | nil => rfl
  | cons first rest ih =>
      rw [List.foldlM_cons, List.foldlM_cons, each first List.mem_cons_self]
      cases f' b first with
      | error reason => rfl
      | ok next => exact ih (fun a member => each a (List.mem_cons_of_mem _ member)) next

end HlsEmit.Outcome

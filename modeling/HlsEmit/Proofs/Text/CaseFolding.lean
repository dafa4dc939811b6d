import HlsEmit.Text.CaseMap

/-! # Lower case and the letters of ASCII

The lower case of a character may depend on the characters around it, but not on the case
of the letters from `A` to `Z`: neither which of them are cased nor which are passed over
at the end of a word changes when they are put in lower case. So texts that are equal up
to the case of these letters have the same lower case.
-/

namespace HlsEmit.Text

theorem toLower_eq_or_ascii (c : Char) : c.toLower = c ∨ c.toNat < 128 := by
  by_cases capital : c.val ≥ 'A'.val ∧ c.val ≤ 'Z'.val
  · exact .inr (Nat.lt_of_le_of_lt (UInt32.le_iff_toNat_le.mp capital.2) (by decide))
  · exact .inl (dif_neg capital)

/-- Whatever treats the letters of ASCII alike in both cases does so with all characters. -/
theorem apply_toLower {α : Type} {f : Char → α}
    (ascii : ∀ code < 128, f (Char.ofNat code).toLower = f (Char.ofNat code)) (c : Char) :
    f c.toLower = f c := by
  rcases toLower_eq_or_ascii c with same | small
  · rw [same]
  · have folded := ascii c.toNat small
    rwa [Char.ofNat_toNat] at folded

theorem lowerChar_toLower (c : Char) : lowerChar c.toLower = lowerChar c :=
  apply_toLower (by decide) c

theorem isCased_toLower (c : Char) : isCased c.toLower = isCased c :=
  apply_toLower (by decide) c

/-- No letter of ASCII is passed over. -/
theorem isCaseIgnorable_toLower (c : Char) : isCaseIgnorable c.toLower = isCaseIgnorable c := by
  apply apply_toLower
  intro code small
  have letter : ∀ code < 128, (Char.ofNat code).toLower = Char.ofNat code ∨
      (Char.ofNat code).isAlpha = true ∧ (Char.ofNat code).toLower.isAlpha = true := by decide
  rcases letter code small with same | ⟨capital, lowered⟩
  · rw [same]
  · simp [isCaseIgnorable, capital, lowered]

theorem toLower_eq_sigma_iff (c : Char) : c.toLower = 'Σ' ↔ c = 'Σ' :=
  decide_eq_decide.mp (apply_toLower (f := (decide <| · = 'Σ')) (by decide) c)

theorem startsCased_map_toLower (chars : List Char) :
    startsCased (chars.map Char.toLower) = startsCased chars := by
  have ignorable : isCaseIgnorable ∘ Char.toLower = isCaseIgnorable :=
    funext isCaseIgnorable_toLower
  rw [startsCased, startsCased, List.dropWhile_map, ignorable, List.head?_map, Option.any_map]
  simp only [isCased_toLower]

theorem lowerAfter_map_toLower (before chars : List Char) :
    lowerAfter (before.map Char.toLower) (chars.map Char.toLower) = lowerAfter before chars := by
  induction chars generalizing before with
  | nil => rfl
  | cons c rest ih =>
      rw [List.map_cons, lowerAfter, lowerAfter, ← List.map_cons, ih]
      simp only [toLower_eq_sigma_iff, startsCased_map_toLower, lowerChar_toLower]

/-- The case of the letters of ASCII is lost in lower case. -/
theorem lowerCase_foldAscii (text : String) : lowerCase (foldAscii text) = lowerCase text := by
  rw [lowerCase, foldAscii, String.toList_ofList, lowerCase]
  exact congrArg String.ofList (lowerAfter_map_toLower [] text.toList)

/-- A capital sigma is final after a letter of either case. -/
example : lowerCase "AΣ." = "aς." ∧ lowerCase (foldAscii "AΣ.") = "aς." := by decide +kernel

theorem lowerCase_eq_of_foldAscii_eq {text other : String}
    (same : foldAscii other = foldAscii text) : lowerCase other = lowerCase text := by
  rw [← lowerCase_foldAscii other, same, lowerCase_foldAscii]

end HlsEmit.Text

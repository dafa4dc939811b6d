import HlsEmit.Layer.Attribute
import HlsEmit.Text.CaseMap
import Mathlib

/-! # Characters of generated texts

Numbers are written with digits, a sign and a point, and no letter becomes a brace in
lower case. So whatever is made of an attribute has braces only if the attribute is a
text that has some.
-/

namespace HlsEmit

/-- The character may stand in a text without braces. -/
def IsPlain (c : Char) : Prop := c ≠ '\x7b' ∧ c ≠ '\x7d'

instance (c : Char) : Decidable (IsPlain c) :=
  inferInstanceAs (Decidable (c ≠ '\x7b' ∧ c ≠ '\x7d'))

/-- No brace occurs in the text. -/
def Unbraced (text : String) : Prop := ∀ c ∈ text.toList, IsPlain c

/-- Decided character by character, and not over all that exist. -/
instance (text : String) : Decidable (Unbraced text) :=
  List.decidableBAll IsPlain text.toList

theorem Unbraced.notMem {text : String} (clean : Unbraced text) :
    '\x7b' ∉ text.toList ∧ '\x7d' ∉ text.toList :=
  ⟨fun inside => (clean _ inside).1 rfl, fun inside => (clean _ inside).2 rfl⟩

theorem unbraced_append {front back : String} :
    Unbraced (front ++ back) ↔ Unbraced front ∧ Unbraced back := by
  simp only [Unbraced, String.toList_append, List.forall_mem_append]

theorem unbraced_join {texts : List String} :
    Unbraced (String.join texts) ↔ ∀ text ∈ texts, Unbraced text := by
  induction texts with
  | nil => simp [Unbraced]
  | cons text rest ih => rw [String.join_cons, unbraced_append, ih, List.forall_mem_cons]

theorem unbraced_ofList {chars : List Char} :
    Unbraced (String.ofList chars) ↔ ∀ c ∈ chars, IsPlain c := by
  rw [Unbraced, String.toList_ofList]

theorem isPlain_of_isDigit {c : Char} (digit : c.isDigit = true) : IsPlain c := by
  constructor
  · rintro rfl
    cases digit
  · rintro rfl
    cases digit

theorem isDigit_of_mem_toString {count : Nat} {c : Char} (inside : c ∈ (toString count).toList) :
    c.isDigit = true := by
  have digits : (toString count).toList = Nat.toDigits 10 count := Nat.toList_repr
  rw [digits] at inside
  exact Nat.isDigit_of_mem_toDigits (by decide) (by decide) inside

theorem unbraced_toString_nat (count : Nat) : Unbraced (toString count) :=
  fun _ inside => isPlain_of_isDigit (isDigit_of_mem_toString inside)

theorem unbraced_toString_int (number : Int) : Unbraced (toString number) := by
  cases number with
  | ofNat count => exact unbraced_toString_nat count
  | negSucc count =>
      have signed : toString (Int.negSucc count) = "-" ++ toString (count + 1) := rfl
      rw [signed, unbraced_append]
      exact ⟨by decide, unbraced_toString_nat _⟩

namespace Decimal

variable {digits : List Char}

theorem isPlain_of_mem_digits (d : Decimal) : ∀ c ∈ d.digits, IsPlain c :=
  fun _ inside =>
    isPlain_of_isDigit (Nat.isDigit_of_mem_toDigits (by decide) (by decide) inside)

theorem unbraced_pointed (plain : ∀ c ∈ digits, IsPlain c) (before : Nat) :
    Unbraced (pointed digits before) := by
  rw [pointed, unbraced_ofList]
  intro c inside
  rcases List.mem_append.mp inside with first | later
  · exact plain c (List.mem_of_mem_take first)
  · rcases List.mem_cons.mp later with rfl | later
    · decide
    · exact plain c (List.mem_of_mem_drop later)

theorem isPlain_of_mem_zeros {count : Nat} : ∀ c ∈ List.replicate count '0', IsPlain c := by
  intro c inside
  rw [List.eq_of_mem_replicate inside]
  decide

theorem unbraced_positional (d : Decimal) : Unbraced d.positional := by
  have plain := d.isPlain_of_mem_digits
  rw [positional]
  split
  · exact unbraced_ofList.mpr (List.forall_mem_append.mpr ⟨plain, isPlain_of_mem_zeros⟩)
  · split
    · exact unbraced_pointed plain _
    · refine unbraced_append.mpr ⟨by decide, ?_⟩
      exact unbraced_ofList.mpr (List.forall_mem_append.mpr ⟨isPlain_of_mem_zeros, plain⟩)

end Decimal

theorem Binary64.unbraced_positional (x : Binary64) : Unbraced x.positional := by
  have sign : Unbraced "-" := by decide
  have words : Unbraced "NaN" ∧ Unbraced "inf" ∧ Unbraced "0" := by decide
  rw [positional, written]
  simp only [apply_ite Unbraced, unbraced_append, sign, words, Decimal.unbraced_positional,
    ite_self, and_self]

/-- Only a text brings braces along. -/
theorem Attribute.unbraced_render {value : Attribute}
    (clean : ∀ text, value = .text text → Unbraced text) : Unbraced value.render := by
  cases value with
  | bool value => cases value <;> decide
  | int value => exact unbraced_toString_int _
  | float value => exact Binary64.unbraced_positional value
  | text value => exact clean value rfl

namespace Text

/-- The codes of the two braces. -/
def braceCodes : List Nat := [0x7B, 0x7D]

theorem isPlain_ofNat {code : Nat} (other : code ∉ braceCodes) : IsPlain (Char.ofNat code) := by
  have same : ∀ brace ∈ braceCodes, (Char.ofNat code).toNat = brace → code = brace := by
    intro brace listed coded
    rw [Char.toNat_ofNat] at coded
    split at coded
    · exact coded
    · simp [braceCodes, ← coded] at listed
  constructor
  · intro brace
    exact other (same 0x7B (by decide) (congrArg Char.toNat brace) ▸ by decide)
  · intro brace
    exact other (same 0x7D (by decide) (congrArg Char.toNat brace) ▸ by decide)

/-- The run moves no character to a brace. -/
def CaseRun.Avoids (run : CaseRun) (code : Nat) : Prop :=
  (code : Int) < run.first + run.delta ∨ (run.last : Int) + run.delta < code

instance (run : CaseRun) (code : Nat) : Decidable (run.Avoids code) :=
  inferInstanceAs (Decidable ((code : Int) < run.first + run.delta ∨
    (run.last : Int) + run.delta < code))

theorem lowerRuns_avoid : ∀ run ∈ lowerRuns, ∀ code ∈ braceCodes, run.Avoids code := by
  decide +kernel

theorem lowerSpecials_avoid :
    ∀ special ∈ lowerSpecials, ∀ code ∈ special.2, code ∉ braceCodes := by
  decide

theorem isPlain_apply {run : CaseRun} (avoids : ∀ code ∈ braceCodes, run.Avoids code) {c : Char}
    (moved : run.moves c = true) : IsPlain (run.apply c) := by
  simp only [CaseRun.moves, Bool.and_eq_true, decide_eq_true_eq] at moved
  obtain ⟨⟨least, most⟩, -⟩ := moved
  apply isPlain_ofNat
  intro listed
  have avoided := avoids _ listed
  have positive : ∀ code ∈ braceCodes, 0 < code := by decide
  have nonzero := positive _ listed
  rw [CaseRun.Avoids] at avoided
  omega

theorem isPlain_of_mem_mapCase {runs : List CaseRun} {specials : List (Nat × List Nat)}
    (runsAvoid : ∀ run ∈ runs, ∀ code ∈ braceCodes, run.Avoids code)
    (specialsAvoid : ∀ special ∈ specials, ∀ code ∈ special.2, code ∉ braceCodes) {c : Char}
    (plain : IsPlain c) : ∀ d ∈ mapCase runs specials c, IsPlain d := by
  intro d inside
  rw [mapCase] at inside
  split at inside
  · rename_i codes found
    obtain ⟨code, listed, rfl⟩ := List.mem_map.mp inside
    obtain ⟨before, after, shape, -⟩ := List.lookup_eq_some_iff.mp found
    have special : (c.toNat, codes) ∈ specials := by simp [shape]
    exact isPlain_ofNat (specialsAvoid _ special code listed)
  · split at inside
    · rename_i run found
      rw [List.mem_singleton.mp inside]
      have moved := List.find?_some (p := fun run : CaseRun => run.moves c) found
      exact isPlain_apply (runsAvoid run (List.mem_of_find?_eq_some found)) moved
    · rwa [List.mem_singleton.mp inside]

theorem isPlain_of_mem_lowerChar {c : Char} (plain : IsPlain c) :
    ∀ d ∈ lowerChar c, IsPlain d := by
  intro d inside
  rw [lowerChar] at inside
  split at inside
  · rename_i ascii
    have each : ∀ code < 128, IsPlain (Char.ofNat code) → IsPlain (Char.ofNat code).toLower := by
      decide
    have lowered := each c.toNat ascii
    rw [Char.ofNat_toNat] at lowered
    rw [List.mem_singleton.mp inside]
    exact lowered plain
  · exact isPlain_of_mem_mapCase lowerRuns_avoid lowerSpecials_avoid plain d inside

theorem isPlain_of_mem_lowerAfter {before chars : List Char} (plain : ∀ c ∈ chars, IsPlain c) :
    ∀ d ∈ lowerAfter before chars, IsPlain d := by
  induction chars generalizing before with
  | nil => simp [lowerAfter]
  | cons c rest ih =>
      obtain ⟨first, others⟩ := List.forall_mem_cons.mp plain
      intro d inside
      rw [lowerAfter] at inside
      rcases List.mem_append.mp inside with lowered | later
      · -- a sigma has lower-case forms of its own
        split at lowered
        · split at lowered <;> rw [List.mem_singleton.mp lowered] <;> decide
        · exact isPlain_of_mem_lowerChar first d lowered
      · exact ih others d later

theorem unbraced_lowerCase {text : String} (clean : Unbraced text) : Unbraced (lowerCase text) :=
  unbraced_ofList.mpr (isPlain_of_mem_lowerAfter clean)

end Text

end HlsEmit

/-! # Ranges of characters

Character properties and case mappings are given by ranges of code points.
-/

namespace HlsEmit.Text

/-- A set of characters: pairs of a first and a last code point. -/
abbrev Ranges := List (Nat × Nat)

/-- Whether the character lies in one of the ranges. -/
def Ranges.has (ranges : Ranges) (c : Char) : Bool :=
  ranges.any fun range => range.1 ≤ c.toNat && c.toNat ≤ range.2

/-- Code points that are all moved by the same amount. -/
structure CaseRun where
  first : Nat
  last : Nat
  /-- The distance from one code point of the run to the next. -/
  step : Nat
  /-- The amount added to each code point. -/
  delta : Int
  deriving Repr

/-- Whether the run moves the character. -/
def CaseRun.moves (run : CaseRun) (c : Char) : Bool :=
  run.first ≤ c.toNat && c.toNat ≤ run.last && (c.toNat - run.first) % run.step = 0

/-- The moved character. -/
def CaseRun.apply (run : CaseRun) (c : Char) : Char :=
  Char.ofNat (c.toNat + run.delta).toNat

/-- The image of a character under runs and a list of special cases. A character
    in neither stays as it is. -/
def mapCase (runs : List CaseRun) (specials : List (Nat × List Nat)) (c : Char) : List Char :=
  match specials.lookup c.toNat with
  | some codes => codes.map Char.ofNat
  | none =>
      match runs.find? (·.moves c) with
      | some run => [run.apply c]
      | none => [c]

end HlsEmit.Text

import HlsEmit.Binary64

/-! # Shortest decimals

The shortest decimal of a floating-point number is the one with the fewest
digits among all decimals that are read back as that number, and of several with
so few digits the nearest. Of two equally near ones a rule decides.
-/

namespace HlsEmit

/-- The decimal `coefficient * 10 ^ exponent`. -/
structure Decimal where
  /-- The digits, as one number. -/
  coefficient : Nat
  /-- The power of ten that the last digit counts. -/
  exponent : Int
  deriving DecidableEq, Repr

namespace Decimal

/-- The reals that are read as one floating-point number, as multiples of
    `1 / unit`. -/
structure Basin where
  value : Nat
  low : Nat
  high : Nat
  /-- Whether the ends belong to the basin. -/
  closed : Bool
  /-- The common denominator. -/
  unit : Nat
  deriving Repr

/-- The basin of a finite magnitude. Its ends lie halfway to the neighbours,
    and below a power of two the neighbours are twice as dense. -/
def Basin.of (x : Binary64) : Basin :=
  let scale := Nat.pow 2 x.shift
  let m := 4 * x.significand
  let below := if x.fractionField = 0 && 1 < x.exponentField then 1 else 2
  { value := m * scale
    low := (m - below) * scale
    high := (m + 2) * scale
    closed := x.significand % 2 = 0
    unit := Nat.pow 2 1076 }

/-- Whether `n * 10 ^ exponent` lies in the basin. -/
def Basin.holds (basin : Basin) (n : Nat) (exponent : Int) : Bool :=
  let point := n * Nat.pow 10 exponent.toNat * basin.unit
  let scale := Nat.pow 10 (-exponent).toNat
  if basin.closed then basin.low * scale ≤ point && point ≤ basin.high * scale
  else basin.low * scale < point && point < basin.high * scale

/-- The number of decimal digits of `n`. -/
def digitCount (n : Nat) : Nat := (Nat.toDigits 10 n).length

/-- The power of ten that the first digit of the basin's number counts. -/
def Basin.leading (basin : Basin) : Int :=
  let guess : Int := (digitCount basin.value : Int) - digitCount basin.unit
  let fits :=
    basin.unit * Nat.pow 10 guess.toNat ≤ basin.value * Nat.pow 10 (-guess).toNat
  if fits then guess else guess - 1

/-- Which of two equally near decimals is taken. -/
inductive Tie where
  | larger
  /-- The one whose last digit is even. -/
  | even
  deriving DecidableEq, Repr

/-- Whether `num / den` lies nearer to the whole number above it than to the one
    below it. -/
def Tie.roundsUp (tie : Tie) (num den : Nat) : Bool :=
  let twice := 2 * (num % den)
  den < twice || twice = den && (tie = .larger || num / den % 2 = 1)

/-- The decimal of the basin nearest to its number among those with the given
    count of digits, if there is one. -/
def Basin.nearest? (basin : Basin) (tie : Tie) (digits : Nat) : Option Decimal :=
  let exponent := basin.leading + 1 - digits
  let num := basin.value * Nat.pow 10 (-exponent).toNat
  let den := basin.unit * Nat.pow 10 exponent.toNat
  let below := num / den
  let up := tie.roundsUp num den
  let first := if up then below + 1 else below
  let second := if up then below else below + 1
  if basin.holds first exponent then some ⟨first, exponent⟩
  else if basin.holds second exponent then some ⟨second, exponent⟩
  else none

/-- The same decimal without zeros at the end of its coefficient. -/
def strip (d : Decimal) : Decimal :=
  go (digitCount d.coefficient) d
where
  /-- Drops at most `count` zeros. -/
  go : Nat → Decimal → Decimal
    | 0, d => d
    | count + 1, d =>
        if d.coefficient % 10 = 0 && d.coefficient ≠ 0
        then go count ⟨d.coefficient / 10, d.exponent + 1⟩
        else d

/-- The shortest decimal of a finite magnitude other than zero. Seventeen
    digits tell any two magnitudes apart, so the search ends there. -/
def shortest (tie : Tie) (x : Binary64) : Decimal :=
  let basin := Basin.of x
  (((List.range 17).findSome? fun i => basin.nearest? tie (i + 1)).getD
    ⟨x.significand, 0⟩).strip

end Decimal

end HlsEmit

/-! # Binary floating-point numbers of 64 bits

A number is its bit pattern. Arithmetic is exact on naturals: a magnitude is an
integral multiple of a power of two, and every result is rounded once, to the
nearest representable number, a half going to the even neighbour.
-/

namespace HlsEmit

/-- A floating-point number in the binary interchange format of 64 bits. -/
structure Binary64 where
  /-- Sign, eleven bits of exponent and 52 bits of fraction. -/
  bits : UInt64
  deriving DecidableEq, Repr

namespace Binary64

/-- Whether the sign bit is set. -/
def isNegative (x : Binary64) : Bool := x.bits.toNat / Nat.pow 2 63 = 1

/-- The biased exponent. -/
def exponentField (x : Binary64) : Nat := x.bits.toNat / Nat.pow 2 52 % Nat.pow 2 11

/-- The fraction below the leading bit. -/
def fractionField (x : Binary64) : Nat := x.bits.toNat % Nat.pow 2 52

/-- Whether the bits stand for no number at all. -/
def isNaN (x : Binary64) : Bool := x.exponentField = 2047 && x.fractionField ≠ 0

/-- Whether the number is an infinity. -/
def isInfinite (x : Binary64) : Bool := x.exponentField = 2047 && x.fractionField = 0

/-- Whether the number is zero, of either sign. -/
def isZero (x : Binary64) : Bool := x.exponentField = 0 && x.fractionField = 0

/-- The integer `m` of a finite magnitude `m * 2 ^ (e - 1074)`. -/
def significand (x : Binary64) : Nat :=
  if x.exponentField = 0 then x.fractionField else Nat.pow 2 52 + x.fractionField

/-- The shift `e` of a finite magnitude `m * 2 ^ (e - 1074)`. -/
def shift (x : Binary64) : Nat := x.exponentField - 1

/-- The number with the sign bit set or cleared. -/
def withSign (negative : Bool) (x : Binary64) : Binary64 :=
  ⟨UInt64.ofNat (x.bits.toNat % Nat.pow 2 63 + if negative then Nat.pow 2 63 else 0)⟩

/-- Positive zero. -/
def zero : Binary64 := ⟨0⟩

/-- Positive infinity. -/
def infinity : Binary64 := ⟨0x7FF0000000000000⟩

/-- A quotient of naturals, rounded to an integer, a half going to the even
    neighbour. -/
def roundHalfEven (num den : Nat) : Nat :=
  let quotient := num / den
  let twice := 2 * (num % den)
  if twice < den then quotient
  else if den < twice then quotient + 1
  else quotient + quotient % 2

/-- The shift at which `num / den` has 53 significant bits, or zero for numbers
    too small for that. The exponent of the leading bit is the difference of the
    logarithms, or one less. -/
def shiftOfRatio (num den : Nat) : Nat :=
  let log : Int := (Nat.log2 num : Int) - Nat.log2 den
  let fits (exponent : Int) : Bool :=
    if 0 ≤ exponent then den * Nat.pow 2 exponent.toNat ≤ num
    else den ≤ num * Nat.pow 2 (-exponent).toNat
  let leading := if fits log then log else log - 1
  (leading + 1022).toNat

/-- The number nearest to `num / den`, infinity when that is out of range. The value is
    `rounded * 2 ^ (shift - 1074)`. -/
def ofRatio (num den : Nat) : Binary64 :=
  if num = 0 then zero
  else
    let shift := shiftOfRatio num den
    let rounded :=
      if shift ≤ 1074 then roundHalfEven (num * Nat.pow 2 (1074 - shift)) den
      else roundHalfEven num (den * Nat.pow 2 (shift - 1074))
    let bits := shift * Nat.pow 2 52 + rounded
    if bits < 2047 * Nat.pow 2 52 then ⟨UInt64.ofNat bits⟩ else infinity

/-- The number nearest to a natural number. -/
def ofNat (n : Nat) : Binary64 := ofRatio n 1

/-- The number nearest to the power of ten. -/
def powerOfTen (n : Nat) : Binary64 := ofNat (Nat.pow 10 n)

/-- The product of two finite positive numbers, rounded. -/
def mul (x y : Binary64) : Binary64 :=
  ofRatio (x.significand * y.significand * Nat.pow 2 (x.shift + y.shift)) (Nat.pow 2 2148)

/-- The quotient of two finite positive numbers, rounded. -/
def div (x y : Binary64) : Binary64 :=
  ofRatio (x.significand * Nat.pow 2 x.shift) (y.significand * Nat.pow 2 y.shift)

end Binary64

end HlsEmit

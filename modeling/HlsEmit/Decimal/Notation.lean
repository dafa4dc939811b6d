import HlsEmit.Decimal.Shortest

/-! # Written decimals

Two ways to write a decimal: positional, which never shows an exponent, and
scientific, which shows one for very large and very small numbers and always
has a fractional part.
-/

namespace HlsEmit

namespace Decimal

def digits (d : Decimal) : List Char := Nat.toDigits 10 d.coefficient

/-- How many digits stand before the point; none or fewer for a pure fraction. -/
def point (d : Decimal) : Int := d.exponent + d.digits.length

/-- The digits with a point after the first `before` of them. -/
def pointed (digits : List Char) (before : Nat) : String :=
  String.ofList (digits.take before ++ '.' :: digits.drop before)

/-- Positional notation, with a point only where there are fractional digits. -/
def positional (d : Decimal) : String :=
  if 0 ≤ d.exponent then
    String.ofList (d.digits ++ List.replicate d.exponent.toNat '0')
  else if 0 < d.point then pointed d.digits d.point.toNat
  else "0." ++ String.ofList (List.replicate (-d.point).toNat '0' ++ d.digits)

/-- Positional with at least one fractional digit while the point lies within
    sixteen digits or five zeros of the first digit, and otherwise one digit, a
    fraction if more digits follow, and a power of ten. -/
def scientific (d : Decimal) : String :=
  if 0 ≤ d.exponent && d.point ≤ 16 then d.positional ++ ".0"
  else if -5 < d.point && d.point ≤ 16 then d.positional
  else
    let mantissa :=
      if d.digits.length = 1 then String.ofList d.digits else pointed d.digits 1
    s!"{mantissa}e{d.point - 1}"

end Decimal

namespace Binary64

/-- A number written through `decimal`, with a sign where the sign bit is set
    and `zero` for the digits of a zero. A pattern that is no number has no
    sign. -/
def written (tie : Decimal.Tie) (decimal : Decimal → String) (zero : String) (x : Binary64) :
    String :=
  if x.isNaN then "NaN"
  else
    let magnitude :=
      if x.isInfinite then "inf"
      else if x.isZero then zero
      else decimal (Decimal.shortest tie x)
    if x.isNegative then "-" ++ magnitude else magnitude

/-- The shortest digits that are read back as the number, without exponent. A tie
    goes to the larger decimal. -/
def positional (x : Binary64) : String := x.written .larger Decimal.positional "0"

/-- The shortest digits that are read back as the number, with a fractional part
    or an exponent. A tie goes to the even digit. -/
def scientific (x : Binary64) : String := x.written .even Decimal.scientific "0.0"

end Binary64

end HlsEmit

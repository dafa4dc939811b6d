import HlsEmit.Json.Reader

/-! # JSON numbers

Integers of 64 bits are exact. All other numbers are floating-point: their first
digits, as many as an unsigned 64-bit integer holds, are scaled by a power of ten
in one or more rounded steps, so the result is not always the nearest number.
-/

namespace HlsEmit.Json

open Text (byteSize)

/-- A number as it is read. -/
inductive Number where
  /-- An integer that is not negative. -/
  | natural (value : Nat)
  /-- The negation of an integer greater than zero. -/
  | negative (magnitude : Nat)
  | float (value : Binary64)
  deriving DecidableEq, Repr

/-- The number as a value found where another was wanted. -/
def Number.found : Number → Found
  | natural value => .integer value
  | negative magnitude => .integer (-magnitude)
  | float value => .float value

namespace Number

/-- The greatest significand. -/
def maxSignificand : Nat := Nat.pow 2 64 - 1

/-- The greatest written exponent. -/
def maxExponent : Nat := Nat.pow 2 31 - 1

/-- The value of a decimal digit. -/
def digitValue (c : Char) : Nat := c.toNat - '0'.toNat

/-- Append digits to a significand as long as it does not become too great. The
    digits left over are returned. -/
def accumulate (significand : Nat) : List Char → Nat × List Char
  | [] => (significand, [])
  | c :: rest =>
      let next := significand * 10 + digitValue c
      if maxSignificand < next then (significand, c :: rest) else accumulate next rest

/-- Scale by a power of ten. There is no result beyond the greatest number. -/
def scale (value : Binary64) (exponent : Int) : Option Binary64 :=
  if exponent.natAbs ≤ 308 then
    if 0 ≤ exponent then
      let scaled := value.mul (.powerOfTen exponent.toNat)
      if scaled.isInfinite then none else some scaled
    else some (value.div (.powerOfTen (-exponent).toNat))
  else if value.isZero then some value
  else if 0 ≤ exponent then none
  else scale (value.div (.powerOfTen 308)) (exponent + 308)
termination_by exponent.natAbs

/-- The number of a significand and an exponent, in front of `rest`. -/
def ofParts (negative : Bool) (significand : Nat) (exponent : Int) (rest : List Char) :
    Except Fault (Number × List Char) :=
  match scale (.ofNat significand) exponent with
  | some value => .ok (.float (value.withSign negative), rest)
  | none => .error ⟨.numberOutOfRange, byteSize rest⟩

/-- The value of a written exponent and the rest, or none and the rest after the
    digit with which it became too great. -/
def exponentValue (value : Nat) : List Char → Option Nat × List Char
  | [] => (some value, [])
  | c :: rest =>
      if c.isDigit then
        let next := value * 10 + digitValue c
        if maxExponent < next then (none, rest) else exponentValue next rest
      else (some value, c :: rest)

/-- The number whose exponent is written in `rest`, after its mark. -/
def withExponent (negative : Bool) (significand : Nat) (exponent : Int) (rest : List Char) :
    Except Fault (Number × List Char) :=
  let (negativeExponent, digits) : Bool × List Char :=
    match rest with
    | '+' :: after => (false, after)
    | '-' :: after => (true, after)
    | after => (false, after)
  match digits with
  | [] => .error ⟨.endInValue, 0⟩
  | c :: after =>
      if c.isDigit then
        match exponentValue (digitValue c) after with
        | (some written, rest) =>
            ofParts negative significand
              (if negativeExponent then exponent - written else exponent + written) rest
        | (none, rest) =>
            if significand ≠ 0 ∧ ¬negativeExponent then
              .error ⟨.numberOutOfRange, byteSize rest⟩
            else .ok (.float (Binary64.zero.withSign negative), rest.dropWhile Char.isDigit)
      else .error ⟨.invalidNumber, byteSize (c :: after) - 1⟩

/-- The number whose exponent, if there is one, comes next. -/
def withOptionalExponent (negative : Bool) (significand : Nat) (exponent : Int) :
    List Char → Except Fault (Number × List Char)
  | 'e' :: rest | 'E' :: rest => withExponent negative significand exponent rest
  | rest => ofParts negative significand exponent rest

/-- The number whose fraction is written in `rest`, after its point. -/
def withFraction (negative : Bool) (significand : Nat) (exponent : Int) (rest : List Char) :
    Except Fault (Number × List Char) :=
  let digits := rest.takeWhile Char.isDigit
  let after := rest.dropWhile Char.isDigit
  if digits.isEmpty then
    if rest.isEmpty then .error ⟨.endInValue, 0⟩
    else .error ⟨.invalidNumber, byteSize rest - 1⟩
  else
    let (significand, left) := accumulate significand digits
    withOptionalExponent negative significand (exponent - (digits.length - left.length : Nat)) after

/-- The number with the given digits before its point, of which `dropped` more
    than the significand holds. -/
def afterInteger (negative : Bool) (significand dropped : Nat) :
    List Char → Except Fault (Number × List Char)
  | '.' :: rest => withFraction negative significand dropped rest
  | rest =>
      match rest with
      | 'e' :: _ | 'E' :: _ => withOptionalExponent negative significand dropped rest
      | _ =>
          if dropped ≠ 0 then ofParts negative significand dropped rest
          else if ¬negative then .ok (.natural significand, rest)
          else if significand ≠ 0 ∧ significand ≤ Nat.pow 2 63 then
            .ok (.negative significand, rest)
          else .ok (.float ((Binary64.ofNat significand).withSign true), rest)

def afterSign (negative : Bool) : List Char → Except Fault (Number × List Char)
  | [] => .error ⟨.endInValue, 0⟩
  | '0' :: rest =>
      if rest.head?.any Char.isDigit then .error ⟨.invalidNumber, byteSize rest - 1⟩
      else afterInteger negative 0 0 rest
  | c :: rest =>
      if c.isDigit then
        let (significand, left) := accumulate 0 (c :: rest.takeWhile Char.isDigit)
        afterInteger negative significand left.length (rest.dropWhile Char.isDigit)
      else .error ⟨.invalidNumber, byteSize (c :: rest) - 1⟩

def read : List Char → Except Fault (Number × List Char)
  | '-' :: rest => afterSign true rest
  | rest => afterSign false rest

/-- The text after the digits of an exponent, whose mark has been passed. -/
def skipExponent (rest : List Char) : Except Fault (List Char) :=
  let digits :=
    match rest with
    | '+' :: after | '-' :: after => after
    | after => after
  if digits.head?.any Char.isDigit then .ok (digits.dropWhile Char.isDigit)
  else .error ⟨.invalidNumber, byteSize digits - 1⟩

/-- The text after an exponent, if there is one. -/
def skipOptionalExponent : List Char → Except Fault (List Char)
  | 'e' :: rest | 'E' :: rest => skipExponent rest
  | rest => .ok rest

/-- The text after the digits of an integer. -/
def skipAfterInteger : List Char → Except Fault (List Char)
  | '.' :: rest =>
      if rest.head?.any Char.isDigit then skipOptionalExponent (rest.dropWhile Char.isDigit)
      else .error ⟨.invalidNumber, byteSize rest - 1⟩
  | rest => skipOptionalExponent rest

/-- The text after a number without sign, whose value does not matter. -/
def skipUnsigned : List Char → Except Fault (List Char)
  | [] => .error ⟨.invalidNumber, 0⟩
  | '0' :: rest =>
      if rest.head?.any Char.isDigit then .error ⟨.invalidNumber, byteSize rest - 1⟩
      else skipAfterInteger rest
  | c :: rest =>
      if c.isDigit then skipAfterInteger (rest.dropWhile Char.isDigit)
      else .error ⟨.invalidNumber, byteSize (c :: rest) - 1⟩

/-- The text after a number whose value does not matter. -/
def skip : List Char → Except Fault (List Char)
  | '-' :: rest => skipUnsigned rest
  | rest => skipUnsigned rest

end Number

namespace Reader

/-- A number whose sign or first digit is next. -/
def number : Reader Number := fun rest => Number.read rest

/-- Pass over a number whose sign or first digit is next. -/
def skipNumber : Reader Unit := fun rest => (Number.skip rest).map fun after => ((), after)

end Reader

end HlsEmit.Json

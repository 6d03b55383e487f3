import Versor.Number.Power

/-!
# Binary floating point formats

A finite value of a binary format is a dyadic number `m * 2 ^ e` with a
bounded natural `m` and a bounded integer `e`.  `Format.roundRatio` takes a
quotient of naturals to the nearest such value, ties going to the even
significand, and reports when the quotient is too large for the format.
`Dyadic.ofFloat` reads the value of a double and `Dyadic.toFloat` builds it.
-/

namespace Versor

/-- The extent of a binary floating point format. -/
structure Format where
  /-- Number of significand digits. -/
  precision : Nat
  /-- Exponent of the last digit of the smallest values. -/
  lowest : Int
  /-- Exponent of the last digit of the largest values. -/
  highest : Int
deriving DecidableEq

namespace Format

/-- Doubles. -/
def binary64 : Format := ⟨53, -1074, 971⟩

/-- Single precision. -/
def binary32 : Format := ⟨24, -149, 104⟩

/-- Half precision. -/
def binary16 : Format := ⟨11, -24, 5⟩

/-- Half precision with the exponents of single precision. -/
def bfloat16 : Format := ⟨8, -133, 120⟩

end Format

/-- The dyadic number `significand * 2 ^ exponent`. -/
structure Dyadic where
  significand : Nat
  exponent : Int
deriving DecidableEq

/-- The value of a double, split by kind. -/
inductive FloatValue
  | finite (negative : Bool) (magnitude : Dyadic)
  | infinite (negative : Bool)
  | indefinite
deriving DecidableEq

namespace FloatValue

/-- The value that the 64 bits of a double stand for. -/
def ofFloat
    (value : Float) :
    FloatValue :=
  let bits : Nat := value.toBits.toNat
  let negative : Bool := bits / twoTo 63 % 2 == 1
  let biased : Nat := bits / twoTo 52 % twoTo 11
  let fraction : Nat := bits % twoTo 52
  if biased = 2047 then
    if fraction = 0 then .infinite negative else .indefinite
  else if biased = 0 then
    .finite negative ⟨fraction, -1074⟩
  else
    .finite negative ⟨fraction + twoTo 52, (biased : Int) - 1075⟩

end FloatValue

/-- Number of binary digits of a natural number. -/
def binaryLength
    (value : Nat) :
    Nat :=
  if value = 0 then 0 else Nat.log2 value + 1

/-- The quotient of two naturals to the nearest integer, ties to the even one. -/
def roundQuotient
    (numerator denominator : Nat) :
    Nat :=
  let quotient := numerator / denominator
  let doubled := 2 * (numerator % denominator)
  if doubled < denominator then quotient
  else if denominator < doubled then quotient + 1
  else quotient + quotient % 2

namespace Dyadic

/-- The double of the given sign equal to a dyadic number, which must be one. -/
def toFloat
    (negative : Bool)
    (magnitude : Dyadic) :
    Float :=
  let length := binaryLength magnitude.significand
  let exponent := max (-1074) (magnitude.exponent + (length : Int) - 53)
  let shift := exponent - magnitude.exponent
  let significand :=
    if shift < 0 then magnitude.significand * twoTo (-shift).toNat
    else magnitude.significand / twoTo shift.toNat
  let bits :=
    if significand < twoTo 52 then significand
    else significand - twoTo 52 + (exponent + 1075).toNat * twoTo 52
  Float.ofBits (UInt64.ofNat (bits + if negative then twoTo 63 else 0))

/-- The rational value of a dyadic number. -/
def toRat
    (magnitude : Dyadic) :
    Rat :=
  if magnitude.exponent < 0 then
    mkRat (magnitude.significand : Int) (twoTo (-magnitude.exponent).toNat)
  else
    ((magnitude.significand * twoTo magnitude.exponent.toNat : Nat) : Rat)

end Dyadic

namespace Format

/-- The quotient scaled by a power of two, rounded to an integer. -/
def roundScaled
    (numerator denominator : Nat)
    (exponent : Int) :
    Nat :=
  if exponent < 0 then
    roundQuotient (numerator * twoTo (-exponent).toNat) denominator
  else
    roundQuotient numerator (denominator * twoTo exponent.toNat)

/-- Whether the quotient is at least `2 ^ exponent`. -/
def reachesPower
    (numerator denominator : Nat)
    (exponent : Int) :
    Bool :=
  if exponent < 0 then
    denominator ≤ numerator * twoTo (-exponent).toNat
  else
    denominator * twoTo exponent.toNat ≤ numerator

/-- The last-digit exponent that the format gives to a quotient. -/
def exponentFor
    (format : Format)
    (numerator denominator : Nat) :
    Int :=
  let estimate :=
    (binaryLength numerator : Int) - (binaryLength denominator : Int)
  let leading :=
    if reachesPower numerator denominator estimate then estimate
    else estimate - 1
  max format.lowest (leading + 1 - (format.precision : Int))

/--
The value of the format nearest to a quotient of naturals, ties to the even
significand; nothing when it would exceed the format's largest value.
-/
def roundRatio
    (format : Format)
    (numerator denominator : Nat) :
    Option Dyadic :=
  let exponent := format.exponentFor numerator denominator
  let significand := roundScaled numerator denominator exponent
  if format.highest < exponent then none
  else if exponent = format.highest ∧ twoTo format.precision ≤ significand then none
  else some ⟨significand, exponent⟩

/-- The value of the format nearest to a rational, as a double. -/
def roundRat?
    (format : Format)
    (value : Rat) :
    Option Float :=
  (format.roundRatio value.num.natAbs value.den).map
    (Dyadic.toFloat (value.num < 0))

/-- The largest value of a format. -/
def largest
    (format : Format) :
    Dyadic :=
  ⟨twoTo format.precision - 1, format.highest⟩

/-- A double rounded to a narrower format; too large a value becomes infinite. -/
def roundFloat
    (format : Format)
    (value : Float) :
    Float :=
  match FloatValue.ofFloat value with
  | .finite negative magnitude =>
      let exact := magnitude.toRat
      match format.roundRatio exact.num.natAbs exact.den with
      | some rounded => rounded.toFloat negative
      | none => if negative then -1.0 / 0.0 else 1.0 / 0.0
  | _ => value

end Format

/-- The exact rational value of a finite double. -/
def ratOfFloat?
    (value : Float) :
    Option Rat :=
  match FloatValue.ofFloat value with
  | .finite negative magnitude =>
      some (if negative then -magnitude.toRat else magnitude.toRat)
  | _ => none

end Versor

import Versor.Number.Binary

/-!
# Shortest decimal text of a double

The reals which round to a finite double form an interval around it, with
its ends included exactly when the significand is even.  `shortestDecimal`
looks for a decimal number in that interval on coarser and finer grids: the
first grid that has one decides the number of digits, and of two candidates
on it the nearer one is taken, a tie going to the even digit.

`NumberLayout` holds the choices that a written form adds to the digits.
-/

namespace Versor

/-- The decimal number `digits * 10 ^ exponent`. -/
structure Decimal where
  digits : Nat
  exponent : Int
deriving DecidableEq

/-- Number of decimal digits of a natural number. -/
def decimalLength
    (value : Nat) :
    Nat :=
  (Nat.toDigits 10 value).length

/-- The exponent of the leading decimal digit of a positive quotient. -/
def leadingExponent
    (numerator denominator : Nat) :
    Int :=
  if denominator ≤ numerator then
    (decimalLength (numerator / denominator) : Int) - 1
  else
    let length := decimalLength (denominator / numerator)
    if numerator * tenTo (length - 1) = denominator then 1 - (length : Int)
    else -(length : Int)

/-- The reals that round to one positive double, in units of a quarter of its last digit. -/
structure RoundingInterval where
  lower : Nat
  middle : Nat
  upper : Nat
  /-- Whether the two ends round to the double as well. -/
  closed : Bool

namespace RoundingInterval

/-- The interval of a positive double; below a power of two the grid is finer. -/
def ofDyadic
    (magnitude : Dyadic) :
    RoundingInterval :=
  let middle := 4 * magnitude.significand
  let belowGap :=
    if magnitude.significand = twoTo 52 ∧ -1074 < magnitude.exponent then 1 else 2
  ⟨middle - belowGap, middle, middle + 2, magnitude.significand % 2 == 0⟩

/--
The candidate on one decimal grid: of the two grid points next to the
double, those in the interval, and of these the nearer one.  The unit of the
interval is `numerator / denominator` grid steps.
-/
def candidate?
    (interval : RoundingInterval)
    (numerator denominator : Nat) :
    Option Nat :=
  let contains (point : Nat) : Bool :=
    let scaled := point * denominator
    let low := interval.lower * numerator
    let high := interval.upper * numerator
    if interval.closed then low ≤ scaled ∧ scaled ≤ high
    else low < scaled ∧ scaled < high
  let middle := interval.middle * numerator
  let below := middle / denominator
  let above := below + 1
  if contains below then
    if contains above then
      let belowGap := middle - below * denominator
      let aboveGap := above * denominator - middle
      if belowGap < aboveGap then some below
      else if aboveGap < belowGap then some above
      else some (below + below % 2)
    else some below
  else if contains above then some above
  else none

end RoundingInterval

/-- Drop at most `limit` trailing zeros of a decimal number. -/
def Decimal.trim
    (limit : Nat)
    (value : Decimal) :
    Decimal :=
  match limit with
  | 0 => value
  | limit + 1 =>
      if value.digits % 10 = 0 ∧ value.digits ≠ 0 then
        Decimal.trim limit ⟨value.digits / 10, value.exponent + 1⟩
      else value

/-- The shortest decimal number that rounds to a positive double, nearest to it. -/
def shortestDecimal
    (magnitude : Dyadic) :
    Decimal :=
  let interval := RoundingInterval.ofDyadic magnitude
  let exact := magnitude.toRat
  let leading := leadingExponent exact.num.natAbs exact.den
  let onGrid (length : Nat) : Option Decimal :=
    let exponent := leading - (length : Int)
    let binary := magnitude.exponent - 2
    let numerator := twoTo binary.toNat * tenTo (-exponent).toNat
    let denominator := twoTo (-binary).toNat * tenTo exponent.toNat
    (interval.candidate? numerator denominator).map fun digits => ⟨digits, exponent⟩
  match (List.range 17).findSome? onGrid with
  | some found => found.trim 20
  | none => ⟨0, 0⟩

/-- How numbers are laid out as text. -/
structure NumberLayout where
  /-- Smallest exponent of a leading digit written without an exponent mark. -/
  lowestPositional : Int
  /-- Largest exponent of a leading digit written without an exponent mark. -/
  highestPositional : Int
  /-- An exponent has at least this many digits. -/
  exponentWidth : Nat
  indefinite : String
  infinity : String

/-- Plain text, as in messages: sixteen places before exponents are used. -/
def NumberLayout.plain : NumberLayout :=
  ⟨-4, 15, 2, "nan", "inf"⟩

/-- Interchange text, which differs in the names of the values that are no numbers. -/
def NumberLayout.interchange : NumberLayout :=
  ⟨-4, 15, 2, "NaN", "Infinity"⟩

namespace NumberLayout

/-- Text of a count padded with zeros on the left. -/
def padded
    (width : Nat)
    (text : String) :
    String :=
  String.ofList (List.replicate (width - text.length) '0') ++ text

/-- Text of a positive decimal number. -/
def renderDecimal
    (layout : NumberLayout)
    (value : Decimal) :
    String :=
  let digits := (Nat.toDigits 10 value.digits)
  let leading := value.exponent + (digits.length : Int) - 1
  if leading < layout.lowestPositional ∨ layout.highestPositional < leading then
    let fraction :=
      match digits.tail with
      | [] => ""
      | rest => "." ++ String.ofList rest
    let sign := if leading < 0 then "-" else "+"
    String.ofList (digits.take 1) ++ fraction ++ "e" ++ sign ++
      padded layout.exponentWidth (toString leading.natAbs)
  else if leading < 0 then
    "0." ++ String.ofList (List.replicate (leading.natAbs - 1) '0') ++
      String.ofList digits
  else
    let whole := leading.toNat + 1
    let integral := digits.take whole ++ List.replicate (whole - digits.length) '0'
    let fraction :=
      match digits.drop whole with
      | [] => ['0']
      | rest => rest
    String.ofList integral ++ "." ++ String.ofList fraction

/-- Text of a double. -/
def render
    (layout : NumberLayout)
    (value : Float) :
    String :=
  match FloatValue.ofFloat value with
  | .indefinite => layout.indefinite
  | .infinite negative => (if negative then "-" else "") ++ layout.infinity
  | .finite negative magnitude =>
      let sign := if negative then "-" else ""
      if magnitude.significand = 0 then sign ++ "0.0"
      else sign ++ layout.renderDecimal (shortestDecimal magnitude)

end NumberLayout

end Versor

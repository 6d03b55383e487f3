import Versor.Error
import Versor.Literal.Written

/-!
# Quantities

A setting that wants a number also takes a truth value, which counts as one
or zero.  A quantity remembers which of the two it was given, because the
setting is shown and saved as it was given.
-/

namespace Versor

/-- A number of a setting as it was given. -/
inductive Quantity
  | truth (value : Bool)
  | number (value : JsonNumber)

namespace Quantity

/-- The quantity that a value is, if it is a number or a truth value. -/
def ofJson? : Json → Option Quantity
  | .boolean value => some (.truth value)
  | .number value => some (.number value)
  | _ => none

/-- The value that a quantity was given as. -/
def toJson : Quantity → Json
  | .truth value => .boolean value
  | .number value => .number value

/-- A quantity as a literal. -/
def toLiteral
    (quantity : Quantity) :
    Literal :=
  Literal.ofPlain quantity.toJson

/-- Whether a quantity is less than zero. -/
def isNegative : Quantity → Bool
  | .truth _ => false
  | .number value => value.isNegative

/-- Whether a quantity is greater than zero. -/
def isPositive : Quantity → Bool
  | .truth value => value
  | .number value => value.isPositive

/-- The largest count that does not exceed a quantity, unless none ever does. -/
def capacity? : Quantity → Option Nat
  | .truth value => some (if value then 1 else 0)
  | .number (.integer value) => some value.toNat
  | .number (.real value) =>
      (ratOfFloat? value).map fun exact => exact.floor.toNat
  | .number (.indefinite _) => none

/-- The double closest to a quantity, which must not be too large. -/
def toFloat : Quantity → Except Error Float
  | .truth value => .ok (if value then 1.0 else 0.0)
  | .number (.integer value) =>
      match Format.binary64.roundRat? (value : Rat) with
      | some rounded => .ok rounded
      | none => .error .numberTooLarge
  | .number (.real value) => .ok value
  | .number (.indefinite _) => .ok (0.0 / 0.0)

end Quantity

end Versor

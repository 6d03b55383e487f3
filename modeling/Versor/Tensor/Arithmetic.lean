import Versor.Tensor.ElementType

/-!
# Arithmetic on elements

Programs need very little of the numbers that they run on: addition,
multiplication, conversion between element types and a value for every
rational coefficient, which may be missing when the coefficient is too
large.  The operations take the element type in which they are carried out.
`RealArithmetic` adds what the closed formulas of motions need.  Nothing in
this library that is generic over these classes depends on how the numbers
behave.
-/

namespace Versor

/-- Numbers that programs can run on. -/
class Arithmetic (Number : Type) where
  zero : Number
  /-- Conversion to an element type. -/
  cast : ElementType → Number → Number
  add : ElementType → Number → Number → Number
  mul : ElementType → Number → Number → Number
  /-- The number for a coefficient, missing when it is too large. -/
  ofRat? : Rat → Option Number
  /-- Whether a tensor of an element type may be filled with a number. -/
  fits : ElementType → Number → Bool
  /-- Whether multiplying by a coefficient changes nothing. -/
  isOne : Number → Bool

/-- Numbers with the functions of real analysis. -/
class RealArithmetic (Number : Type) extends Arithmetic Number where
  ofInt : Int → Number
  neg : ElementType → Number → Number
  abs : ElementType → Number → Number
  div : ElementType → Number → Number → Number
  sqrt : ElementType → Number → Number
  sin : ElementType → Number → Number
  cos : ElementType → Number → Number
  /-- The angle of the point with a given ordinate and abscissa. -/
  arctan2 : ElementType → Number → Number → Number
  /-- The type in which entries of a type are compared with a bound. -/
  boundType : ElementType → Number → ElementType
  less : Number → Number → Bool
  isZero : Number → Bool

end Versor

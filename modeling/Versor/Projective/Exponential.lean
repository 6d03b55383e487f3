import Versor.Projective.Conversion

/-!
# Exponential and logarithm of motors

The square of a line is a dual number `s + p I`, and with the length
`u + v I` of the line, where `u` is the root of `-s` and `v` is `-p / (2 u)`,

`exp L = cos u - v sin u I + (sin u + v cos u I) L / |L|`.

The logarithm takes the bivector part of a motor and its length apart, reads
the angle off the scalar part and the length, and scales the bivector.  The
ideal part of the angle comes from the pseudoscalar instead of the length
where the scalar part is below a bound, since it would be divided by it.
-/

namespace Versor
namespace Compute

variable {Number : Type} [RealArithmetic Number]

/-- The scalar and the pseudoscalar part of the square of a line. -/
def squareParts
    (line : Entity Number) :
    Compute Number (Tensor Number × Tensor Number) := do
  let square ← applyLibrary .square [line]
  let scalarPart ← component square (.integer 0)
  let idealPart ← component square (.integer (Blade.e0123 : Nat))
  return (scalarPart, idealPart)

/-- The negation of one tensor divided by another. -/
def negatedQuotient
    (numerator denominator : Tensor Number) :
    Except Error (Tensor Number) := do
  let numerator ← numerator.neg
  numerator.div denominator

/-- Twice a tensor. -/
def twice
    (tensor : Tensor Number) :
    Tensor Number :=
  tensor.scale (RealArithmetic.ofInt 2)

/-- The length `u + v I` of a line from the parts of its square. -/
def lengthParts
    (scalarPart idealPart : Tensor Number) :
    Except Error (Tensor Number × Tensor Number) := do
  let negated ← scalarPart.neg
  let euclidean := negated.sqrt
  let ideal ← negatedQuotient idealPart (twice euclidean)
  .ok (euclidean, ideal)

/-- The inverse of a length `u + v I`. -/
def inverseLength
    (euclidean ideal : Tensor Number) :
    Compute Number (Entity Number) := do
  let square ← ofExcept (euclidean.mul euclidean)
  let idealPart ← ofExcept (negatedQuotient ideal square)
  dualNumber euclidean.reciprocal idealPart

/-- The motor which a line generates. -/
def exp
    (entity : Entity Number) :
    Compute Number (Entity Number) := do
  let line ← if entity.layout.kind = .line then pure entity else lineOf entity
  let (scalarPart, idealPart) ← squareParts line
  let (u, v) ← ofExcept (lengthParts scalarPart idealPart)
  let negated ← ofExcept v.neg
  let real ← dualNumber u.cos (← ofExcept (negated.mul u.sin))
  let ideal ← dualNumber u.sin (← ofExcept (v.mul u.cos))
  let inverse ← inverseLength u v
  let motor ← applyLibrary .exponential [real, ideal, inverse, line]
  motorOf motor

/--
The line which generates a motor; `bound` selects the branch for the ideal
part, and one that is no number is refused when the comparison is reached.
-/
def log
    (bound : Except Error Number)
    (entity : Entity Number) :
    Compute Number (Entity Number) := do
  let motor ← if entity.layout.kind = .motor then pure entity else motorOf entity
  let scalarPart ← ofExcept (motor.slot 0)
  let pseudoscalarPart ← ofExcept (motor.slot 7)
  let line ← lineOf motor
  let (squareScalar, squareIdeal) ← squareParts line
  let (length, idealLength) ← ofExcept (lengthParts squareScalar squareIdeal)
  let magnitude ← ofExcept scalarPart.abs
  let nearZero := magnitude.lessThan (← ofExcept bound)
  let angle ← ofExcept (length.arctan2 scalarPart)
  let fromPseudoscalar ← ofExcept (negatedQuotient pseudoscalarPart length)
  let fromScalar ← ofExcept (idealLength.div scalarPart)
  let idealAngle ← ofExcept (Tensor.choose nearZero fromPseudoscalar fromScalar)
  let scale ← dualNumber angle idealAngle
  let inverse ← inverseLength length idealLength
  let generator ← applyLibrary .generator [scale, inverse, line]
  lineOf generator

end Compute
end Versor

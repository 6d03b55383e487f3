import Versor.Multivector.Canonical

/-!
# Sums and products of multivectors

Every operation here returns the canonical form of its result, except for
`concatenate`, `rawScale` and `rawProduct`, which show the terms before they
are merged.  The operations take the algebra of their first operand; `combine`
refuses operands of different algebras before it applies one of them.
-/

namespace Versor

/-- Which pairs of blades a product keeps. -/
inductive ProductKind
  | geometric
  | exterior
  | leftContraction
  | scalar
deriving DecidableEq

/-- Whether a product keeps a pair of blades. -/
def ProductKind.keeps
    (kind : ProductKind)
    (left right : Blade) :
    Bool :=
  match kind with
  | .geometric => true
  | .exterior => left &&& right == 0
  | .leftContraction => left &&& right == left
  | .scalar => left ^^^ right == 0

namespace Multivector

/-- Apply an operation to two elements of one algebra. -/
def combine
    (operation : Multivector → Multivector → Multivector)
    (left right : Multivector) :
    Except Error Multivector :=
  if left.algebra.Agrees right.algebra then .ok (operation left right)
  else .error (.elementsOfAlgebras left.algebra.metric right.algebra.metric)

/-- The arrays of the second element behind those of the first one. -/
def concatenate
    (left right : Multivector) :
    Multivector where
  algebra := left.algebra
  indeterminates := left.indeterminates ++ right.indeterminates
  monomials :=
    left.monomials ++ right.monomials.map fun monomial =>
      { monomial with start := monomial.start + left.indeterminates.size }
  terms :=
    left.terms ++ right.terms.map fun term =>
      { term with monomial := term.monomial + left.monomials.size }

/-- Sum. -/
def add
    (left right : Multivector) :
    Multivector :=
  (concatenate left right).canonicalize

/-- Every coefficient multiplied by a rational, before merging. -/
def rawScale
    (element : Multivector)
    (factor : Rat) :
    Multivector :=
  ofEntries element.algebra
    (element.entries.map fun entry =>
      { entry with value := entry.value * factor })

/-- Every coefficient multiplied by a rational. -/
def scale
    (element : Multivector)
    (factor : Rat) :
    Multivector :=
  (rawScale element factor).canonicalize

/-- Negation. -/
def negate
    (element : Multivector) :
    Multivector :=
  element.scale (-1)

/-- Difference. -/
def subtract
    (left right : Multivector) :
    Multivector :=
  (concatenate left right.negate).canonicalize

/-- Product of two summands, unless it vanishes or the product drops their blades. -/
def productSummand?
    (algebra : Algebra)
    (kind : ProductKind)
    (left right : Summand) :
    Option Summand :=
  let sign := algebra.productSign left.blade right.blade
  if sign = 0 ∨ kind.keeps left.blade right.blade = false then none
  else
    some
      { count := left.count * right.count
        sign := left.sign * right.sign * sign
        coefficient := left.coefficient * right.coefficient
        factors := left.factors ++ right.factors
        blade := left.blade ^^^ right.blade }

/-- The products of all pairs of summands, before merging. -/
def rawProduct
    (kind : ProductKind)
    (left right : Multivector) :
    Multivector :=
  let rights := right.summands
  ofSummands left.algebra
    (left.summands.flatMap fun summand =>
      rights.filterMap (productSummand? left.algebra kind summand))

/-- The product of a kind in canonical form. -/
def product
    (kind : ProductKind)
    (left right : Multivector) :
    Multivector :=
  (rawProduct kind left right).canonicalize

/-- Geometric product. -/
def geometricProduct : Multivector → Multivector → Multivector :=
  product .geometric

/-- Exterior product, which keeps the pairs of blades without a common vector. -/
def exteriorProduct : Multivector → Multivector → Multivector :=
  product .exterior

/-- Left contraction, which keeps the pairs whose first blade is part of the second. -/
def leftContraction : Multivector → Multivector → Multivector :=
  product .leftContraction

/-- Scalar product, which keeps the pairs of equal blades. -/
def scalarProduct : Multivector → Multivector → Multivector :=
  product .scalar

end Multivector
end Versor

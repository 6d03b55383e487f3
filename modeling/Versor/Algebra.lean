import Versor.Blade
import Versor.Place

/-!
# Geometric algebras

An algebra is fixed by its metric.  Two blades multiply to their symmetric
difference, scaled by the sign of sorting the concatenated basis vectors and
by the square of every basis vector that both of them hold.  Complements do
not look at the metric: the right complement of a blade is the signed blade
which, wedged to its right, gives the pseudoscalar.
-/

namespace Versor

/-- The integer that a literal stands for where a blade or an index is wanted. -/
def Literal.toIndex
    (literal : Literal) :
    Except Error Int :=
  match literal.toInt? with
  | some value => .ok value
  | none => .error .notNumeric

/--
The sign of sorting the basis vectors of two literal blades.  The second one
is not looked at when no vector of the first one could be passed.
-/
def Blade.reorderingSignOf
    (left right : Literal) :
    Except Error Int := do
  let first ← left.toIndex
  if first < 2 then .ok 1
  else
    let second ← right.toIndex
    .ok (Blade.reorderingSign first.toNat second.toNat)

/-- A geometric algebra. -/
structure Algebra where
  metric : Metric
deriving DecidableEq

namespace Algebra

/-- The same algebra with a metric given by numbers. -/
def plain
    (algebra : Algebra) :
    Algebra :=
  ⟨algebra.metric.plain⟩

/-- Two algebras are the same if they are so apart from how they were given. -/
abbrev Agrees
    (left right : Algebra) :
    Prop :=
  left.plain = right.plain

/-- Number of basis vectors. -/
def dimension
    (algebra : Algebra) :
    Nat :=
  algebra.metric.dimension

/-- Number of basis blades. -/
def bladeCount
    (algebra : Algebra) :
    Nat :=
  twoTo algebra.dimension

/-- The blade of all basis vectors. -/
def pseudoscalar
    (algebra : Algebra) :
    Blade :=
  algebra.bladeCount - 1

/-- Product of the squares of the basis vectors of a blade. -/
def metricFactor
    (algebra : Algebra)
    (shared : Blade) :
    Int :=
  (Blade.vectors shared).foldr
    (fun vector factor => algebra.metric.square vector * factor) 1

/-- The factor of the geometric product of two blades: `+1`, `-1`, or `0` when it vanishes. -/
def productSign
    (algebra : Algebra)
    (left right : Blade) :
    Int :=
  Blade.reorderingSign left right * algebra.metricFactor (left &&& right)

/-- Geometric product of two basis blades. -/
def product
    (algebra : Algebra)
    (left right : Blade) :
    Blade × Int :=
  (left ^^^ right, algebra.productSign left right)

/--
The pseudoscalar with the sign that makes it an inverse of the pseudoscalar
once every null vector is taken to square to `+1`.
-/
def pseudoscalarInverse
    (algebra : Algebra) :
    Blade × Int :=
  (algebra.pseudoscalar,
    Blade.reorderingSign algebra.pseudoscalar algebra.pseudoscalar *
      Blade.paritySign algebra.metric.negative)

/-- The signed blade which gives the pseudoscalar when wedged to the right of a blade. -/
def complement
    (algebra : Algebra)
    (blade : Blade) :
    Blade × Int :=
  let other := algebra.pseudoscalar ^^^ blade
  (other, Blade.reorderingSign blade other)

/-- The signed blade which gives the pseudoscalar when wedged to the left of a blade. -/
def leftComplement
    (algebra : Algebra)
    (blade : Blade) :
    Blade × Int :=
  let other := algebra.pseudoscalar ^^^ blade
  (other, Blade.reorderingSign other blade)

/--
Name of a blade, such as `e013`; the scalar blade is `1`.  Digits beyond the
dimension name no basis vector.  Basis vectors count from zero when there
are null ones and from one otherwise.
-/
def bladeName
    (algebra : Algebra)
    (blade : Int) :
    String :=
  if blade = 0 then "1"
  else
    let offset := if algebra.metric.null = 0 then 1 else 0
    let vectors :=
      (List.range algebra.dimension).filter
        (Nat.testBit (blade % (algebra.bladeCount : Int)).toNat)
    "e" ++ String.join (vectors.map fun vector => toString (vector + offset))

/-- The written form of an algebra. -/
def render
    (algebra : Algebra) :
    String :=
  algebra.metric.renderAlgebra

/-- The blade that a literal names, if it is one of the algebra. -/
def blade?
    (algebra : Algebra)
    (literal : Literal) :
    Option Blade :=
  match literal.toInt? with
  | some value =>
      if 0 ≤ value ∧ value < (algebra.bladeCount : Int) then some value.toNat
      else none
  | none => none

/-- The blade that a literal names, or the refusal of it. -/
def checkBlade
    (algebra : Algebra)
    (literal : Literal) :
    Except Error Blade :=
  match algebra.blade? literal with
  | some blade => .ok blade
  | none => .error (.blade literal algebra.bladeCount)

/-- An index into a table over all blades; negative ones count from its end. -/
def tableIndex
    (algebra : Algebra)
    (literal : Literal) :
    Except Error Blade := do
  let index ← literal.toIndex
  placeAmong algebra.bladeCount index

/--
Name of a literal blade.  Whatever is equal to zero is the scalar blade, and
without basis vectors nothing else has digits.
-/
def nameOf
    (algebra : Algebra)
    (literal : Literal) :
    Except Error String :=
  if literal.rational? = some 0 then .ok (algebra.bladeName 0)
  else if algebra.dimension = 0 then .ok (algebra.bladeName 1)
  else do
    let blade ← literal.toIndex
    .ok (algebra.bladeName blade)

/-- Products of a blade with every blade of the algebra. -/
def productRow
    (algebra : Algebra)
    (blade : Blade) :
    List (Blade × Int) :=
  (List.range algebra.bladeCount).map (algebra.product blade)

/-- The projective algebra `G(3,0,1)` of three-dimensional space. -/
def projective : Algebra :=
  ⟨⟨3, 0, 1, [], by decide⟩⟩

end Algebra

namespace Metric

/-- One entry of a metric: an integer that is not negative. -/
def checkEntry
    (name : String)
    (literal : Literal) :
    Except Error Nat :=
  match literal.toInt? with
  | some value =>
      if 0 ≤ value then .ok value.toNat
      else .error (.metricEntry name literal)
  | none => .error (.metricEntry name literal)

/-- A metric from its three entries, each checked in turn and then their sum. -/
def ofLiterals
    (positive negative null : Literal) :
    Except Error Metric := do
  let spelling := Literal.spelling [positive, negative, null]
  let positive ← checkEntry "p" positive
  let negative ← checkEntry "q" negative
  let null ← checkEntry "r" null
  if bound : positive + negative + null ≤ maxDimension then
    .ok ⟨positive, negative, null, spelling, bound⟩
  else
    .error (.dimension (positive + negative + null))

/-- A metric from one to three entries; the missing ones are zero. -/
def ofEntries : List Literal → Except Error Metric
  | [positive] => ofLiterals positive (.integer 0) (.integer 0)
  | [positive, negative] => ofLiterals positive negative (.integer 0)
  | [positive, negative, null] => ofLiterals positive negative null
  | _ => .error .argumentCount

/-- Square of a basis vector given by a number that may be out of range. -/
def checkedSquare
    (metric : Metric)
    (vector : Literal) :
    Except Error Int :=
  if vector.isNumeric then
    match vector.rational? with
    | some index =>
        if 0 ≤ index ∧ index < (metric.dimension : Rat) then
          .ok (metric.square index.floor.toNat)
        else .error (.basisVector vector metric)
    | none => .error (.basisVector vector metric)
  else .error .notNumeric

end Metric

end Versor

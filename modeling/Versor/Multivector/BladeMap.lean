import Versor.Multivector.Product

/-!
# Operations blade by blade

The involutions, the duals and the choice of a grade send each blade to at
most one signed blade.  The dual goes through the right complement and its
inverse through the left one, so neither looks at the metric, and the
regressive product is the exterior product carried over by the dual.
-/

namespace Versor
namespace Multivector

/-- Send every entry along a map of blades to signed blades, before merging. -/
def rawMapBlades
    (element : Multivector)
    (image : Blade → Option (Blade × Int)) :
    Multivector :=
  ofEntries element.algebra
    (element.entries.filterMap fun entry =>
      (image entry.blade).map fun target =>
        ⟨target.1, entry.value * (target.2 : Rat), entry.ids⟩)

/-- Send every entry along a map of blades to signed blades. -/
def mapBlades
    (element : Multivector)
    (image : Blade → Option (Blade × Int)) :
    Multivector :=
  (element.rawMapBlades image).canonicalize

/-- Every blade with a sign that depends on it. -/
def signedBy
    (sign : Blade → Int)
    (blade : Blade) :
    Option (Blade × Int) :=
  some (blade, sign blade)

/-- The blades of a grade, which may be none. -/
def ofGrade
    (grade : Rat)
    (blade : Blade) :
    Option (Blade × Int) :=
  if (Blade.grade blade : Rat) = grade then some (blade, 1) else none

/-- Reversion. -/
def reverse
    (element : Multivector) :
    Multivector :=
  element.mapBlades (signedBy Blade.reverseSign)

/-- Grade involution. -/
def involute
    (element : Multivector) :
    Multivector :=
  element.mapBlades (signedBy Blade.involutionSign)

/-- Clifford conjugation. -/
def conjugate
    (element : Multivector) :
    Multivector :=
  element.mapBlades (signedBy Blade.conjugateSign)

/-- The part on the blades whose grade is a number, which may be none. -/
def gradeSelect
    (element : Multivector)
    (grade : Rat) :
    Multivector :=
  element.mapBlades (ofGrade grade)

/-- The part on the blades whose grade is equal to a literal. -/
def gradeSelectLiteral
    (element : Multivector)
    (grade : Literal) :
    Multivector :=
  match grade.rational? with
  | some grade => element.gradeSelect grade
  | none => element.mapBlades fun _ => none

/-- Dual through the right complement. -/
def dual
    (element : Multivector) :
    Multivector :=
  element.mapBlades fun blade => some (element.algebra.complement blade)

/-- Inverse of the dual, through the left complement. -/
def undual
    (element : Multivector) :
    Multivector :=
  element.mapBlades fun blade => some (element.algebra.leftComplement blade)

/-- Regressive product. -/
def regressiveProduct
    (left right : Multivector) :
    Multivector :=
  (exteriorProduct left.dual right.dual).undual

end Multivector
end Versor

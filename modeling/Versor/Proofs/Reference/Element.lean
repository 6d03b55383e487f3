import Versor.Expression.Basic
import Versor.Proofs.Reference.Blade

/-!
# The geometric algebra of a metric

An element is a finite sum of ascending words with coefficients in a
commutative ring.  The geometric product extends the product of words, in
which vectors anticommute and contract to their squares.  All other
operations are defined from it: the derived products are its parts of
certain grades, reversion writes words backwards, and the duals pick the
signed word that completes a word to the pseudoscalar.

The definitions follow the textbook and do not know how an element is
stored.  `unary` and `binary` give every operation of an expression its
meaning.
-/

noncomputable section

namespace Versor
namespace Reference

/-- A sum of ascending words with coefficients. -/
abbrev Element (Coefficient : Type*) [Zero Coefficient] :=
  Word →₀ Coefficient

variable {Coefficient : Type*} [CommRing Coefficient]

/-- Send every word of an element to a signed word. -/
def mapWords
    (image : Word → Int × Word)
    (element : Element Coefficient) :
    Element Coefficient :=
  element.sum fun word coefficient =>
    Finsupp.single (image word).2 (((image word).1 : Coefficient) * coefficient)

/-- The product of a word with a coefficient and another one, as far as a product keeps it. -/
def wordProduct
    (metric : Metric)
    (kind : ProductKind)
    (left right : Word)
    (coefficient : Coefficient) :
    Element Coefficient :=
  let result := Word.multiply metric.square left right
  if kind.keepsGrades left.length right.length result.2.length then
    Finsupp.single result.2 ((result.1 : Coefficient) * coefficient)
  else 0

/-- The part of the geometric product that a product keeps. -/
def product
    (metric : Metric)
    (kind : ProductKind)
    (left right : Element Coefficient) :
    Element Coefficient :=
  left.sum fun first firstCoefficient =>
    right.sum fun second secondCoefficient =>
      wordProduct metric kind first second (firstCoefficient * secondCoefficient)

/-- Reversion: every word is written backwards. -/
def reverse
    (metric : Metric) :
    Element Coefficient → Element Coefficient :=
  mapWords (Word.reversed metric.square)

/-- Grade involution: every vector is negated. -/
def involute : Element Coefficient → Element Coefficient :=
  mapWords fun word => ((word.map fun _ => -1).prod, word)

/-- Clifford conjugation: vectors are negated and words are written backwards. -/
def conjugate
    (metric : Metric)
    (element : Element Coefficient) :
    Element Coefficient :=
  reverse metric (involute element)

/-- The word that a word lacks, with the sign that gives the pseudoscalar behind the word. -/
def rightComplement
    (metric : Metric)
    (word : Word) :
    Int × Word :=
  let other := Word.complement metric.dimension word
  ((Word.multiply metric.square word other).1, other)

/-- The word that a word lacks, with the sign that gives the pseudoscalar in front of the word. -/
def leftComplement
    (metric : Metric)
    (word : Word) :
    Int × Word :=
  let other := Word.complement metric.dimension word
  ((Word.multiply metric.square other word).1, other)

/-- The dual. -/
def dual
    (metric : Metric) :
    Element Coefficient → Element Coefficient :=
  mapWords (rightComplement metric)

/-- The inverse of the dual. -/
def undual
    (metric : Metric) :
    Element Coefficient → Element Coefficient :=
  mapWords (leftComplement metric)

/-- The part on the words of a grade. -/
def gradePart
    (grade : Rat)
    (element : Element Coefficient) :
    Element Coefficient :=
  element.filter fun word => (word.length : Rat) = grade

/-- The regressive product: the exterior product of the duals, taken back. -/
def regressive
    (metric : Metric)
    (left right : Element Coefficient) :
    Element Coefficient :=
  undual metric (product metric .exterior (dual metric left) (dual metric right))

/-- The meaning of an operation on one operand. -/
def unary
    [Module ℚ Coefficient]
    (metric : Metric) :
    UnaryOperation → Element Coefficient → Element Coefficient
  | .negate, element => -element
  | .scale factor, element => factor • element
  | .reverse, element => reverse metric element
  | .involute, element => involute element
  | .conjugate, element => conjugate metric element
  | .dual, element => dual metric element
  | .undual, element => undual metric element
  | .grade grade, element => gradePart grade element

/-- The meaning of an operation on two operands. -/
def binary
    (metric : Metric) :
    BinaryOperation → Element Coefficient → Element Coefficient → Element Coefficient
  | .sum, left, right => left + right
  | .difference, left, right => left - right
  | .geometric, left, right => product metric .geometric left right
  | .exterior, left, right => product metric .exterior left right
  | .regressive, left, right => regressive metric left right
  | .leftContraction, left, right => product metric .leftContraction left right
  | .scalarProduct, left, right => product metric .scalar left right

/-! ## How a metric was given -/

/-- The operations do not look at how a metric was given. -/
theorem unary_of_plain_eq
    [Module ℚ Coefficient]
    {left right : Metric}
    (same : left.plain = right.plain)
    (operation : UnaryOperation)
    (element : Element Coefficient) :
    unary left operation element = unary right operation element := by
  have unspelled (metric : Metric) :
      unary metric operation element = unary metric.plain operation element := by
    cases operation <;> rfl
  rw [unspelled left, same, ← unspelled]

theorem binary_of_plain_eq
    {left right : Metric}
    (same : left.plain = right.plain)
    (operation : BinaryOperation)
    (first second : Element Coefficient) :
    binary left operation first second = binary right operation first second := by
  have unspelled (metric : Metric) :
      binary metric operation first second = binary metric.plain operation first second := by
    cases operation <;> rfl
  rw [unspelled left, same, ← unspelled]

/-! ## Sums -/

section MapWords

variable (image : Word → Int × Word)

@[simp]
theorem mapWords_zero :
    mapWords image (0 : Element Coefficient) = 0 :=
  Finsupp.sum_zero_index

theorem mapWords_add
    (left right : Element Coefficient) :
    mapWords image (left + right) =
      mapWords image left + mapWords image right := by
  apply Finsupp.sum_add_index'
  · simp
  · simp [mul_add]

@[simp]
theorem mapWords_single
    (word : Word)
    (coefficient : Coefficient) :
    mapWords image (Finsupp.single word coefficient) =
      Finsupp.single (image word).2
        (((image word).1 : Coefficient) * coefficient) := by
  apply Finsupp.sum_single_index
  simp

theorem mapWords_list_sum
    (elements : List (Element Coefficient)) :
    mapWords image elements.sum = (elements.map (mapWords image)).sum := by
  induction elements with
  | nil => simp
  | cons element rest inductionHypothesis =>
      simp [mapWords_add, inductionHypothesis]

end MapWords

section Product

variable (metric : Metric) (kind : ProductKind)

@[simp]
theorem wordProduct_zero
    (left right : Word) :
    wordProduct metric kind left right (0 : Coefficient) = 0 := by
  simp [wordProduct]

theorem wordProduct_add
    (left right : Word)
    (first second : Coefficient) :
    wordProduct metric kind left right (first + second) =
      wordProduct metric kind left right first +
        wordProduct metric kind left right second := by
  simp only [wordProduct]
  split_ifs
  · simp [mul_add]
  · simp

@[simp]
theorem zero_product
    (right : Element Coefficient) :
    product metric kind 0 right = 0 :=
  Finsupp.sum_zero_index

@[simp]
theorem product_zero
    (left : Element Coefficient) :
    product metric kind left 0 = 0 := by
  simp [product]

theorem add_product
    (first second right : Element Coefficient) :
    product metric kind (first + second) right =
      product metric kind first right + product metric kind second right := by
  apply Finsupp.sum_add_index'
  · simp
  · simp [add_mul, wordProduct_add, Finsupp.sum_add]

theorem product_add
    (left first second : Element Coefficient) :
    product metric kind left (first + second) =
      product metric kind left first + product metric kind left second := by
  unfold product
  rw [← Finsupp.sum_add]
  congr
  funext word coefficient
  apply Finsupp.sum_add_index'
  · simp
  · simp [mul_add, wordProduct_add]

@[simp]
theorem product_single_single
    (left right : Word)
    (first second : Coefficient) :
    product metric kind (Finsupp.single left first) (Finsupp.single right second) =
      wordProduct metric kind left right (first * second) := by
  unfold product
  rw [Finsupp.sum_single_index, Finsupp.sum_single_index]
  · simp
  · simp

/-- The product of two sums is the sum of all products. -/
theorem product_list_sum
    (left right : List (Element Coefficient)) :
    product metric kind left.sum right.sum =
      (left.map fun first => (right.map (product metric kind first)).sum).sum := by
  have distribute (element : Element Coefficient) :
      product metric kind element right.sum =
        (right.map (product metric kind element)).sum := by
    induction right with
    | nil => simp
    | cons second rest inductionHypothesis =>
        simp [product_add, inductionHypothesis]
  induction left with
  | nil => simp
  | cons first rest inductionHypothesis =>
      rw [List.sum_cons, List.map_cons, List.sum_cons, add_product,
        inductionHypothesis, distribute]

end Product

end Reference
end Versor

end

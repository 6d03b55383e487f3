import Versor.Literal.Arithmetic
import Versor.Multivector.Spelling

/-!
# Multivectors with doubles among their signs and counts

The coefficient of a term is the product of the coefficient and the sign of
its monomial, its count and the multipliers, in this order.  Once a sign or a
count is a double, the product is one, and every multiplication rounds.  Like
entries are added in their order too, from zero on, and a sum with a double
rounds.  Only a list of entries from which a multivector is made anew is
settled: its doubles become the rationals that they are equal to.
-/

namespace Versor

namespace Summand

/-- The coefficient of a summand whose sign and count were given as literals. -/
def givenValue
    (summand : Summand)
    (sign count : Literal) :
    Except Error Literal := do
  let signed ← (Literal.fraction summand.coefficient).multiply sign
  let counted ← signed.multiply count
  summand.factors.foldlM
    (fun total factor => total.multiply (.fraction factor.multiplier)) counted

end Summand

namespace Multivector

/-- The signs of the monomials as they were given. -/
def givenSigns
    (element : Multivector)
    (spelling : ElementSpelling) :
    List Literal :=
  spelling.signs.fill (element.monomials.toList.map fun monomial => .integer monomial.sign)

/-- The counts of the terms as they were given. -/
def givenCounts
    (element : Multivector)
    (spelling : ElementSpelling) :
    List Literal :=
  spelling.counts.fill (element.terms.toList.map fun term => .integer term.count)

/-- For every term the sign of its monomial and its count, as they were given. -/
def givenWeights
    (element : Multivector)
    (spelling : ElementSpelling) :
    List (Literal × Literal) :=
  let signs := (element.givenSigns spelling).toArray
  List.zipWith
    (fun (term : Term) count => ((signs[term.monomial]?).getD (.integer 1), count))
    element.terms.toList (element.givenCounts spelling)

/-- The entries of a multivector as they were given, with coefficients as they come out. -/
def givenEntries
    (element : Multivector)
    (spelling : ElementSpelling) :
    Except Error (List SpelledEntry) :=
  let entries := element.spelledEntries spelling
  if spelling.isExact then .ok entries
  else
    ((element.summands.zip (element.givenWeights spelling)).zip entries).mapM
      fun ((summand, sign, count), entry) => do
        .ok (entry.withCoefficient (← summand.givenValue sign count))

end Multivector

namespace SpelledEntry

/-- Add an entry to the first one of a list that is like it, or else behind the list. -/
def addTo
    (spelled : SpelledEntry) :
    List SpelledEntry → Except Error (List SpelledEntry)
  | [] => do
      .ok [spelled.withCoefficient (← (Literal.fraction 0).add spelled.coefficient)]
  | other :: rest =>
      if spelled.entry.order other.entry = .eq then do
        .ok (other.withCoefficient (← other.coefficient.add spelled.coefficient) :: rest)
      else do
        .ok (other :: (← addTo spelled rest))

/-- Whether a coefficient is zero. -/
def isZero
    (spelled : SpelledEntry) :
    Bool :=
  spelled.coefficient.rational? = some 0

/-- The sums of like entries that are not zero, in the order of entries. -/
def sums
    (entries : List SpelledEntry) :
    Except Error (List SpelledEntry) := do
  let sums ← entries.foldlM (fun sums entry => entry.addTo sums) []
  .ok ((sums.filter fun sum => !sum.isZero).mergeSort fun left right =>
    left.entry.order right.entry != .gt)

end SpelledEntry

end Versor

import Versor.Multivector.BladeMap
import Versor.Multivector.Inexact

/-!
# Multivectors as they were given

A spelled multivector is a multivector together with its spelling.  The
operations here do to the values of exact ones what they do without
spellings.  Products keep the ids of their factors as they were given and
find new blades, which are numbers.

Of a multivector that is not exact, the value holds every count cut off to an
integer, and the given form counts.  Such a multivector is settled before an
operation goes through its blades, and its canonical form is exact.
-/

namespace Versor

/-- A multivector and how the numbers in it were given. -/
structure SpelledMultivector where
  value : Multivector
  spelling : ElementSpelling

namespace SpelledMultivector

/-- A multivector that was given by integers. -/
def ofValue
    (value : Multivector) :
    SpelledMultivector :=
  ⟨value, {}⟩

/-- Whether no sign and no count is a double. -/
def isExact
    (element : SpelledMultivector) :
    Bool :=
  element.spelling.isExact

/-- The entries as they were given. -/
def entries
    (element : SpelledMultivector) :
    Except Error (List SpelledEntry) :=
  element.value.givenEntries element.spelling

/-- The multivector with one monomial for each of several entries, which are settled. -/
def ofEntries
    (algebra : Algebra)
    (entries : List SpelledEntry) :
    Except Error SpelledMultivector := do
  let entries ← entries.mapM SpelledEntry.settled
  .ok
    ⟨.ofEntries algebra (entries.map SpelledEntry.entry),
      { sources := .ofLiterals (entries.flatMap SpelledEntry.ids)
        blades := .ofFlags (entries.map SpelledEntry.blade) }⟩

/-- A multivector whose terms were merged out of given entries. -/
def merged
    (sources : List SpelledEntry)
    (value : Multivector) :
    SpelledMultivector :=
  ⟨value, value.mergedSpelling sources⟩

/-- The canonical form. -/
def canonicalize
    (element : SpelledMultivector) :
    Except Error SpelledMultivector := do
  let entries ← element.entries
  if element.isExact then
    return merged entries element.value.canonicalize
  else
    ofEntries element.value.algebra (← SpelledEntry.sums entries)

/-- Some entries of a multivector that is not exact, each of them changed, as an exact one. -/
def settle
    (change : SpelledEntry → Except Error (Option SpelledEntry))
    (element : SpelledMultivector) :
    Except Error SpelledMultivector := do
  if element.isExact then
    return element
  else
    let changed ← (← element.entries).filterMapM change
    ofEntries element.value.algebra changed

/-- An exact multivector with equal entries. -/
def settled : SpelledMultivector → Except Error SpelledMultivector :=
  settle fun entry => .ok (some entry)

/-- Every coefficient multiplied by a rational. -/
def scale
    (element : SpelledMultivector)
    (factor : Rat) :
    Except Error SpelledMultivector := do
  if element.isExact then
    return merged (← element.entries) (element.value.scale factor)
  else
    let scaled ← (← element.entries).mapM fun entry => do
      Except.ok (entry.withCoefficient (← entry.coefficient.multiply (.fraction factor)))
    canonicalize (← ofEntries element.value.algebra scaled)

/-- The part on the blades whose grade is equal to a literal. -/
def gradeSelect
    (element : SpelledMultivector)
    (grade : Literal) :
    Except Error SpelledMultivector := do
  let chosen ← element.settle fun entry =>
    .ok (if grade.rational? = some (Blade.grade entry.entry.blade : Rat) then some entry
      else none)
  return merged (← chosen.entries) (chosen.value.gradeSelectLiteral grade)

/-- The arrays of the second operand behind those of the first one. -/
def concatenate
    (left right : SpelledMultivector) :
    Except Error SpelledMultivector := do
  let value ← Multivector.combine Multivector.concatenate left.value right.value
  let monomials := left.value.monomials.size
  let terms := left.value.terms.size
  let factors := left.value.indeterminates.size
  let first := left.spelling
  let second := right.spelling
  let moved ← second.starts.mapM fun (place, start) => do
    .ok (place, ← start.add (.integer factors))
  .ok
    ⟨value,
      { sources := first.sources.append factors second.sources
        signs := first.signs.append monomials second.signs
        widths := first.widths.append monomials second.widths
        starts := first.starts.append monomials moved
        counts := first.counts.append terms second.counts
        monomials := first.monomials
        blades := first.blades.append terms second.blades }⟩

/-- A summand with its ids, its sign and its count as they were given. -/
structure GivenSummand where
  summand : Summand
  ids : List Literal
  sign : Literal
  count : Literal

/-- The summands as they were given. -/
def givenSummands
    (element : SpelledMultivector) :
    List GivenSummand :=
  let ids := (element.value.givenIds element.spelling).toArray
  List.zipWith
    (fun term (sign, count) =>
      ⟨element.value.summandOf term, (element.value.idsOf ids term).map Prod.snd, sign,
        count⟩)
    element.value.terms.toList (element.value.givenWeights element.spelling)

/-- The product of two summands as they were given, unless there is none. -/
def productGiven?
    (algebra : Algebra)
    (kind : ProductKind)
    (left right : GivenSummand) :
    Except Error (Option GivenSummand) :=
  match Multivector.productSummand? algebra kind left.summand right.summand with
  | none => .ok none
  | some summand => do
      let blades := algebra.productSign left.summand.blade right.summand.blade
      let sign ← (← left.sign.multiply right.sign).multiply (.integer blades)
      let count ← left.count.multiply right.count
      .ok (some ⟨summand, left.ids ++ right.ids, sign, count⟩)

/-- The products of all pairs of summands, before merging. -/
def rawProduct
    (kind : ProductKind)
    (left right : SpelledMultivector) :
    Except Error SpelledMultivector := do
  let value ←
    Multivector.combine (Multivector.rawProduct kind) left.value right.value
  let isPlain (element : SpelledMultivector) : Bool :=
    element.isExact && element.spelling.sources.isEmpty
  if isPlain left && isPlain right then
    return ofValue value
  let rights := right.givenSummands
  let pairs := left.givenSummands.flatMap fun first => rights.map (first, ·)
  let products ← pairs.filterMapM fun (first, second) =>
    productGiven? value.algebra kind first second
  let spelling : ElementSpelling :=
    { sources := .ofLiterals (products.flatMap GivenSummand.ids)
      signs := .ofLiterals (products.map GivenSummand.sign)
      counts := .ofLiterals (products.map GivenSummand.count) }
  return ⟨value, spelling⟩

/-- The product of a kind in canonical form. -/
def product
    (kind : ProductKind)
    (left right : SpelledMultivector) :
    Except Error SpelledMultivector := do
  let value ← rawProduct kind left right
  value.canonicalize

end SpelledMultivector

end Versor

import Versor.Algebra

/-!
# Symbolic multivectors

A multivector is a sparse polynomial over blades.  Its indeterminates refer
to numeric slots by their ids, its monomials are signed rational products of
consecutive indeterminates, and each of its terms adds one monomial, a
number of times, to one blade.

Two views of the three arrays carry all reasoning.  `summands` lists the
terms with their monomials looked up, and `ofSummands` builds the arrays of
such a list.  `entries` folds counts, signs and multipliers of a summand
into one coefficient and sorts its ids.
-/

namespace Versor

/-- The number by which numeric slots are referred to; it need not be a whole one. -/
abbrev SourceId := Rat

/-- A reference to one numeric slot, scaled by a rational. -/
structure Indeterminate where
  source : SourceId
  multiplier : Rat
deriving DecidableEq

/-- A signed product of `width` consecutive indeterminates from `start` on. -/
structure Monomial where
  sign : Int
  coefficient : Rat
  width : Nat
  start : Nat
deriving DecidableEq

/-- A monomial added `count` times to a blade. -/
structure Term where
  count : Nat
  monomial : Nat
  blade : Blade
deriving DecidableEq

/-- A symbolic element of a geometric algebra. -/
structure Multivector where
  algebra : Algebra
  indeterminates : Array Indeterminate
  monomials : Array Monomial
  terms : Array Term
deriving DecidableEq

/-- A term with its monomial and that one's indeterminates looked up. -/
structure Summand where
  count : Nat
  sign : Int
  coefficient : Rat
  factors : List Indeterminate
  blade : Blade
deriving DecidableEq

/-- A fully expanded contribution to a blade: a coefficient and the ids it multiplies. -/
structure Entry where
  blade : Blade
  value : Rat
  ids : List SourceId
deriving DecidableEq

/-- Insert an id into a sorted list of ids. -/
def insertId
    (id : SourceId) :
    List SourceId → List SourceId
  | [] => [id]
  | other :: rest =>
      if id ≤ other then id :: other :: rest else other :: insertId id rest

/-- Ids in ascending order, repetitions kept. -/
def sortIds
    (ids : List SourceId) :
    List SourceId :=
  ids.foldr insertId []

section Distinct

variable {Value : Type} [LT Value] [DecidableLT Value] [DecidableEq Value]

/-- Insert a value into a strictly ascending list, unless it is there already. -/
def insertDistinct
    (value : Value) :
    List Value → List Value
  | [] => [value]
  | other :: rest =>
      if value < other then value :: other :: rest
      else if value = other then other :: rest
      else other :: insertDistinct value rest

/-- The distinct members of a list in ascending order. -/
def distinctSorted
    (values : List Value) :
    List Value :=
  values.foldr insertDistinct []

end Distinct

namespace Summand

/-- The value of a coefficient with all counts, signs and multipliers folded in. -/
def value
    (summand : Summand) :
    Rat :=
  summand.factors.foldl (fun total factor => total * factor.multiplier)
    (summand.coefficient * (summand.sign : Rat) * (summand.count : Rat))

/-- The expanded form of a summand. -/
def entry
    (summand : Summand) :
    Entry :=
  ⟨summand.blade, summand.value,
    sortIds (summand.factors.map Indeterminate.source)⟩

end Summand

namespace Entry

/-- An entry as a summand that counts once and keeps the order of the ids. -/
def summand
    (entry : Entry) :
    Summand :=
  { count := 1
    sign := if entry.value < 0 then -1 else 1
    coefficient := if entry.value < 0 then -entry.value else entry.value
    factors := entry.ids.map fun id => ⟨id, 1⟩
    blade := entry.blade }

end Entry

namespace Multivector

/-- The monomials of summands laid out one after the other from a start on. -/
def layOut
    (start : Nat) :
    List Summand → List Monomial
  | [] => []
  | summand :: rest =>
      ⟨summand.sign, summand.coefficient, summand.factors.length, start⟩ ::
        layOut (start + summand.factors.length) rest

/-- The multivector with one monomial for each summand, in order. -/
def ofSummands
    (algebra : Algebra)
    (summands : List Summand) :
    Multivector where
  algebra := algebra
  indeterminates := (summands.flatMap Summand.factors).toArray
  monomials := (layOut 0 summands).toArray
  terms :=
    (summands.mapIdx fun position summand =>
      ⟨summand.count, position, summand.blade⟩).toArray

/-- The indeterminates of a monomial. -/
def factorsOf
    (element : Multivector)
    (monomial : Monomial) :
    List Indeterminate :=
  (element.indeterminates.extract monomial.start
    (monomial.start + monomial.width)).toList

/-- A term with its monomial looked up; a missing monomial counts as zero. -/
def summandOf
    (element : Multivector)
    (term : Term) :
    Summand :=
  match element.monomials[term.monomial]? with
  | some monomial =>
      ⟨term.count, monomial.sign, monomial.coefficient,
        element.factorsOf monomial, term.blade⟩
  | none => ⟨term.count, 1, 0, [], term.blade⟩

/-- The terms with their monomials looked up. -/
def summands
    (element : Multivector) :
    List Summand :=
  element.terms.toList.map element.summandOf

/-- The fully expanded terms, in order. -/
def entries
    (element : Multivector) :
    List Entry :=
  element.summands.map Summand.entry

/-- The multivector with one monomial for each entry; nothing is merged. -/
def ofEntries
    (algebra : Algebra)
    (entries : List Entry) :
    Multivector :=
  ofSummands algebra (entries.map Entry.summand)

/-- The multivector without terms. -/
def zero
    (algebra : Algebra) :
    Multivector :=
  ofEntries algebra []

/-- A multivector without indeterminates. -/
def constant
    (algebra : Algebra)
    (value : Rat)
    (blade : Blade) :
    Multivector :=
  ofEntries algebra [⟨blade, value, []⟩]

/-- Number of terms. -/
def termCount
    (element : Multivector) :
    Nat :=
  element.terms.size

/-- The distinct blades of the terms in ascending order. -/
def blades
    (element : Multivector) :
    List Blade :=
  distinctSorted (element.terms.toList.map Term.blade)

/-- The distinct ids of the indeterminates in ascending order. -/
def sourceIds
    (element : Multivector) :
    List SourceId :=
  distinctSorted (element.indeterminates.toList.map Indeterminate.source)

/-- Whether no monomial has an indeterminate. -/
def isConstant
    (element : Multivector) :
    Bool :=
  element.monomials.all fun monomial => monomial.width == 0

end Multivector

end Versor

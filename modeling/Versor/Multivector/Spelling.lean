import Versor.Literal.Given
import Versor.Literal.Rational
import Versor.Multivector.Canonical

/-!
# Numbers in multivectors as they were given

The blades, the ids and the other numbers in the arrays of a multivector may
have been given as truth values, and all but the blades also as doubles.  An
`ElementSpelling` tells which ones were.  Entries carry the given forms of
their blade and of their ids, and terms that are merged take those of the
first of them.

A multivector is exact when none of its signs and counts is a double.  All
others have coefficients that are doubles, of which an entry shows the double
itself and holds the rational that it is equal to.
-/

namespace Versor

/-- How the numbers in the arrays of a multivector were given. -/
structure ElementSpelling where
  /-- The ids of the indeterminates. -/
  sources : GivenForms := []
  /-- The signs of the monomials. -/
  signs : GivenForms := []
  /-- The widths of the monomials. -/
  widths : GivenForms := []
  /-- The first places of the monomials. -/
  starts : GivenForms := []
  /-- The counts of the terms. -/
  counts : GivenForms := []
  /-- The places of the monomials of the terms. -/
  monomials : GivenForms := []
  /-- The blades of the terms. -/
  blades : Spelling := []

/-- Whether all blades and ids were given as integers. -/
def ElementSpelling.isPlain
    (spelling : ElementSpelling) :
    Bool :=
  spelling.sources.isEmpty && spelling.blades.isEmpty

/-- Whether no sign and no count was given as a double. -/
def ElementSpelling.isExact
    (spelling : ElementSpelling) :
    Bool :=
  (spelling.signs ++ spelling.counts).all fun form => !form.2.isReal

/-- An id that was given as an integer. -/
def Literal.ofId
    (id : SourceId) :
    Literal :=
  if id.den = 1 then .integer id.num else .fraction id

/-- An entry with whether its blade was given as a truth value and with its ids as given. -/
structure SpelledEntry where
  entry : Entry
  blade : Bool
  ids : List Literal
  /-- The coefficient where it is a double. -/
  double? : Option Float := none

namespace SpelledEntry

/-- An entry given by integers. -/
def ofEntry
    (entry : Entry) :
    SpelledEntry :=
  ⟨entry, false, entry.ids.map Literal.ofId, none⟩

/-- Whether an entry was given by integers. -/
def isPlain
    (spelled : SpelledEntry) :
    Bool :=
  !spelled.blade && spelled.ids.all Literal.isInteger

/-- The blade as it was given. -/
def givenBlade
    (spelled : SpelledEntry) :
    Literal :=
  .given spelled.blade spelled.entry.blade

/-- The coefficient as the kind of number that it is. -/
def coefficient
    (spelled : SpelledEntry) :
    Literal :=
  match spelled.double? with
  | some value => .real value
  | none => .fraction spelled.entry.value

/-- Text of the coefficient. -/
def renderCoefficient
    (spelled : SpelledEntry) :
    Except Error String :=
  match spelled.double? with
  | some value => .ok (NumberLayout.plain.render value)
  | none => renderRat spelled.entry.value

/-- An entry with a coefficient in place of its own; what is no number counts as zero. -/
def withCoefficient
    (spelled : SpelledEntry)
    (coefficient : Literal) :
    SpelledEntry :=
  { spelled with
    entry := { spelled.entry with value := coefficient.rational?.getD 0 }
    double? :=
      match coefficient with
      | .real value => some value
      | _ => none }

/-- The entry with the rational that its coefficient is equal to. -/
def settled
    (spelled : SpelledEntry) :
    Except Error SpelledEntry := do
  let value ← spelled.coefficient.toCoefficient
  .ok (spelled.withCoefficient (.fraction value))

end SpelledEntry

/-- Insert an id with its given form into a list sorted by ids. -/
def insertGiven
    (given : SourceId × Literal) :
    List (SourceId × Literal) → List (SourceId × Literal)
  | [] => [given]
  | other :: rest =>
      if given.1 ≤ other.1 then given :: other :: rest
      else other :: insertGiven given rest

namespace Multivector

/-- The same multivector with an algebra given by numbers. -/
def plain
    (element : Multivector) :
    Multivector :=
  { element with algebra := element.algebra.plain }

/-- The ids of the indeterminates, each with its given form. -/
def givenIds
    (element : Multivector)
    (spelling : ElementSpelling) :
    List (SourceId × Literal) :=
  let ids := element.indeterminates.toList.map Indeterminate.source
  ids.zip (spelling.sources.fill (ids.map Literal.ofId))

/-- The ids of a term out of those of the indeterminates. -/
def idsOf
    (element : Multivector)
    (ids : Array (SourceId × Literal))
    (term : Term) :
    List (SourceId × Literal) :=
  match element.monomials[term.monomial]? with
  | some monomial =>
      (ids.extract monomial.start (monomial.start + monomial.width)).toList
  | none => []

/-- The entries of an exact multivector as they were given. -/
def spelledEntries
    (element : Multivector)
    (spelling : ElementSpelling) :
    List SpelledEntry :=
  if spelling.isPlain then element.entries.map SpelledEntry.ofEntry
  else
    let ids := (element.givenIds spelling).toArray
    element.terms.toList.mapIdx fun place term =>
      ⟨(element.summandOf term).entry, spelling.blades.contains place,
        ((element.idsOf ids term).foldr insertGiven []).map Prod.snd, none⟩

/-- The first given entry that is merged into each entry of a canonical list. -/
def firstSources
    (sources : List SpelledEntry)
    (entries : List Entry) :
    List SpelledEntry :=
  match sources, entries with
  | _, [] => []
  | [], entries => entries.map SpelledEntry.ofEntry
  | source :: others, entry :: rest =>
      match source.entry.order entry with
      | .lt => firstSources others (entry :: rest)
      | .eq => source :: firstSources others rest
      | .gt => .ofEntry entry :: firstSources (source :: others) rest
termination_by sources.length + entries.length

/-- The spelling of a multivector whose terms were merged out of given entries. -/
def mergedSpelling
    (sources : List SpelledEntry)
    (element : Multivector) :
    ElementSpelling :=
  if sources.all SpelledEntry.isPlain then {}
  else
    let ordered := sources.mergeSort fun left right =>
      left.entry.order right.entry != .gt
    let merged := firstSources ordered element.entries
    { sources := .ofLiterals (merged.flatMap SpelledEntry.ids)
      blades := .ofFlags (merged.map SpelledEntry.blade) }

/-- Distinct numbers in ascending order, each as its first occurrence was given. -/
def givenDistinct
    (given : List (Rat × Literal)) :
    List Literal :=
  (distinctSorted (given.map Prod.fst)).map fun value =>
    (given.lookup value).getD (.ofId value)

/-- The distinct blades as they were given. -/
def givenBlades
    (element : Multivector)
    (spelling : ElementSpelling) :
    List Literal :=
  givenDistinct (element.terms.toList.mapIdx fun place term =>
    (((term.blade : Nat) : Rat), .given (spelling.blades.contains place) term.blade))

/-- The distinct ids as they were given. -/
def givenSources
    (element : Multivector)
    (spelling : ElementSpelling) :
    List Literal :=
  givenDistinct (element.givenIds spelling)

/-- The largest id as it was given, or `-1` when there is none. -/
def givenMaxId
    (element : Multivector)
    (spelling : ElementSpelling) :
    Literal :=
  (element.givenSources spelling).getLastD (.integer (-1))

end Multivector
end Versor

import Versor.Literal

/-!
# Numbers as they were given

Where a number is wanted, a truth value counts as one or as zero, and a
double as the rational that it is equal to.  What a caller gave is shown
again as it was given, though, so a list of numbers may come with the given
forms of those members that are not shown as the integers they count as.
-/

namespace Versor

/-- The given forms of some members of a list of numbers, with their places in order. -/
abbrev GivenForms := List (Nat × Literal)

namespace GivenForms

/-- The given forms of those numbers that are flagged. -/
def ofFlagged
    (literals : List (Literal × Bool)) :
    GivenForms :=
  (literals.zipIdx.filter fun entry => entry.1.2).map fun entry =>
    (entry.2, entry.1.1)

/-- The given forms of numbers, of which integers need none. -/
def ofLiterals
    (literals : List Literal) :
    GivenForms :=
  ofFlagged (literals.map fun literal => (literal, !literal.isInteger))

/-- Numbers from a place on as they were given; `plain` has the integers that they are otherwise. -/
def fillFrom
    (place : Nat)
    (forms : GivenForms)
    (plain : List Literal) :
    List Literal :=
  match forms, plain with
  | (next, given) :: others, first :: rest =>
      if next = place then given :: fillFrom (place + 1) others rest
      else first :: fillFrom (place + 1) ((next, given) :: others) rest
  | _, plain => plain

/-- A list of numbers as they were given; `plain` has the integers that they are otherwise. -/
def fill
    (forms : GivenForms)
    (plain : List Literal) :
    List Literal :=
  fillFrom 0 forms plain

/-- The forms of a list followed by another one, given the length of the first. -/
def append
    (forms : GivenForms)
    (length : Nat)
    (others : GivenForms) :
    GivenForms :=
  forms ++ others.map fun entry => (length + entry.1, entry.2)

end GivenForms

end Versor

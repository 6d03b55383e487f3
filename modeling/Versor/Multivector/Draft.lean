import Versor.Multivector.Spelled

/-!
# Drafts of multivectors

A draft holds the three arrays of a multivector as a caller wrote them down,
with literals that may be out of range or no integers at all.
`Draft.validate` checks the ids, the monomials and the terms in this order and
stops at the first fault.  A multivector is valid when its own draft passes, and
every multivector that an operation builds goes through these checks, also
those that it only builds on the way to its result.

Ids may be any numbers.  The other numbers are only compared by these checks,
so doubles pass them.  A count that is a double is kept as it was given; but
places are looked up when terms are expanded, and `Draft.checkPlaces` stops at
the first term for which that needs a double or whose coefficient overflows.
So what a double as a place belongs to is used by no term, and of a monomial
that is not used only its width counts.
-/

namespace Versor

/-- A monomial as written down. -/
structure DraftMonomial where
  sign : Literal
  coefficient : Rat
  width : Literal
  start : Literal

/-- A term as written down. -/
structure DraftTerm where
  count : Literal
  monomial : Literal
  blade : Literal

/-- The arrays of a multivector as written down. -/
structure Draft where
  indeterminates : List (Literal × Rat)
  monomials : List DraftMonomial
  terms : List DraftTerm

namespace Draft

/-- The number that a literal is compared as; an infinite double is beyond all others. -/
def comparand : Literal → Except Error Rat
  | .real value =>
      match FloatValue.ofFloat value with
      | .finite negative magnitude =>
          .ok (if negative then -magnitude.toRat else magnitude.toRat)
      | .infinite negative =>
          let bound : Nat := twoTo 1024
          .ok (if negative then -(bound : Rat) else bound)
      | .indefinite => .error .notNumeric
  | literal =>
      match literal.rational? with
      | some number => .ok number
      | none => .error .notNumeric

/-- An indeterminate refers to an id that is not negative. -/
def checkIndeterminate
    (written : Literal × Rat) :
    Except Error Indeterminate := do
  let source ← comparand written.1
  if source < 0 then
    throw (.negativeSource written.1)
  return ⟨source, written.2⟩

/-- A monomial has the sign `1` or `-1`. -/
def checkSign
    (position : Nat)
    (sign : Literal) :
    Except Error Int :=
  if sign.rational? = some 1 then .ok 1
  else if sign.rational? = some (-1) then .ok (-1)
  else .error (.monomialSign position sign)

/-- A monomial has a sign, a coefficient that is not negative and a span that exists. -/
def checkMonomial
    (available position : Nat)
    (written : DraftMonomial) :
    Except Error Monomial := do
  let sign ← checkSign position written.sign
  if written.coefficient < 0 then
    throw (.monomialCoefficient position)
  let width ← comparand written.width
  let start ← comparand written.start
  let stop ← written.start.add written.width
  if width < 0 ∨ start < 0 ∨ !(stop.rational?).any (· ≤ (available : Rat)) then
    throw (.monomialSpan position written.start stop available)
  let place :=
    if written.width.isReal || written.start.isReal then 0 else start.floor.toNat
  return ⟨sign, written.coefficient, width.ceil.toNat, place⟩

/-- A term counts at least once a monomial that exists, on a blade of the algebra. -/
def checkTerm
    (algebra : Algebra)
    (available position : Nat)
    (written : DraftTerm) :
    Except Error Term := do
  let count ← comparand written.count
  if count < 1 then
    throw (.termCount position written.count)
  let monomial ← comparand written.monomial
  if monomial < 0 ∨ (available : Rat) ≤ monomial then
    throw (.termMonomial position written.monomial available)
  let blade ← algebra.checkBlade written.blade
  return ⟨count.floor.toNat, monomial.floor.toNat, blade⟩

/-- Expand a term of a valid draft: its monomial is looked up before the span of that. -/
def checkExpansion
    (draft : Draft)
    (element : Multivector)
    (written : DraftTerm)
    (term : Term) :
    Except Error Unit := do
  let some monomial := draft.monomials[term.monomial]? | return
  if written.monomial.isReal then
    throw .notNumeric
  let summand := element.summandOf term
  let hasPlaces := !(monomial.width.isReal || monomial.start.isReal)
  let factors := if hasPlaces then summand.factors else []
  let _ ← { summand with factors := factors }.givenValue monomial.sign written.count
  if !hasPlaces then
    throw .notNumeric

/-- Refuse a valid draft with a term that cannot be expanded. -/
def checkPlaces
    (draft : Draft)
    (element : Multivector) :
    Except Error Unit :=
  (draft.terms.zip element.terms.toList).forM fun (written, term) =>
    draft.checkExpansion element written term

/-- How the numbers in the arrays of a draft were given. -/
def spelling
    (draft : Draft) :
    ElementSpelling where
  sources := .ofLiterals (draft.indeterminates.map Prod.fst)
  signs := .ofLiterals (draft.monomials.map DraftMonomial.sign)
  widths := .ofLiterals (draft.monomials.map DraftMonomial.width)
  starts := .ofFlagged (draft.monomials.map fun monomial =>
    (monomial.start, monomial.width.isReal || !monomial.start.isInteger))
  counts := .ofLiterals (draft.terms.map DraftTerm.count)
  monomials := .ofLiterals (draft.terms.map DraftTerm.monomial)
  blades := Literal.spelling (draft.terms.map DraftTerm.blade)

/-- Check the members of a list in order, each with its position. -/
def checkAll
    {Written Checked : Type}
    (check : Nat → Written → Except Error Checked)
    (position : Nat) :
    List Written → Except Error (List Checked)
  | [] => .ok []
  | written :: rest => do
      let first ← check position written
      let others ← checkAll check (position + 1) rest
      .ok (first :: others)

/-- The multivector that a draft describes, or its first fault. -/
def validate
    (algebra : Algebra)
    (draft : Draft) :
    Except Error Multivector := do
  let indeterminates ←
    checkAll (fun _ => checkIndeterminate) 0 draft.indeterminates
  let monomials ←
    checkAll (checkMonomial draft.indeterminates.length) 0 draft.monomials
  let terms ←
    checkAll (checkTerm algebra draft.monomials.length) 0 draft.terms
  .ok ⟨algebra, indeterminates.toArray, monomials.toArray, terms.toArray⟩

/-- An entry as written down: a blade, a coefficient and ids. -/
structure WrittenEntry where
  blade : Literal
  value : Literal
  ids : List Literal

/-- The coefficients of written entries, each converted in turn. -/
def coefficients
    (written : List WrittenEntry) :
    Except Error (List (WrittenEntry × Rat)) :=
  written.mapM fun entry => do
    let value ← entry.value.toCoefficient
    .ok (entry, value)

/-- Monomials for entries, laid out one after the other. -/
def layOutEntries
    (start : Nat) :
    List (WrittenEntry × Rat) → List DraftMonomial
  | [] => []
  | (entry, value) :: rest =>
      let width := entry.ids.length
      ⟨.integer (if value < 0 then -1 else 1), if value < 0 then -value else value,
          .integer width, .integer start⟩ :: layOutEntries (start + width) rest

/-- The draft with one monomial for each written entry. -/
def ofEntries
    (entries : List (WrittenEntry × Rat)) :
    Draft where
  indeterminates := entries.flatMap fun entry => entry.1.ids.map fun id => (id, 1)
  monomials := layOutEntries 0 entries
  terms := entries.mapIdx fun position entry =>
    ⟨.integer 1, .integer position, entry.1.blade⟩

end Draft

namespace SpelledMultivector

/-- The multivector that a draft describes, as it was given. -/
def ofDraft
    (algebra : Algebra)
    (draft : Draft) :
    Except Error SpelledMultivector := do
  let value ← draft.validate algebra
  draft.checkPlaces value
  .ok ⟨value, draft.spelling⟩

/-- The multivector of written entries: coefficients are converted before anything is checked. -/
def ofWrittenEntries
    (algebra : Algebra)
    (written : List Draft.WrittenEntry) :
    Except Error SpelledMultivector := do
  let entries ← Draft.coefficients written
  ofDraft algebra (Draft.ofEntries entries)

/-- The multivector of one literal constant on one literal blade. -/
def ofConstant
    (algebra : Algebra)
    (value blade : Literal) :
    Except Error SpelledMultivector := do
  let number ← value.toRational
  let target ← algebra.checkBlade blade
  .ok ⟨.constant algebra number target, { blades := Literal.spelling [blade] }⟩

/-- The arrays of a multivector as they were written down. -/
def draft
    (element : SpelledMultivector) :
    Draft where
  indeterminates :=
    ((element.value.givenIds element.spelling).map Prod.snd).zip
      (element.value.indeterminates.toList.map Indeterminate.multiplier)
  monomials :=
    let monomials := element.value.monomials.toList
    let given (forms : GivenForms) (number : Monomial → Int) : List Literal :=
      forms.fill (monomials.map fun monomial => .integer (number monomial))
    let signs := element.value.givenSigns element.spelling
    let widths := given element.spelling.widths fun monomial => monomial.width
    let starts := given element.spelling.starts fun monomial => monomial.start
    List.zipWith
      (fun monomial (sign, width, start) =>
        ⟨sign, monomial.coefficient, width, start⟩)
      monomials (signs.zip (widths.zip starts))
  terms :=
    let terms := element.value.terms.toList
    let given (forms : GivenForms) (number : Term → Int) : List Literal :=
      forms.fill (terms.map fun term => .integer (number term))
    let counts := element.value.givenCounts element.spelling
    let places := given element.spelling.monomials fun term => term.monomial
    let blades := Literal.spelled element.spelling.blades (terms.map Term.blade)
    List.zipWith (fun count (place, blade) => ⟨count, place, blade⟩)
      counts (places.zip blades)

/-- The numbers in the arrays that may be doubles, apart from the ids. -/
def givenNumbers
    (element : SpelledMultivector) :
    List (Option Rat) :=
  let draft := element.draft
  let literals :=
    draft.monomials.flatMap (fun monomial =>
      [monomial.sign, monomial.width, monomial.start]) ++
      draft.terms.map DraftTerm.count
  literals.map Literal.rational?

/-- Whether two multivectors are equal in all of their arrays, however they were given. -/
def same
    (left right : SpelledMultivector) :
    Bool :=
  let arrays (element : SpelledMultivector) : Multivector :=
    { element.value.plain with
      monomials := element.value.monomials.map fun monomial =>
        { monomial with sign := 1, width := 0, start := 0 }
      terms := element.value.terms.map fun term => { term with count := 1 } }
  arrays left == arrays right && left.givenNumbers == right.givenNumbers

end SpelledMultivector

namespace Multivector

/-- The arrays of a multivector as a draft that is written in numbers. -/
def draft
    (element : Multivector) :
    Draft where
  indeterminates :=
    element.indeterminates.toList.map fun factor =>
      (.fraction factor.source, factor.multiplier)
  monomials :=
    element.monomials.toList.map fun monomial =>
      ⟨.integer monomial.sign, monomial.coefficient, .integer monomial.width,
        .integer monomial.start⟩
  terms :=
    element.terms.toList.map fun term =>
      ⟨.integer term.count, .integer term.monomial, .integer term.blade⟩

/-- A multivector is valid when its arrays pass every check. -/
def Valid
    (element : Multivector) :
    Prop :=
  element.draft.validate element.algebra = .ok element

/-- What the constructor makes of the arrays of a multivector, or their first fault. -/
def construct
    (element : Multivector) :
    Except Error Multivector :=
  element.draft.validate element.algebra

/-- The canonical form of arrays; the constructor checks them, and then what they merge to. -/
def merge
    (element : Multivector) :
    Except Error Multivector := do
  let constructed ← element.construct
  constructed.canonicalize.construct

end Multivector

end Versor

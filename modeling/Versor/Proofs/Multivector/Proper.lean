import Versor.Expression.Perform
import Versor.Proofs.Multivector.NormalForm
import Versor.Proofs.Multivector.Validity

/-!
# The constructor accepts what operations build

A multivector is valid if its arrays refer to what is there and every number in
them is one that the checks accept (`Multivector.valid_iff_isProper`).  The
summands of valid multivectors are proper, and arrays that are laid out of
proper summands are valid, so validity is followed through the summands and
entries that an operation builds, before it merges them and afterwards.

So on valid multivectors of one algebra nothing is refused, and an operation
that goes through the constructor at every step comes to what it does to the
values (`UnaryOperation.perform_eq_ok`, `BinaryOperation.perform_eq_combine`).
-/

namespace Versor

/-- Blades multiply with a sign, or their product vanishes. -/
theorem Algebra.productSign_cases
    (algebra : Algebra)
    (left right : Blade) :
    algebra.productSign left right = 0 ∨ algebra.productSign left right = 1 ∨
      algebra.productSign left right = -1 := by
  have parity : Blade.reorderingSign left right = 1 ∨ Blade.reorderingSign left right = -1 :=
    ite_eq_or_eq ..
  have square (vector : Nat) :
      algebra.metric.square vector = 0 ∨ algebra.metric.square vector = 1 ∨
        algebra.metric.square vector = -1 := by
    unfold Metric.square
    split_ifs <;> simp
  have factor :
      algebra.metricFactor (left &&& right) = 0 ∨ algebra.metricFactor (left &&& right) = 1 ∨
        algebra.metricFactor (left &&& right) = -1 := by
    unfold metricFactor
    induction Blade.vectors (left &&& right) with
    | nil => simp
    | cons vector rest inductionHypothesis =>
        rw [List.foldr_cons]
        rcases square vector with zero | one | minusOne <;>
          rcases inductionHypothesis with restZero | restOne | restMinusOne <;> simp [*]
  unfold productSign
  rcases parity with one | minusOne <;>
    rcases factor with zero | same | opposite <;> simp [*]

/-! ## Proper summands and entries -/

/-- A summand whose numbers are accepted, on a blade of an algebra. -/
structure Summand.IsProper
    (algebra : Algebra)
    (summand : Summand) :
    Prop where
  sources : ∀ factor ∈ summand.factors, 0 ≤ factor.source
  sign : summand.sign = 1 ∨ summand.sign = -1
  coefficient : 0 ≤ summand.coefficient
  count : 1 ≤ summand.count
  blade : summand.blade < algebra.bladeCount

namespace Summand.IsProper

variable {algebra other : Algebra} {summand left right : Summand}

theorem ids
    (proper : summand.IsProper algebra) :
    ∀ id ∈ summand.entry.ids, 0 ≤ id := by
  intro id member
  rcases List.mem_map.1 ((sortIds_perm _).subset member) with ⟨factor, inFactors, rfl⟩
  exact proper.sources factor inFactors

/-- Algebras that agree have the same proper summands. -/
theorem of_agrees
    (proper : summand.IsProper other)
    (agrees : algebra.Agrees other) :
    summand.IsProper algebra :=
  { proper with blade := proper.blade.trans_eq agrees.bladeCount_eq.symm }

/-- The product of proper summands is proper: a product that does not vanish has a sign. -/
theorem product
    (leftProper : left.IsProper algebra)
    (rightProper : right.IsProper algebra)
    {kind : ProductKind}
    (multiplied : Multivector.productSummand? algebra kind left right = some summand) :
    summand.IsProper algebra := by
  simp only [Multivector.productSummand?] at multiplied
  split at multiplied
  · cases multiplied
  · next kept =>
    cases multiplied
    rw [not_or] at kept
    refine
      { sources := fun factor member => ?_
        sign := ?_
        coefficient := mul_nonneg leftProper.coefficient rightProper.coefficient
        count := Nat.mul_pos leftProper.count rightProper.count
        blade := algebra.xor_lt_bladeCount leftProper.blade rightProper.blade }
    · rcases List.mem_append.1 member with inLeft | inRight
      · exact leftProper.sources factor inLeft
      · exact rightProper.sources factor inRight
    · have signs :
          algebra.productSign left.blade right.blade = 1 ∨
            algebra.productSign left.blade right.blade = -1 :=
        (algebra.productSign_cases left.blade right.blade).resolve_left kept.1
      rcases leftProper.sign with one | minusOne <;>
        rcases rightProper.sign with otherOne | otherMinusOne <;>
          rcases signs with same | opposite <;>
            simp [*]

end Summand.IsProper

/-- An entry is laid out as a proper summand if its ids are accepted. -/
theorem Entry.isProper_summand
    {algebra : Algebra}
    {entry : Entry}
    (blade : entry.blade < algebra.bladeCount)
    (ids : ∀ id ∈ entry.ids, 0 ≤ id) :
    entry.summand.IsProper algebra where
  sources factor member := by
    rcases List.mem_map.1 member with ⟨id, inIds, rfl⟩
    exact ids id inIds
  sign := (ite_eq_or_eq ..).symm
  coefficient := by
    unfold Entry.summand
    split
    · next negative => exact (neg_pos.2 negative).le
    · next notNegative => exact not_lt.1 notNegative
  count := le_rfl
  blade := blade

/-! ## The checks -/

namespace Draft

/-- Members that pass their checks at any position make a list that passes. -/
theorem checkAll_eq_ok
    {Written Checked : Type}
    {check : Nat → Written → Except Error Checked}
    {written : List Written}
    {results : List Checked}
    (each :
      List.Forall₂ (fun member result => ∀ position, check position member = .ok result) written
        results)
    (position : Nat) :
    checkAll check position written = .ok results := by
  induction each generalizing position with
  | nil => rfl
  | cons first _ inductionHypothesis =>
      rw [checkAll, first position, inductionHypothesis (position + 1)]
      rfl

theorem checkIndeterminate_eq_ok_iff
    (factor : Indeterminate) :
    checkIndeterminate (.fraction factor.source, factor.multiplier) = .ok factor ↔
      0 ≤ factor.source := by
  have compared : comparand (.fraction factor.source) = .ok factor.source := rfl
  rw [checkIndeterminate, compared]
  by_cases negative : factor.source < 0
  · simp [bind, Except.bind, negative]
  · simp [bind, Except.bind, negative, pure, Except.pure, not_lt.1 negative]

theorem checkMonomial_eq_ok_iff
    (available position : Nat)
    (monomial : Monomial) :
    checkMonomial available position
        ⟨.integer monomial.sign, monomial.coefficient, .integer monomial.width,
          .integer monomial.start⟩ =
        .ok monomial ↔
      (monomial.sign = 1 ∨ monomial.sign = -1) ∧ 0 ≤ monomial.coefficient ∧
        monomial.start + monomial.width ≤ available := by
  have stop :
      Literal.add (.integer monomial.start) (.integer monomial.width) =
        .ok (.integer (monomial.start + monomial.width)) :=
    rfl
  have width : comparand (.integer monomial.width) = .ok (monomial.width : ℚ) := rfl
  have start : comparand (.integer monomial.start) = .ok (monomial.start : ℚ) := rfl
  have sign :
      checkSign position (.integer monomial.sign) =
        if monomial.sign = 1 ∨ monomial.sign = -1 then .ok monomial.sign
        else .error (.monomialSign position (.integer monomial.sign)) := by
    simp only [checkSign, Literal.rational?, Option.some.injEq]
    norm_cast
    split_ifs <;> simp_all
  have beyond :
      ((monomial.width : ℚ) < 0 ∨ (monomial.start : ℚ) < 0 ∨
        ((Literal.integer (monomial.start + monomial.width)).rational?).any
            (· ≤ (available : ℚ)) =
          false) ↔
        ¬monomial.start + monomial.width ≤ available := by
    simp only [Literal.rational?, Option.any_some, decide_eq_false_iff_not,
      (Nat.cast_nonneg _ : (0 : ℚ) ≤ _).not_gt, false_or]
    norm_cast
  rw [checkMonomial, width, start, stop, sign]
  by_cases signed : monomial.sign = 1 ∨ monomial.sign = -1
  · by_cases negative : monomial.coefficient < 0
    · simp [signed, negative, bind, Except.bind]
    · by_cases inside : monomial.start + monomial.width ≤ available
      · simp [signed, negative, not_lt.1 negative, inside, beyond, bind, Except.bind, pure,
          Except.pure, Literal.isReal, Rat.floor, Rat.ceil]
      · simp [signed, negative, inside, beyond, bind, Except.bind]
  · simp [signed, bind, Except.bind]

theorem checkTerm_eq_ok_iff
    (algebra : Algebra)
    (available position : Nat)
    (term : Term) :
    checkTerm algebra available position
        ⟨.integer term.count, .integer term.monomial, .integer term.blade⟩ =
        .ok term ↔
      1 ≤ term.count ∧ term.monomial < available ∧ term.blade < algebra.bladeCount := by
  have count : comparand (.integer term.count) = .ok (term.count : ℚ) := rfl
  have place : comparand (.integer term.monomial) = .ok (term.monomial : ℚ) := rfl
  have missing :
      ((term.monomial : ℚ) < 0 ∨ available ≤ term.monomial) ↔ ¬term.monomial < available := by
    simp only [(Nat.cast_nonneg _ : (0 : ℚ) ≤ _).not_gt, false_or, not_lt]
  have few : (term.count : ℚ) < 1 ↔ ¬1 ≤ term.count := by
    norm_cast
    exact not_le.symm
  rw [checkTerm, count, place, algebra.checkBlade_natCast term.blade]
  by_cases counted : 1 ≤ term.count
  · by_cases found : term.monomial < available
    · by_cases inside : term.blade < algebra.bladeCount
      · simp [few, missing, counted, found, inside, bind, Except.bind, pure, Except.pure,
          Rat.floor]
      · simp [few, missing, counted, found, inside, bind, Except.bind]
    · simp [few, missing, counted, found, bind, Except.bind]
  · simp [few, counted, bind, Except.bind]

end Draft

namespace Multivector

/-- A multivector that refers to what is there, and whose numbers are accepted. -/
structure IsProper
    (element : Multivector) :
    Prop where
  inRange : element.InRange
  sources : ∀ factor ∈ element.indeterminates, 0 ≤ factor.source
  signs : ∀ monomial ∈ element.monomials, monomial.sign = 1 ∨ monomial.sign = -1
  coefficients : ∀ monomial ∈ element.monomials, 0 ≤ monomial.coefficient
  counts : ∀ term ∈ element.terms, 1 ≤ term.count

/-- Blades of terms are blades of entries. -/
theorem InRange.blade_lt
    {element : Multivector}
    (inRange : element.InRange)
    {term : Term}
    (member : term ∈ element.terms) :
    term.blade < element.algebra.bladeCount := by
  have inSummands : element.summandOf term ∈ element.summands :=
    List.mem_map_of_mem (Array.mem_toList_iff.2 member)
  exact (blade_summandOf element term).symm.trans_lt (mem_summands_blade inRange inSummands)

/-- The checks accept what is proper, and nothing else. -/
theorem valid_iff_isProper
    {element : Multivector} :
    element.Valid ↔ element.IsProper := by
  constructor
  · intro valid
    have inRange := valid.inRange
    rcases exists_of_bind_eq_ok valid with ⟨indeterminates, indeterminatesPass, rest⟩
    rcases exists_of_bind_eq_ok rest with ⟨monomials, monomialsPass, rest⟩
    rcases exists_of_bind_eq_ok rest with ⟨terms, termsPass, same⟩
    rcases element with ⟨algebra, sources, products, contributions⟩
    rcases Multivector.mk.inj (Except.ok.inj same) with ⟨_, rfl, rfl, rfl⟩
    have checkedIndeterminates :=
      List.forall₂_same.1
        (List.forall₂_map_left_iff.1 (Draft.forall₂_of_checkAll indeterminatesPass))
    have checkedMonomials :=
      List.forall₂_same.1 (List.forall₂_map_left_iff.1 (Draft.forall₂_of_checkAll monomialsPass))
    have checkedTerms :=
      List.forall₂_same.1 (List.forall₂_map_left_iff.1 (Draft.forall₂_of_checkAll termsPass))
    constructor
    · exact inRange
    · intro factor member
      rcases checkedIndeterminates factor (List.mem_toArray.1 member) with ⟨_, passed⟩
      exact (Draft.checkIndeterminate_eq_ok_iff factor).1 passed
    · intro monomial member
      rcases checkedMonomials monomial (List.mem_toArray.1 member) with ⟨position, passed⟩
      exact ((Draft.checkMonomial_eq_ok_iff _ position monomial).1 passed).1
    · intro monomial member
      rcases checkedMonomials monomial (List.mem_toArray.1 member) with ⟨position, passed⟩
      exact ((Draft.checkMonomial_eq_ok_iff _ position monomial).1 passed).2.1
    · intro term member
      rcases checkedTerms term (List.mem_toArray.1 member) with ⟨position, passed⟩
      exact ((Draft.checkTerm_eq_ok_iff algebra _ position term).1 passed).1
  · intro proper
    have indeterminates :
        Draft.checkAll (fun _ => Draft.checkIndeterminate) 0 element.draft.indeterminates =
          .ok element.indeterminates.toList := by
      apply Draft.checkAll_eq_ok
      rw [draft, List.forall₂_map_left_iff, List.forall₂_same]
      intro factor member position
      exact
        (Draft.checkIndeterminate_eq_ok_iff factor).2
          (proper.sources factor (Array.mem_toList_iff.1 member))
    have monomials :
        Draft.checkAll (Draft.checkMonomial element.draft.indeterminates.length) 0
            element.draft.monomials =
          .ok element.monomials.toList := by
      apply Draft.checkAll_eq_ok
      rw [draft, List.forall₂_map_left_iff, List.forall₂_same]
      intro monomial member position
      have inside := Array.mem_toList_iff.1 member
      rw [Draft.checkMonomial_eq_ok_iff, List.length_map, Array.length_toList]
      exact
        ⟨proper.signs monomial inside, proper.coefficients monomial inside,
          proper.inRange.spans monomial inside⟩
    have terms :
        Draft.checkAll (Draft.checkTerm element.algebra element.draft.monomials.length) 0
            element.draft.terms =
          .ok element.terms.toList := by
      apply Draft.checkAll_eq_ok
      rw [draft, List.forall₂_map_left_iff, List.forall₂_same]
      intro term member position
      have inside := Array.mem_toList_iff.1 member
      rw [Draft.checkTerm_eq_ok_iff, List.length_map, Array.length_toList]
      exact
        ⟨proper.counts term inside, proper.inRange.places term inside,
          proper.inRange.blade_lt inside⟩
    rw [Valid, Draft.validate, indeterminates, monomials, terms]
    rfl

/-! ## Proper arrays and proper summands -/

theorem IsProper.summands
    {element : Multivector}
    (proper : element.IsProper) :
    ∀ summand ∈ element.summands, summand.IsProper element.algebra := by
  intro summand member
  rcases List.mem_map.1 member with ⟨term, inTerms, rfl⟩
  have inside := Array.mem_toList_iff.1 inTerms
  have place := proper.inRange.places term inside
  have found : element.monomials[term.monomial] ∈ element.monomials := Array.getElem_mem place
  rw [summandOf, Array.getElem?_eq_getElem place]
  constructor
  · intro factor inFactors
    apply proper.sources factor
    rcases Array.mem_extract_iff_getElem.1 (Array.mem_toList_iff.1 inFactors) with
      ⟨place, inside, rfl⟩
    exact Array.getElem_mem _
  · exact proper.signs _ found
  · exact proper.coefficients _ found
  · exact proper.counts term inside
  · exact proper.inRange.blade_lt inside

theorem IsProper.ids
    {element : Multivector}
    (proper : element.IsProper) :
    ∀ entry ∈ element.entries, ∀ id ∈ entry.ids, 0 ≤ id := by
  intro entry member
  rcases List.mem_map.1 member with ⟨summand, inSummands, rfl⟩
  exact (proper.summands summand inSummands).ids

theorem isProper_ofSummands
    {algebra : Algebra}
    {summands : List Summand}
    (proper : ∀ summand ∈ summands, summand.IsProper algebra) :
    (ofSummands algebra summands).IsProper := by
  constructor
  · exact inRange_ofSummands fun summand member => (proper summand member).blade
  · intro factor member
    rcases List.mem_flatMap.1 (List.mem_toArray.1 member) with ⟨summand, inside, inFactors⟩
    exact (proper summand inside).sources factor inFactors
  · intro monomial member
    rcases mem_layOut (List.mem_toArray.1 member) with ⟨summand, inside, sign, _⟩
    rw [sign]
    exact (proper summand inside).sign
  · intro monomial member
    rcases mem_layOut (List.mem_toArray.1 member) with ⟨summand, inside, _, coefficient, _⟩
    rw [coefficient]
    exact (proper summand inside).coefficient
  · intro term member
    rcases List.mem_mapIdx.1 (List.mem_toArray.1 member) with ⟨place, inside, rfl⟩
    exact (proper _ (List.getElem_mem inside)).count

theorem isProper_ofEntries
    {algebra : Algebra}
    {entries : List Entry}
    (blades : ∀ entry ∈ entries, entry.blade < algebra.bladeCount)
    (ids : ∀ entry ∈ entries, ∀ id ∈ entry.ids, 0 ≤ id) :
    (ofEntries algebra entries).IsProper := by
  apply isProper_ofSummands
  intro summand member
  rcases List.mem_map.1 member with ⟨entry, inside, rfl⟩
  exact Entry.isProper_summand (blades entry inside) (ids entry inside)

/-! ## Steps of operations -/

namespace IsProper

variable {left right element : Multivector}

/-- A canonical form in range is proper if the ids of what it is made from are accepted. -/
theorem of_canonicalize
    (inRange : element.canonicalize.InRange)
    (ids : ∀ entry ∈ element.entries, ∀ id ∈ entry.ids, 0 ≤ id) :
    element.canonicalize.IsProper := by
  apply isProper_ofEntries
  · intro entry member
    exact inRange.blades entry ((entries_canonicalize element).symm ▸ member)
  · intro entry member
    rcases exists_of_mem_canonicalEntries (fun _ => ids_sorted_of_mem_entries) member with
      ⟨source, inside, sameKey⟩
    have sameIds : source.ids = entry.ids := congrArg Prod.snd sameKey
    exact sameIds ▸ ids source inside

theorem canonicalize
    (proper : element.IsProper) :
    element.canonicalize.IsProper :=
  of_canonicalize (inRange_canonicalize proper.inRange.blades) proper.ids

theorem concatenate
    (leftProper : left.IsProper)
    (rightProper : right.IsProper)
    (agrees : left.algebra.Agrees right.algebra) :
    (concatenate left right).IsProper := by
  constructor
  · constructor
    · intro monomial member
      rw [Multivector.concatenate, Array.size_append]
      rcases Array.mem_append.1 member with inLeft | inRight
      · exact (leftProper.inRange.spans monomial inLeft).trans (Nat.le_add_right ..)
      · rcases Array.mem_map.1 inRight with ⟨moved, inside, rfl⟩
        have span := rightProper.inRange.spans moved inside
        dsimp only
        omega
    · intro term member
      rw [Multivector.concatenate, Array.size_append, Array.size_map]
      rcases Array.mem_append.1 member with inLeft | inRight
      · exact (leftProper.inRange.places term inLeft).trans_le (Nat.le_add_right ..)
      · rcases Array.mem_map.1 inRight with ⟨moved, inside, rfl⟩
        have place := rightProper.inRange.places moved inside
        dsimp only
        omega
    · intro entry member
      rw [entries_concatenate leftProper.inRange] at member
      rcases List.mem_append.1 member with inLeft | inRight
      · exact leftProper.inRange.blades entry inLeft
      · exact (rightProper.inRange.blades entry inRight).trans_eq agrees.bladeCount_eq.symm
  · intro factor member
    exact (Array.mem_append.1 member).elim (leftProper.sources factor) (rightProper.sources factor)
  · intro monomial member
    rcases Array.mem_append.1 member with inLeft | inRight
    · exact leftProper.signs monomial inLeft
    · rcases Array.mem_map.1 inRight with ⟨moved, inside, rfl⟩
      exact rightProper.signs moved inside
  · intro monomial member
    rcases Array.mem_append.1 member with inLeft | inRight
    · exact leftProper.coefficients monomial inLeft
    · rcases Array.mem_map.1 inRight with ⟨moved, inside, rfl⟩
      exact rightProper.coefficients moved inside
  · intro term member
    rcases Array.mem_append.1 member with inLeft | inRight
    · exact leftProper.counts term inLeft
    · rcases Array.mem_map.1 inRight with ⟨moved, inside, rfl⟩
      exact rightProper.counts moved inside

theorem rawProduct
    (kind : ProductKind)
    (leftProper : left.IsProper)
    (rightProper : right.IsProper)
    (agrees : left.algebra.Agrees right.algebra) :
    (rawProduct kind left right).IsProper := by
  apply isProper_ofSummands
  intro summand member
  rcases List.mem_flatMap.1 member with ⟨first, inLeft, member⟩
  rcases List.mem_filterMap.1 member with ⟨second, inRight, multiplied⟩
  have firstProper := leftProper.summands first inLeft
  have secondProper := (rightProper.summands second inRight).of_agrees agrees
  exact firstProper.product secondProper multiplied

theorem of_ids
    {algebra : Algebra}
    {entries : List Entry}
    (inRange : (ofEntries algebra entries).InRange)
    (ids : ∀ entry ∈ entries, ∀ id ∈ entry.ids, 0 ≤ id) :
    (ofEntries algebra entries).IsProper := by
  refine isProper_ofEntries (fun entry member => ?_) ids
  have read : entry.sorted ∈ (ofEntries algebra entries).entries := by
    rw [entries_ofEntries]
    exact List.mem_map_of_mem member
  exact inRange.blades entry.sorted read

theorem rawScale
    (proper : element.IsProper)
    (factor : ℚ) :
    (element.rawScale factor).IsProper := by
  apply of_ids (inRange_rawScale proper.inRange factor)
  intro entry member
  rcases List.mem_map.1 member with ⟨source, inEntries, rfl⟩
  exact proper.ids source inEntries

/-- A map of blades keeps the ids. -/
theorem rawMapBlades
    (proper : element.IsProper)
    {image : Blade → Option (Blade × Int)}
    (inRange : (element.rawMapBlades image).InRange) :
    (element.rawMapBlades image).IsProper := by
  apply of_ids inRange
  intro entry member
  rcases List.mem_filterMap.1 member with ⟨source, inEntries, sent⟩
  rcases Option.map_eq_some_iff.1 sent with ⟨target, _, rfl⟩
  exact proper.ids source inEntries

end IsProper

/-! ## The constructor -/

/-- A multivector that the checks accept and that is its own canonical form. -/
structure IsValidCanonical
    (element : Multivector) :
    Prop where
  valid : element.Valid
  canonical : element.canonicalize = element

theorem IsProper.isValidCanonical_canonicalize
    {element : Multivector}
    (proper : element.IsProper) :
    element.canonicalize.IsValidCanonical :=
  ⟨valid_iff_isProper.2 proper.canonicalize, canonicalize_canonicalize element⟩

/-- What is proper passes the constructor as it is. -/
theorem IsProper.construct
    {element : Multivector}
    (proper : element.IsProper) :
    element.construct = .ok element :=
  valid_iff_isProper.2 proper

/-- The terms of a proper multivector are merged without being refused. -/
theorem IsProper.merge
    {element : Multivector}
    (proper : element.IsProper) :
    element.merge = .ok element.canonicalize := by
  rw [Multivector.merge, proper.construct]
  exact proper.canonicalize.construct

end Multivector

/-! ## Operations -/

/-- The terms that an operation builds out of a proper multivector are proper. -/
theorem UnaryOperation.isProper_raw
    (operation : UnaryOperation)
    {operand : Multivector}
    (proper : operand.IsProper) :
    (operation.raw operand).IsProper := by
  have inRange := operation.inRange_raw proper.inRange
  cases operation with
  | negate => exact proper.rawScale (-1)
  | scale factor => exact proper.rawScale factor
  | _ =>
      unfold raw at inRange ⊢
      exact proper.rawMapBlades inRange

theorem UnaryOperation.isProper_apply
    (operation : UnaryOperation)
    {operand : Multivector}
    (proper : operand.IsProper) :
    (operation.apply operand).IsProper := by
  rw [← operation.canonicalize_raw]
  exact (operation.isProper_raw proper).canonicalize

theorem UnaryOperation.canonicalize_apply
    (operation : UnaryOperation)
    (operand : Multivector) :
    (operation.apply operand).canonicalize = operation.apply operand := by
  rw [← operation.canonicalize_raw, Multivector.canonicalize_canonicalize]

theorem UnaryOperation.isValidCanonical_apply
    (operation : UnaryOperation)
    {operand : Multivector}
    (proper : operand.IsProper) :
    (operation.apply operand).IsValidCanonical :=
  ⟨Multivector.valid_iff_isProper.2 (operation.isProper_apply proper),
    operation.canonicalize_apply operand⟩

/-- An operation on a proper multivector is not refused at any step. -/
theorem UnaryOperation.perform_eq_ok
    (operation : UnaryOperation)
    {operand : Multivector}
    (proper : operand.IsProper) :
    operation.perform operand = .ok (operation.apply operand) := by
  rw [perform, (operation.isProper_raw proper).merge, operation.canonicalize_raw]

theorem BinaryOperation.isProper_apply
    (operation : BinaryOperation)
    {left right : Multivector}
    (leftProper : left.IsProper)
    (rightProper : right.IsProper)
    (agrees : left.algebra.Agrees right.algebra) :
    (operation.apply left right).IsProper := by
  cases operation with
  | sum => exact (leftProper.concatenate rightProper agrees).canonicalize
  | difference =>
      have negated := UnaryOperation.negate.isProper_apply rightProper
      exact (leftProper.concatenate negated agrees).canonicalize
  | geometric | exterior | leftContraction | scalarProduct =>
      exact (leftProper.rawProduct _ rightProper agrees).canonicalize
  | regressive =>
      have first := UnaryOperation.dual.isProper_apply leftProper
      have second := UnaryOperation.dual.isProper_apply rightProper
      have exterior := (first.rawProduct .exterior second agrees).canonicalize
      exact UnaryOperation.undual.isProper_apply exterior

/-- The result of an operation is its own canonical form. -/
theorem BinaryOperation.canonicalize_apply
    (operation : BinaryOperation)
    (left right : Multivector) :
    (operation.apply left right).canonicalize = operation.apply left right := by
  cases operation with
  | regressive => exact UnaryOperation.undual.canonicalize_apply _
  | _ => exact Multivector.canonicalize_canonicalize _

theorem BinaryOperation.isValidCanonical_apply
    (operation : BinaryOperation)
    {left right : Multivector}
    (leftProper : left.IsProper)
    (rightProper : right.IsProper)
    (agrees : left.algebra.Agrees right.algebra) :
    (operation.apply left right).IsValidCanonical :=
  ⟨Multivector.valid_iff_isProper.2 (operation.isProper_apply leftProper rightProper agrees),
    operation.canonicalize_apply left right⟩

/-- The steps of an operation on proper multivectors of one algebra are not refused. -/
theorem BinaryOperation.performSteps_eq_ok
    (operation : BinaryOperation)
    {left right : Multivector}
    (leftProper : left.IsProper)
    (rightProper : right.IsProper)
    (agrees : left.algebra.Agrees right.algebra) :
    operation.performSteps left right = .ok (operation.apply left right) := by
  cases operation with
  | sum => exact (leftProper.concatenate rightProper agrees).merge
  | difference =>
      have negated := UnaryOperation.negate.isProper_apply rightProper
      simp only [performSteps, UnaryOperation.negate.perform_eq_ok rightProper, bind, Except.bind,
        (leftProper.concatenate negated agrees).merge]
      rfl
  | geometric => exact (leftProper.rawProduct .geometric rightProper agrees).merge
  | exterior => exact (leftProper.rawProduct .exterior rightProper agrees).merge
  | leftContraction => exact (leftProper.rawProduct .leftContraction rightProper agrees).merge
  | scalarProduct => exact (leftProper.rawProduct .scalar rightProper agrees).merge
  | regressive =>
      have first := UnaryOperation.dual.isProper_apply leftProper
      have second := UnaryOperation.dual.isProper_apply rightProper
      have product := first.rawProduct .exterior second agrees
      simp only [performSteps, UnaryOperation.dual.perform_eq_ok leftProper,
        UnaryOperation.dual.perform_eq_ok rightProper, bind, Except.bind, product.merge,
        UnaryOperation.undual.perform_eq_ok product.canonicalize]
      rfl

/-- An operation on proper multivectors of one algebra is not refused. -/
theorem BinaryOperation.perform_of_agrees
    (operation : BinaryOperation)
    {left right : Multivector}
    (leftProper : left.IsProper)
    (rightProper : right.IsProper)
    (agrees : left.algebra.Agrees right.algebra) :
    operation.perform left right = .ok (operation.apply left right) := by
  rw [perform, if_pos agrees]
  exact operation.performSteps_eq_ok leftProper rightProper agrees

/-- On proper multivectors only the algebras are a reason to refuse an operation. -/
theorem BinaryOperation.perform_eq_combine
    (operation : BinaryOperation)
    {left right : Multivector}
    (leftProper : left.IsProper)
    (rightProper : right.IsProper) :
    operation.perform left right = Multivector.combine operation.apply left right := by
  by_cases agrees : left.algebra.Agrees right.algebra
  · rw [operation.perform_of_agrees leftProper rightProper agrees, Multivector.combine,
      if_pos agrees]
  · rw [perform, Multivector.combine, if_neg agrees, if_neg agrees]

end Versor

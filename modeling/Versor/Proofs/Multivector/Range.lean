import Versor.Expression.Perform
import Versor.Proofs.Multivector.Merge
import Versor.Proofs.Reference.Blade

/-!
# References and blades in range

The terms of a multivector refer to its monomials, and these refer to its
indeterminates, by their places.  A multivector is in range if all of them
are there and its blades belong to its algebra, which is what the validating
constructor sees to.  Every operation keeps to its range, so nothing that is
looked up is ever missing.
-/

namespace Versor
namespace Multivector

/-- A multivector refers to what is there only, and its blades are those of its algebra. -/
structure InRange
    (element : Multivector) :
    Prop where
  spans :
    ∀ monomial ∈ element.monomials,
      monomial.start + monomial.width ≤ element.indeterminates.size
  places : ∀ term ∈ element.terms, term.monomial < element.monomials.size
  blades : ∀ entry ∈ element.entries, entry.blade < element.algebra.bladeCount

/-! ## Arrays that are laid out -/

theorem layOut_span
    {monomial : Monomial}
    {start : Nat}
    {summands : List Summand}
    (member : monomial ∈ layOut start summands) :
    monomial.start + monomial.width ≤
      start + (summands.flatMap Summand.factors).length := by
  induction summands generalizing start with
  | nil => simp [layOut] at member
  | cons summand rest inductionHypothesis =>
      rw [List.flatMap_cons, List.length_append]
      rcases List.mem_cons.1 member with rfl | member
      · dsimp only
        omega
      · have inRest := inductionHypothesis member
        omega

theorem inRange_ofSummands
    {algebra : Algebra}
    {summands : List Summand}
    (blades : ∀ summand ∈ summands, summand.blade < algebra.bladeCount) :
    (ofSummands algebra summands).InRange where
  spans monomial member := by
    simpa [ofSummands] using layOut_span (List.mem_toArray.1 member)
  places term member := by
    simp only [ofSummands, List.mem_toArray, List.mem_mapIdx] at member
    rcases member with ⟨place, inside, rfl⟩
    simpa [ofSummands] using inside
  blades entry member := by
    rw [entries, summands_ofSummands] at member
    rcases List.mem_map.1 member with ⟨summand, inSummands, rfl⟩
    exact blades summand inSummands

theorem inRange_ofEntries
    {algebra : Algebra}
    {entries : List Entry}
    (blades : ∀ entry ∈ entries, entry.blade < algebra.bladeCount) :
    (ofEntries algebra entries).InRange := by
  apply inRange_ofSummands
  intro summand member
  rcases List.mem_map.1 member with ⟨entry, inEntries, rfl⟩
  exact blades entry inEntries

/-- Every entry of a canonical list is like one that was merged into it. -/
theorem exists_of_mem_canonicalEntries
    {entries : List Entry}
    (sorted : ∀ entry ∈ entries, entry.ids.Pairwise (· ≤ ·))
    {entry : Entry}
    (member : entry ∈ canonicalEntries entries) :
    ∃ merged ∈ entries, merged.key = entry.key := by
  by_contra absent
  push Not at absent
  have zero := coefficientsOf_eq_zero absent
  rw [← coefficientsOf_canonicalEntries] at zero
  rcases (canonicalEntries_canonical sorted).mem_iff.1 member with ⟨value, nonzero⟩
  exact nonzero (value.symm.trans zero)

theorem inRange_canonicalize
    {element : Multivector}
    (blades : ∀ entry ∈ element.entries, entry.blade < element.algebra.bladeCount) :
    element.canonicalize.InRange := by
  apply inRange_ofEntries
  intro entry member
  rcases exists_of_mem_canonicalEntries (fun _ => ids_sorted_of_mem_entries) member with
    ⟨merged, inEntries, sameKey⟩
  have sameBlade : merged.blade = entry.blade := congrArg Prod.fst sameKey
  exact sameBlade ▸ blades merged inEntries

theorem inRange_canonicalize_ofEntries
    {algebra : Algebra}
    {entries : List Entry}
    (blades : ∀ entry ∈ entries, entry.blade < algebra.bladeCount) :
    (ofEntries algebra entries).canonicalize.InRange :=
  inRange_canonicalize (inRange_ofEntries blades).blades

/-! ## Concatenation -/

/-- A multivector in range is read as before when another one is put behind it. -/
theorem summandOf_concatenate_left
    {left : Multivector}
    (inRange : left.InRange)
    (right : Multivector)
    {term : Term}
    (member : term ∈ left.terms) :
    (concatenate left right).summandOf term = left.summandOf term := by
  have place := inRange.places term member
  have found :
      (concatenate left right).monomials[term.monomial]? =
        some left.monomials[term.monomial] := by
    simp [concatenate, Array.getElem?_append, place]
  have span := inRange.spans left.monomials[term.monomial] (Array.getElem_mem place)
  have factors :
      (concatenate left right).factorsOf left.monomials[term.monomial] =
        left.factorsOf left.monomials[term.monomial] := by
    simp only [factorsOf, concatenate, Array.extract_append]
    rw [Nat.sub_eq_zero_of_le span, Array.extract_zero, Array.append_empty]
  simp only [summandOf, found, Array.getElem?_eq_getElem place, factors]

theorem summandOf_concatenate_right
    (left right : Multivector)
    (term : Term) :
    (concatenate left right).summandOf
        { term with monomial := term.monomial + left.monomials.size } =
      right.summandOf term := by
  have found :
      (concatenate left right).monomials[term.monomial + left.monomials.size]? =
        right.monomials[term.monomial]?.map fun monomial =>
          { monomial with start := monomial.start + left.indeterminates.size } := by
    simp [concatenate, Array.getElem?_append_right]
  have factors (monomial : Monomial) :
      (concatenate left right).factorsOf
          { monomial with start := monomial.start + left.indeterminates.size } =
        right.factorsOf monomial := by
    simp only [factorsOf, concatenate, Array.extract_append]
    rw [Array.extract_empty_of_size_le_start (Nat.le_add_left ..), Array.empty_append,
      Nat.add_sub_cancel, Nat.add_right_comm, Nat.add_sub_cancel]
  simp only [summandOf, found]
  cases right.monomials[term.monomial]? with
  | none => rfl
  | some monomial => simp only [Option.map_some, factors]

theorem summands_concatenate
    {left : Multivector}
    (inRange : left.InRange)
    (right : Multivector) :
    (concatenate left right).summands = left.summands ++ right.summands := by
  simp only [summands, concatenate, Array.toList_append, Array.toList_map, List.map_append,
    List.map_map]
  congr 1
  · apply List.map_congr_left
    intro term member
    exact summandOf_concatenate_left inRange right (Array.mem_toList_iff.1 member)
  · apply List.map_congr_left
    intro term _
    exact summandOf_concatenate_right left right term

theorem entries_concatenate
    {left : Multivector}
    (inRange : left.InRange)
    (right : Multivector) :
    (concatenate left right).entries = left.entries ++ right.entries := by
  rw [entries, summands_concatenate inRange, List.map_append, entries, entries]

end Multivector

/-! ## Operations -/

/-- Algebras that agree have the same blades. -/
theorem Algebra.Agrees.bladeCount_eq
    {left right : Algebra}
    (agrees : left.Agrees right) :
    left.bladeCount = right.bladeCount := by
  have same : left.plain.bladeCount = right.plain.bladeCount := by
    rw [show left.plain = right.plain from agrees]
  exact same

namespace Multivector

@[simp]
theorem algebra_mapBlades
    (element : Multivector)
    (image : Blade → Option (Blade × Int)) :
    (element.mapBlades image).algebra = element.algebra :=
  rfl

@[simp]
theorem algebra_exteriorProduct
    (left right : Multivector) :
    (exteriorProduct left right).algebra = left.algebra :=
  rfl

theorem inRange_rawScale
    {element : Multivector}
    (inRange : element.InRange)
    (factor : Rat) :
    (element.rawScale factor).InRange := by
  apply inRange_ofEntries
  intro entry member
  rcases List.mem_map.1 member with ⟨source, inEntries, rfl⟩
  exact inRange.blades source inEntries

/-- A map that keeps to the blades of the algebra keeps multivectors in range. -/
theorem inRange_rawMapBlades
    {element : Multivector}
    (inRange : element.InRange)
    {image : Blade → Option (Blade × Int)}
    (closed :
      ∀ blade < element.algebra.bladeCount,
        ∀ target ∈ image blade, target.1 < element.algebra.bladeCount) :
    (element.rawMapBlades image).InRange := by
  apply inRange_ofEntries
  intro entry member
  rcases List.mem_filterMap.1 member with ⟨source, inEntries, mapped⟩
  rcases Option.map_eq_some_iff.1 mapped with ⟨target, found, rfl⟩
  exact closed source.blade (inRange.blades source inEntries) target found

theorem lt_of_mem_signedBy
    {sign : Blade → Int}
    {blade bound : Nat}
    (below : blade < bound)
    {target : Blade × Int}
    (found : target ∈ signedBy sign blade) :
    target.1 < bound := by
  cases found
  exact below

theorem lt_of_mem_ofGrade
    {grade : Rat}
    {blade bound : Nat}
    (below : blade < bound)
    {target : Blade × Int}
    (found : target ∈ ofGrade grade blade) :
    target.1 < bound := by
  unfold ofGrade at found
  split at found
  · cases found
    exact below
  · cases found

theorem inRange_concatenate_canonicalize
    {left right : Multivector}
    (leftInRange : left.InRange)
    (rightInRange : right.InRange)
    (agrees : left.algebra.Agrees right.algebra) :
    (concatenate left right).canonicalize.InRange := by
  apply inRange_canonicalize
  intro entry member
  rw [entries_concatenate leftInRange] at member
  rcases List.mem_append.1 member with inLeft | inRight
  · exact leftInRange.blades entry inLeft
  · exact (rightInRange.blades entry inRight).trans_eq agrees.bladeCount_eq.symm

theorem mem_summands_blade
    {element : Multivector}
    (inRange : element.InRange)
    {summand : Summand}
    (member : summand ∈ element.summands) :
    summand.blade < element.algebra.bladeCount :=
  inRange.blades summand.entry (List.mem_map_of_mem member)

theorem inRange_product
    (kind : ProductKind)
    {left right : Multivector}
    (leftInRange : left.InRange)
    (rightInRange : right.InRange)
    (agrees : left.algebra.Agrees right.algebra) :
    (product kind left right).InRange := by
  refine inRange_canonicalize (inRange_ofSummands fun summand member => ?_).blades
  rcases List.mem_flatMap.1 member with ⟨first, inLeft, member⟩
  rcases List.mem_filterMap.1 member with ⟨second, inRight, multiplied⟩
  have rightBelow :=
    (mem_summands_blade rightInRange inRight).trans_eq agrees.bladeCount_eq.symm
  simp only [productSummand?] at multiplied
  split at multiplied
  · cases multiplied
  · cases multiplied
    exact
      left.algebra.xor_lt_bladeCount (mem_summands_blade leftInRange inLeft) rightBelow

end Multivector

/-- What an operation makes is the canonical form of the terms that it builds. -/
theorem UnaryOperation.canonicalize_raw
    (operation : UnaryOperation)
    (operand : Multivector) :
    (operation.raw operand).canonicalize = operation.apply operand := by
  cases operation <;> rfl

theorem UnaryOperation.inRange_raw
    (operation : UnaryOperation)
    {operand : Multivector}
    (inRange : operand.InRange) :
    (operation.raw operand).InRange := by
  cases operation with
  | negate => exact Multivector.inRange_rawScale inRange (-1)
  | scale factor => exact Multivector.inRange_rawScale inRange factor
  | reverse | involute | conjugate =>
      apply Multivector.inRange_rawMapBlades inRange
      exact fun _ below _ found => Multivector.lt_of_mem_signedBy below found
  | grade grade =>
      apply Multivector.inRange_rawMapBlades inRange
      exact fun _ below _ found => Multivector.lt_of_mem_ofGrade below found
  | dual | undual =>
      unfold raw
      apply Multivector.inRange_rawMapBlades inRange
      intro blade below target found
      cases found
      exact operand.algebra.xor_lt_bladeCount operand.algebra.pseudoscalar_lt_bladeCount below

theorem UnaryOperation.inRange_apply
    (operation : UnaryOperation)
    {operand : Multivector}
    (inRange : operand.InRange) :
    (operation.apply operand).InRange := by
  rw [← operation.canonicalize_raw]
  exact Multivector.inRange_canonicalize (operation.inRange_raw inRange).blades

namespace Multivector

theorem inRange_scale
    {element : Multivector}
    (inRange : element.InRange)
    (factor : Rat) :
    (element.scale factor).InRange :=
  (UnaryOperation.scale factor).inRange_apply inRange

theorem inRange_dual
    {element : Multivector}
    (inRange : element.InRange) :
    element.dual.InRange :=
  UnaryOperation.dual.inRange_apply inRange

theorem inRange_regressiveProduct
    {left right : Multivector}
    (leftInRange : left.InRange)
    (rightInRange : right.InRange)
    (agrees : left.algebra.Agrees right.algebra) :
    (regressiveProduct left right).InRange := by
  have dualsAgree : left.dual.algebra.Agrees right.dual.algebra := agrees
  have exterior : (exteriorProduct left.dual right.dual).InRange :=
    inRange_product _ (inRange_dual leftInRange) (inRange_dual rightInRange) dualsAgree
  exact UnaryOperation.undual.inRange_apply exterior

end Multivector

theorem BinaryOperation.inRange_apply
    (operation : BinaryOperation)
    {left right : Multivector}
    (leftInRange : left.InRange)
    (rightInRange : right.InRange)
    (agrees : left.algebra.Agrees right.algebra) :
    (operation.apply left right).InRange := by
  cases operation with
  | sum =>
      exact Multivector.inRange_concatenate_canonicalize leftInRange rightInRange agrees
  | difference =>
      exact
        Multivector.inRange_concatenate_canonicalize leftInRange
          (Multivector.inRange_scale rightInRange (-1)) agrees
  | geometric | exterior | leftContraction | scalarProduct =>
      exact Multivector.inRange_product _ leftInRange rightInRange agrees
  | regressive =>
      exact Multivector.inRange_regressiveProduct leftInRange rightInRange agrees

@[simp]
theorem UnaryOperation.algebra_apply
    (operation : UnaryOperation)
    (operand : Multivector) :
    (operation.apply operand).algebra = operand.algebra := by
  cases operation <;> rfl

@[simp]
theorem BinaryOperation.algebra_apply
    (operation : BinaryOperation)
    (left right : Multivector) :
    (operation.apply left right).algebra = left.algebra := by
  cases operation with
  | regressive =>
      rw [apply, Multivector.regressiveProduct, Multivector.undual,
        Multivector.algebra_mapBlades, Multivector.algebra_exteriorProduct]
      rfl
  | _ => rfl

end Versor

import Versor.Proofs.Multivector.Valuation
import Versor.Multivector.Spelling

/-!
# The canonical form is a normal form

A polynomial over the rationals that vanishes at every assignment is zero,
and the coefficients of the polynomial on a blade are those of the entries on
it (`coeff_entriesAt`).  So multivectors with the same values have the same
coefficients, and their canonical forms are equal term by term.

`Multivector.IsNormal` says how the arrays of a canonical form look.
-/

namespace Versor

open MvPolynomial

/-! ## Coefficients of polynomials -/

/-- The exponents of the product of ids. -/
noncomputable def exponents
    (ids : List SourceId) :
    SourceId →₀ ℕ :=
  Multiset.toFinsupp (ids : Multiset SourceId)

/-- Ascending ids are determined by their exponents. -/
theorem exponents_injective
    {left right : List SourceId}
    (leftSorted : left.Pairwise (· ≤ ·))
    (rightSorted : right.Pairwise (· ≤ ·)) :
    exponents left = exponents right ↔ left = right := by
  constructor
  · intro same
    exact
      eq_of_perm_of_ascending (Multiset.coe_eq_coe.1 (Multiset.toFinsupp.injective same))
        leftSorted rightSorted
  · exact congrArg exponents

theorem productAt_X
    (ids : List SourceId) :
    productAt (X : SourceId → MvPolynomial SourceId ℚ) ids =
      monomial (exponents ids) 1 := by
  induction ids with
  | nil => simp [productAt, exponents]
  | cons id rest inductionHypothesis =>
      have split :
          exponents (id :: rest) = Finsupp.single id 1 + exponents rest := by
        rw [exponents, exponents, ← Multiset.cons_coe, ← Multiset.singleton_add,
          Multiset.toFinsupp_add, Multiset.toFinsupp_singleton]
      have unfolded :
          productAt X (id :: rest) =
            (X id : MvPolynomial SourceId ℚ) * productAt X rest :=
        List.prod_cons
      rw [unfolded, inductionHypothesis, split, X, monomial_mul, one_mul]

/-- The coefficients of the polynomial on a blade are those of the entries on it. -/
theorem coeff_entriesAt
    {entries : List Entry}
    (entriesSorted : ∀ entry ∈ entries, entry.ids.Pairwise (· ≤ ·))
    (blade : Blade)
    {ids : List SourceId}
    (sorted : ids.Pairwise (· ≤ ·)) :
    coeff (exponents ids)
        (entriesAt (X : SourceId → MvPolynomial SourceId ℚ) entries
          (Blade.vectors blade)) =
      coefficientsOf entries (blade, ids) := by
  unfold entriesAt
  induction entries with
  | nil => simp [coefficientsOf]
  | cons entry rest inductionHypothesis =>
      rw [List.forall_mem_cons] at entriesSorted
      have sameIds := exponents_injective entriesSorted.1 sorted
      have sameBlade :
          Blade.vectors entry.blade = Blade.vectors blade ↔ entry.blade = blade :=
        Blade.vectors_injective.eq_iff
      rw [totalOf_cons, Finsupp.add_apply, coeff_add,
        inductionHypothesis entriesSorted.2, coefficientsOf_cons, Finsupp.add_apply,
        weighAt_apply, productAt_X, Finsupp.single_apply, Finsupp.single_apply]
      congr 1
      by_cases onBlade : entry.blade = blade
      · by_cases likeIds : entry.ids = ids
        · simp [Entry.key, onBlade, likeIds]
        · simp [Entry.key, onBlade, likeIds, coeff_monomial, sameIds]
      · simp [Entry.key, onBlade, sameBlade]

/-- Entries with the same value at every rational assignment have the same coefficients. -/
theorem coefficientsOf_eq_of_entriesAt_eq
    {left right : List Entry}
    (leftSorted : ∀ entry ∈ left, entry.ids.Pairwise (· ≤ ·))
    (rightSorted : ∀ entry ∈ right, entry.ids.Pairwise (· ≤ ·))
    (same :
      ∀ assignment : SourceId → ℚ,
        entriesAt assignment left = entriesAt assignment right) :
    coefficientsOf left = coefficientsOf right := by
  have samePolynomial (word : Word) :
      entriesAt (X : SourceId → MvPolynomial SourceId ℚ) left word =
        entriesAt X right word := by
    apply MvPolynomial.funext
    intro assignment
    have evaluated : ⇑(eval assignment) ∘ X = assignment :=
      by
      ext id
      exact eval_X id
    rw [map_entriesAt, map_entriesAt, evaluated, same]
  apply Finsupp.ext
  rintro ⟨blade, ids⟩
  by_cases sorted : ids.Pairwise (· ≤ ·)
  · rw [← coeff_entriesAt leftSorted blade sorted,
      ← coeff_entriesAt rightSorted blade sorted, samePolynomial]
  · have absent {entries : List Entry}
        (entriesSorted : ∀ entry ∈ entries, entry.ids.Pairwise (· ≤ ·)) :
        coefficientsOf entries (blade, ids) = 0 := by
      apply coefficientsOf_eq_zero
      intro entry member equal
      have sameIds : entry.ids = ids := congrArg Prod.snd equal
      exact sorted (sameIds ▸ entriesSorted entry member)
    rw [absent leftSorted, absent rightSorted]

namespace Multivector

/-! ## Canonical forms -/

theorem canonicalEntries_entries
    (element : Multivector) :
    IsCanonical (canonicalEntries element.entries) :=
  canonicalEntries_canonical fun _ member => ids_sorted_of_mem_entries member

/-- The entries of a canonical form are the canonical list of the entries. -/
theorem entries_canonicalize
    (element : Multivector) :
    element.canonicalize.entries = canonicalEntries element.entries := by
  rw [canonicalize, entries_ofEntries]
  have unchanged :
      ∀ entry ∈ canonicalEntries element.entries, entry.sorted = entry :=
    fun entry member =>
      Entry.sorted_eq_self (element.canonicalEntries_entries.idsAscending entry member)
  exact (List.map_congr_left unchanged).trans (List.map_id _)

/-- Canonicalizing twice does not change more than canonicalizing once. -/
theorem canonicalize_canonicalize
    (element : Multivector) :
    element.canonicalize.canonicalize = element.canonicalize := by
  rw [canonicalize, entries_canonicalize, algebra_canonicalize,
    element.canonicalEntries_entries.canonicalEntries_eq_self]
  rfl

/-- Multivectors of one algebra have one canonical form if they have the same values. -/
theorem plain_canonicalize_eq_iff
    {left right : Multivector} :
    left.canonicalize.plain = right.canonicalize.plain ↔
      left.algebra.Agrees right.algebra ∧
        ∀ assignment : SourceId → ℚ,
          left.valueAt assignment = right.valueAt assignment := by
  constructor
  · intro same
    refine ⟨congrArg Multivector.algebra same, fun assignment => ?_⟩
    have sameValue := congrArg (valueAt assignment) same
    simpa using sameValue
  · rintro ⟨sameAlgebra, sameValues⟩
    have sameCoefficients : coefficientsOf left.entries = coefficientsOf right.entries := by
      refine
        coefficientsOf_eq_of_entriesAt_eq (fun _ => ids_sorted_of_mem_entries)
          (fun _ => ids_sorted_of_mem_entries) fun assignment => ?_
      rw [← valueAt_eq_entriesAt, ← valueAt_eq_entriesAt, sameValues]
    have sameEntries : canonicalEntries left.entries = canonicalEntries right.entries := by
      refine
        left.canonicalEntries_entries.eq_of_coefficients_eq
          right.canonicalEntries_entries ?_
      rw [coefficientsOf_canonicalEntries, coefficientsOf_canonicalEntries,
        sameCoefficients]
    simp only [plain, canonicalize, algebra_ofEntries, sameEntries]
    rw [show left.algebra.plain = right.algebra.plain from sameAlgebra]
    rfl

/--
How the arrays of a canonical form look: every term has a monomial of its own
and counts once, the terms ascend by blade, width and ids, and nothing is zero
or scaled.
-/
structure IsNormal
    (element : Multivector) :
    Prop where
  /-- Terms ascend strictly by blade, then by width, then by ids. -/
  ascending : element.entries.Pairwise fun left right => left.rank < right.rank
  /-- The ids of a monomial ascend, repetitions kept. -/
  idsAscending :
    ∀ summand ∈ element.summands,
      (summand.factors.map Indeterminate.source).Pairwise (· ≤ ·)
  coefficientsPositive : ∀ monomial ∈ element.monomials, 0 < monomial.coefficient
  valuesNonzero : ∀ entry ∈ element.entries, entry.value ≠ 0
  countsOne : ∀ term ∈ element.terms, term.count = 1
  multipliersOne : ∀ factor ∈ element.indeterminates, factor.multiplier = 1
  /-- The monomials are those of the terms, in the order of the terms. -/
  monomialsInOrder :
    element.terms.toList.map Term.monomial = List.range element.monomials.size

theorem mem_layOut
    {monomial : Monomial}
    {start : Nat}
    {summands : List Summand}
    (member : monomial ∈ layOut start summands) :
    ∃ summand ∈ summands,
      monomial.sign = summand.sign ∧ monomial.coefficient = summand.coefficient ∧
        monomial.width = summand.factors.length := by
  induction summands generalizing start with
  | nil => simp [layOut] at member
  | cons summand rest inductionHypothesis =>
      rcases List.mem_cons.1 member with rfl | member
      · exact ⟨summand, List.mem_cons_self .., rfl, rfl, rfl⟩
      · rcases inductionHypothesis member with ⟨found, inRest, same⟩
        exact ⟨found, List.mem_cons_of_mem _ inRest, same⟩

/-- A canonical list of entries is read back as it is. -/
theorem entries_ofEntries_of_isCanonical
    (algebra : Algebra)
    {entries : List Entry}
    (canonical : IsCanonical entries) :
    (ofEntries algebra entries).entries = entries := by
  rw [entries_ofEntries]
  exact
    (List.map_congr_left fun entry member =>
      Entry.sorted_eq_self (canonical.idsAscending entry member)).trans (List.map_id _)

/-- What is laid out of a canonical list is its own canonical form. -/
theorem canonicalize_ofEntries_of_isCanonical
    (algebra : Algebra)
    {entries : List Entry}
    (canonical : IsCanonical entries) :
    (ofEntries algebra entries).canonicalize = ofEntries algebra entries := by
  rw [canonicalize, entries_ofEntries_of_isCanonical algebra canonical,
    canonical.canonicalEntries_eq_self]
  rfl

theorem isNormal_ofEntries
    (algebra : Algebra)
    {entries : List Entry}
    (canonical : IsCanonical entries) :
    (ofEntries algebra entries).IsNormal := by
  have read := entries_ofEntries_of_isCanonical algebra canonical
  refine
    { ascending := read.symm ▸ canonical.ascending
      idsAscending := ?_
      coefficientsPositive := ?_
      valuesNonzero := read.symm ▸ canonical.nonzero
      countsOne := ?_
      multipliersOne := ?_
      monomialsInOrder := ?_ }
  · intro summand member
    rw [ofEntries, summands_ofSummands] at member
    rcases List.mem_map.1 member with ⟨entry, inEntries, rfl⟩
    simpa [Entry.summand, Function.comp_def] using canonical.idsAscending entry inEntries
  · intro monomial member
    rcases mem_layOut (List.mem_toArray.1 member) with ⟨summand, inSummands, _, coefficient, _⟩
    rcases List.mem_map.1 inSummands with ⟨entry, inEntries, rfl⟩
    have nonzero := canonical.nonzero entry inEntries
    rw [coefficient, Entry.summand]
    split
    · next negative => exact neg_pos.2 negative
    · next notNegative => exact lt_of_le_of_ne (not_lt.1 notNegative) nonzero.symm
  · intro term member
    simp only [ofEntries, ofSummands, List.mem_toArray, List.mem_mapIdx] at member
    rcases member with ⟨place, inside, rfl⟩
    simp [Entry.summand]
  · intro factor member
    simp only [ofEntries, ofSummands, List.mem_toArray, List.mem_flatMap,
      List.mem_map] at member
    rcases member with ⟨_, ⟨entry, _, rfl⟩, inFactors⟩
    rcases List.mem_map.1 inFactors with ⟨id, _, rfl⟩
    rfl
  · apply List.ext_getElem
    · simp [ofEntries, ofSummands]
    · intro place _ _
      simp [ofEntries, ofSummands]

/--
Canonical forms are normal forms: two multivectors have the same one exactly
if their algebras are the same and so are their values at every rational
assignment.  Its arrays are in normal form, and it is its own canonical form.
-/
theorem canonicalize_normalForm
    (left right : Multivector) :
    (left.canonicalize.plain = right.canonicalize.plain ↔
        left.algebra.Agrees right.algebra ∧
          ∀ assignment : SourceId → ℚ,
            left.valueAt assignment = right.valueAt assignment) ∧
      left.canonicalize.IsNormal ∧
      left.canonicalize.canonicalize = left.canonicalize :=
  ⟨plain_canonicalize_eq_iff,
    isNormal_ofEntries left.algebra left.canonicalEntries_entries,
    left.canonicalize_canonicalize⟩

end Multivector
end Versor

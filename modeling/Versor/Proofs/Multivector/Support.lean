import Versor.Proofs.Multivector.NormalForm

/-!
# The blades of a canonical form

`distinctSorted` lists the members of a list once and in order.  The blades of
a multivector are listed that way, and those of a canonical form are exactly
the blades on which its polynomial is not zero (`mem_blades_iff_ne_zero`).
-/

namespace Versor

/-! ## Distinct members in order -/

section Distinct

variable {Value : Type} [LinearOrder Value]

theorem mem_insertDistinct
    {value member : Value}
    {values : List Value} :
    member ∈ insertDistinct value values ↔ member = value ∨ member ∈ values := by
  induction values with
  | nil => simp [insertDistinct]
  | cons other rest inductionHypothesis =>
      unfold insertDistinct
      split
      · exact List.mem_cons
      · split
        · next notBefore same =>
          subst same
          simp
        · simp only [List.mem_cons, inductionHypothesis]
          tauto

theorem insertDistinct_sortedLT
    {value : Value}
    {values : List Value}
    (sorted : values.SortedLT) :
    (insertDistinct value values).SortedLT := by
  induction values with
  | nil => simp [insertDistinct, List.sortedLT_iff_pairwise]
  | cons other rest inductionHypothesis =>
      rcases List.pairwise_cons.1 sorted.pairwise with ⟨above, restPairwise⟩
      unfold insertDistinct
      split
      · next before =>
        refine (List.pairwise_cons.2 ⟨fun later member => ?_, sorted.pairwise⟩).sortedLT
        rcases List.mem_cons.1 member with rfl | member
        · exact before
        · exact before.trans (above later member)
      · next notBefore =>
        split
        · exact sorted
        · next different =>
          have behind : other < value := lt_of_le_of_ne (not_lt.1 notBefore) (Ne.symm different)
          refine
            (List.pairwise_cons.2
              ⟨fun later member => ?_,
                (inductionHypothesis restPairwise.sortedLT).pairwise⟩).sortedLT
          rcases mem_insertDistinct.1 member with rfl | member
          · exact behind
          · exact above later member

theorem mem_distinctSorted
    {member : Value}
    {values : List Value} :
    member ∈ distinctSorted values ↔ member ∈ values := by
  unfold distinctSorted
  induction values with
  | nil => rfl
  | cons value rest inductionHypothesis =>
      rw [List.foldr_cons, mem_insertDistinct, inductionHypothesis, List.mem_cons]

theorem distinctSorted_sortedLT
    (values : List Value) :
    (distinctSorted values).SortedLT := by
  unfold distinctSorted
  induction values with
  | nil => exact List.Pairwise.nil.sortedLT
  | cons value rest inductionHypothesis => exact insertDistinct_sortedLT inductionHypothesis

/-- Members that are all the same are listed once. -/
theorem distinctSorted_eq_singleton
    {values : List Value}
    {value : Value}
    (same : ∀ member ∈ values, member = value)
    (nonempty : values ≠ []) :
    distinctSorted values = [value] := by
  refine
    (distinctSorted_sortedLT values).eq_of_mem_iff (by simp [List.sortedLT_iff_pairwise])
      fun member => ?_
  rw [mem_distinctSorted, List.mem_singleton]
  constructor
  · exact same member
  · rintro rfl
    rcases List.exists_mem_of_ne_nil values nonempty with ⟨other, isMember⟩
    exact same other isMember ▸ isMember

/-- A list that is as long as that of its distinct members has no duplicates. -/
theorem nodup_of_length_distinctSorted
    {values : List Value}
    (same : (distinctSorted values).length = values.length) :
    values.Nodup := by
  have distinct : (distinctSorted values).Nodup := (distinctSorted_sortedLT values).nodup
  have permuted : (distinctSorted values).Perm values.dedup := by
    refine (List.perm_ext_iff_of_nodup distinct (List.nodup_dedup values)).2 fun member => ?_
    rw [mem_distinctSorted, List.mem_dedup]
  have unchanged : values.dedup = values :=
    (List.dedup_sublist values).eq_of_length (permuted.length_eq.symm.trans same)
  exact unchanged ▸ List.nodup_dedup values

end Distinct

/-! ## Blades with a coefficient -/

/-- Entries on other blades have no coefficient on a blade. -/
theorem entriesAt_eq_zero
    {Coefficient : Type*}
    [CommRing Coefficient]
    [Module ℚ Coefficient]
    (assignment : SourceId → Coefficient)
    {entries : List Entry}
    {blade : Blade}
    (absent : ∀ entry ∈ entries, entry.blade ≠ blade) :
    entriesAt assignment entries (Blade.vectors blade) = 0 := by
  unfold entriesAt
  induction entries with
  | nil => rfl
  | cons entry rest inductionHypothesis =>
      rw [List.forall_mem_cons] at absent
      have otherWord : Blade.vectors entry.blade ≠ Blade.vectors blade :=
        fun same => absent.1 (Blade.vectors_injective same)
      rw [totalOf_cons, Finsupp.add_apply, weighAt_apply, Entry.key,
        Finsupp.single_eq_of_ne' otherWord, inductionHypothesis absent.2, zero_add]

open MvPolynomial

/-- A canonical list has an entry on exactly the blades where its polynomial is not zero. -/
theorem IsCanonical.entriesAt_ne_zero_iff
    {entries : List Entry}
    (canonical : IsCanonical entries)
    (blade : Blade) :
    entriesAt (X : SourceId → MvPolynomial SourceId ℚ) entries (Blade.vectors blade) ≠ 0 ↔
      ∃ entry ∈ entries, entry.blade = blade := by
  constructor
  · contrapose!
    exact entriesAt_eq_zero X
  · rintro ⟨entry, member, rfl⟩ zero
    have coefficient :=
      coeff_entriesAt canonical.idsAscending entry.blade (canonical.idsAscending entry member)
    rw [zero, coeff_zero] at coefficient
    exact canonical.nonzero entry member
      ((canonical.coefficient_of_mem member).symm.trans coefficient.symm)

namespace Multivector

theorem isCanonical_canonicalize
    (element : Multivector) :
    IsCanonical element.canonicalize.entries := by
  rw [entries_canonicalize]
  exact element.canonicalEntries_entries

theorem blades_sortedLT
    (element : Multivector) :
    element.blades.SortedLT :=
  distinctSorted_sortedLT _

theorem mem_blades
    {element : Multivector}
    {blade : Blade} :
    blade ∈ element.blades ↔ ∃ entry ∈ element.entries, entry.blade = blade := by
  simp [blades, mem_distinctSorted, entries, summands, Summand.entry, blade_summandOf]

/-- The blades of a canonical form are those where its polynomial is not zero. -/
theorem mem_blades_iff_ne_zero
    {element : Multivector}
    (canonical : IsCanonical element.entries)
    (blade : Blade) :
    blade ∈ element.blades ↔
      element.valueAt (X : SourceId → MvPolynomial SourceId ℚ) (Blade.vectors blade) ≠ 0 := by
  rw [mem_blades, valueAt_eq_entriesAt, canonical.entriesAt_ne_zero_iff]

/-- The values of a canonical form are sums over its blades. -/
theorem valueAt_eq_zero_of_not_mem_blades
    {Coefficient : Type*}
    [CommRing Coefficient]
    [Module ℚ Coefficient]
    (assignment : SourceId → Coefficient)
    {element : Multivector}
    {blade : Blade}
    (absent : blade ∉ element.blades) :
    element.valueAt assignment (Blade.vectors blade) = 0 := by
  rw [mem_blades] at absent
  push Not at absent
  rw [valueAt_eq_entriesAt]
  exact entriesAt_eq_zero assignment absent

/-- A canonical form has the blades where it is not zero for some real values of its ids. -/
theorem mem_blades_iff_exists
    {element : Multivector}
    (canonical : IsCanonical element.entries)
    (blade : Blade) :
    blade ∈ element.blades ↔
      ∃ assignment : SourceId → ℝ, element.valueAt assignment (Blade.vectors blade) ≠ 0 := by
  constructor
  · intro member
    rw [mem_blades_iff_ne_zero canonical, valueAt_eq_entriesAt] at member
    have evaluated :
        ∃ assignment : SourceId → ℚ,
          eval assignment (entriesAt X element.entries (Blade.vectors blade)) ≠ 0 := by
      by_contra allZero
      push Not at allZero
      exact member (MvPolynomial.funext fun assignment => by rw [allZero, map_zero])
    rcases evaluated with ⟨assignment, nonzero⟩
    refine ⟨fun id => (assignment id : ℝ), ?_⟩
    have values :
        (algebraMap ℚ ℝ).comp (eval assignment) ∘ X = fun id => (assignment id : ℝ) := by
      funext id
      simp
    rw [valueAt_eq_entriesAt, ← values, ← map_entriesAt]
    simpa using nonzero
  · rintro ⟨assignment, nonzero⟩
    by_contra absent
    exact nonzero (valueAt_eq_zero_of_not_mem_blades assignment absent)

end Multivector
end Versor

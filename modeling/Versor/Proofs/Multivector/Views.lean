import Mathlib
import Versor.Multivector.BladeMap

/-!
# Summands and entries as views of the arrays

The arrays of a multivector are looked at through two lists.  Laying out
summands and reading them back changes nothing (`summands_ofSummands`), and
laying out entries and reading them back sorts their ids
(`entries_ofEntries`).  The order of ids is settled here too: `sortIds` is
the only ascending arrangement of a list of ids.
-/

namespace Versor

/-! ## Ascending ids -/

theorem insertId_perm
    (id : SourceId)
    (ids : List SourceId) :
    List.Perm (insertId id ids) (id :: ids) := by
  induction ids with
  | nil => exact .refl _
  | cons other rest inductionHypothesis =>
      unfold insertId
      split
      · exact .refl _
      · exact (inductionHypothesis.cons other).trans (.swap id other rest)

theorem insertId_sorted
    {id : SourceId}
    {ids : List SourceId}
    (sorted : ids.Pairwise (· ≤ ·)) :
    (insertId id ids).Pairwise (· ≤ ·) := by
  induction ids with
  | nil => simp [insertId]
  | cons other rest inductionHypothesis =>
      rcases List.pairwise_cons.1 sorted with ⟨below, restSorted⟩
      unfold insertId
      split
      · next before =>
        refine List.pairwise_cons.2 ⟨fun later member => ?_, sorted⟩
        rcases List.mem_cons.1 member with rfl | member
        · exact before
        · exact before.trans (below later member)
      · next notBefore =>
        refine List.pairwise_cons.2 ⟨fun later member => ?_, inductionHypothesis restSorted⟩
        rcases List.mem_cons.1 ((insertId_perm id rest).subset member) with rfl | member
        · exact (not_le.1 notBefore).le
        · exact below later member

theorem sortIds_perm
    (ids : List SourceId) :
    List.Perm (sortIds ids) ids := by
  induction ids with
  | nil => exact .refl _
  | cons id rest inductionHypothesis =>
      exact (insertId_perm id (sortIds rest)).trans (inductionHypothesis.cons id)

theorem sortIds_sorted
    (ids : List SourceId) :
    (sortIds ids).Pairwise (· ≤ ·) := by
  induction ids with
  | nil => exact .nil
  | cons id rest inductionHypothesis => exact insertId_sorted inductionHypothesis

/-- Ascending lists of the same ids are equal. -/
theorem eq_of_perm_of_ascending
    {left right : List SourceId}
    (permuted : left.Perm right)
    (leftSorted : left.Pairwise (· ≤ ·))
    (rightSorted : right.Pairwise (· ≤ ·)) :
    left = right :=
  permuted.eq_of_pairwise (fun _ _ _ _ below above => le_antisymm below above)
    leftSorted rightSorted

theorem sortIds_eq_self
    {ids : List SourceId}
    (sorted : ids.Pairwise (· ≤ ·)) :
    sortIds ids = ids :=
  eq_of_perm_of_ascending (sortIds_perm ids) (sortIds_sorted ids) sorted

/-! ## Entries with ascending ids -/

namespace Entry

/-- The entry with its ids in ascending order. -/
def sorted
    (entry : Entry) :
    Entry :=
  { entry with ids := sortIds entry.ids }

theorem sorted_eq_self
    {entry : Entry}
    (ascending : entry.ids.Pairwise (· ≤ ·)) :
    entry.sorted = entry := by
  simp [sorted, sortIds_eq_self ascending]

/-- A sign and a magnitude are split off a value and multiplied together again. -/
theorem entry_summand
    (entry : Entry) :
    entry.summand.entry = entry.sorted := by
  have unscaled (ids : List SourceId) (value : Rat) :
      (ids.map fun id => (⟨id, 1⟩ : Indeterminate)).foldl
          (fun total factor => total * factor.multiplier) value = value := by
    induction ids generalizing value with
    | nil => rfl
    | cons id rest inductionHypothesis => simp [inductionHypothesis]
  have value : entry.summand.value = entry.value := by
    simp only [Summand.value, summand, unscaled]
    split <;> simp
  simp only [Summand.entry, value, sorted]
  simp [summand, Function.comp_def]

end Entry

namespace Multivector

/-! ## Laying out summands -/

theorem layOut_append
    (start : Nat)
    (first second : List Summand) :
    layOut start (first ++ second) =
      layOut start first ++
        layOut (start + (first.flatMap Summand.factors).length) second := by
  induction first generalizing start with
  | nil => simp [layOut]
  | cons summand rest inductionHypothesis =>
      simp [layOut, inductionHypothesis, Nat.add_assoc]

@[simp]
theorem layOut_length
    (start : Nat)
    (summands : List Summand) :
    (layOut start summands).length = summands.length := by
  induction summands generalizing start with
  | nil => rfl
  | cons summand rest inductionHypothesis =>
      simp [layOut, inductionHypothesis]

theorem blade_summandOf
    (element : Multivector)
    (term : Term) :
    (element.summandOf term).blade = term.blade := by
  unfold summandOf
  split <;> rfl

/-- A summand is found behind those that were laid out before it. -/
theorem summandOf_ofSummands
    (algebra : Algebra)
    (before after : List Summand)
    (summand : Summand) :
    (ofSummands algebra (before ++ summand :: after)).summandOf
        ⟨summand.count, before.length, summand.blade⟩ =
      summand := by
  have monomial :
      (layOut 0 (before ++ summand :: after))[before.length]? =
        some
          ⟨summand.sign, summand.coefficient, summand.factors.length,
            (before.flatMap Summand.factors).length⟩ := by
    rw [layOut_append, List.getElem?_append_right (by simp)]
    simp [layOut]
  have factors :
      List.take summand.factors.length
          (List.drop (before.flatMap Summand.factors).length
            ((before ++ summand :: after).flatMap Summand.factors)) =
        summand.factors := by
    simp
  simp only [summandOf, ofSummands, factorsOf, List.getElem?_toArray, monomial]
  simp only [Array.toList_extract, List.extract_eq_take_drop, Nat.add_sub_cancel_left,
    factors]

/-- Summands that are laid out are read back. -/
@[simp]
theorem summands_ofSummands
    (algebra : Algebra)
    (summands : List Summand) :
    (ofSummands algebra summands).summands = summands := by
  apply List.ext_getElem
  · simp [Multivector.summands, ofSummands]
  · intro place _ inside
    have split :
        summands.take place ++ summands[place] :: summands.drop (place + 1) =
          summands := by
      rw [← List.drop_eq_getElem_cons inside, List.take_append_drop]
    have read :=
      summandOf_ofSummands algebra (summands.take place)
        (summands.drop (place + 1)) summands[place]
    rw [split, List.length_take_of_le inside.le] at read
    simpa [Multivector.summands, ofSummands] using read

/-- Entries that are laid out are read back with ascending ids. -/
theorem entries_ofEntries
    (algebra : Algebra)
    (entries : List Entry) :
    (ofEntries algebra entries).entries = entries.map Entry.sorted := by
  simp [Multivector.entries, ofEntries, Entry.entry_summand, Function.comp_def]

@[simp]
theorem algebra_ofSummands
    (algebra : Algebra)
    (summands : List Summand) :
    (ofSummands algebra summands).algebra = algebra :=
  rfl

@[simp]
theorem algebra_ofEntries
    (algebra : Algebra)
    (entries : List Entry) :
    (ofEntries algebra entries).algebra = algebra :=
  rfl

@[simp]
theorem algebra_canonicalize
    (element : Multivector) :
    element.canonicalize.algebra = element.algebra :=
  rfl

/-- The ids of an entry ascend, however its indeterminates are arranged. -/
theorem ids_sorted_of_mem_entries
    {element : Multivector}
    {entry : Entry}
    (member : entry ∈ element.entries) :
    entry.ids.Pairwise (· ≤ ·) := by
  rcases List.mem_map.1 member with ⟨summand, _, rfl⟩
  exact sortIds_sorted _

end Multivector
end Versor

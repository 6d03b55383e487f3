import Versor.Proofs.Multivector.Views

/-!
# Merging canonical lists of entries

The order of entries is a linear order of their ranks: the blade, the number
of ids, the ids.  A canonical list ascends strictly in it, holds no zero and
has ascending ids.  Merging keeps lists canonical and adds up whatever is
additive in the values of entries, so the canonical list of any entries has
the same totals as they have.

A canonical list is determined by its coefficients
(`IsCanonical.eq_of_coefficients_eq`), which makes it a normal form.
-/

namespace Versor
namespace Entry

/-! ## The order of entries -/

/-- The rank of an entry: entries are ordered by blade, number of ids and ids. -/
def rank
    (entry : Entry) :
    Blade ×ₗ Nat ×ₗ List SourceId :=
  toLex (entry.blade, toLex (entry.ids.length, entry.ids))

/-- What an entry is a multiple of. -/
def key
    (entry : Entry) :
    Blade × List SourceId :=
  (entry.blade, entry.ids)

theorem compareIds_eq_lt
    {left right : List SourceId} :
    compareIds left right = .lt ↔ left < right := by
  induction left generalizing right with
  | nil => cases right <;> simp [compareIds]
  | cons first firsts inductionHypothesis =>
      cases right with
      | nil => simp [compareIds]
      | cons second seconds =>
          rw [compareIds, Ordering.then_eq_lt, inductionHypothesis,
            List.cons_lt_cons_iff, compareOfLessAndEq_eq_lt,
            compareOfLessAndEq_eq_eq le_refl not_le]

theorem compareIds_eq_eq
    {left right : List SourceId} :
    compareIds left right = .eq ↔ left = right := by
  induction left generalizing right with
  | nil => cases right <;> simp [compareIds]
  | cons first firsts inductionHypothesis =>
      cases right with
      | nil => simp [compareIds]
      | cons second seconds =>
          rw [compareIds, Ordering.then_eq_eq, inductionHypothesis,
            compareOfLessAndEq_eq_eq le_refl not_le, List.cons_eq_cons]

theorem order_eq_lt
    {left right : Entry} :
    left.order right = .lt ↔ left.rank < right.rank := by
  rw [order, Ordering.then_eq_lt, Ordering.then_eq_lt, compareIds_eq_lt,
    compare_lt_iff_lt, compare_lt_iff_lt, compare_eq_iff_eq, compare_eq_iff_eq]
  simp only [rank, Prod.Lex.toLex_lt_toLex]

theorem order_eq_eq
    {left right : Entry} :
    left.order right = .eq ↔ left.key = right.key := by
  rw [order, Ordering.then_eq_eq, Ordering.then_eq_eq, compareIds_eq_eq,
    compare_eq_iff_eq, compare_eq_iff_eq, key, key, Prod.mk.injEq]
  exact and_congr_right fun _ => and_iff_right_of_imp (congrArg List.length)

theorem rank_eq_iff
    {left right : Entry} :
    left.rank = right.rank ↔ left.key = right.key := by
  simp only [rank, key, toLex_inj, Prod.mk.injEq]
  exact and_congr_right fun _ => and_iff_right_of_imp (congrArg List.length)

theorem order_eq_gt
    {left right : Entry} :
    left.order right = .gt ↔ right.rank < left.rank := by
  have less := @order_eq_lt left right
  have equal := @order_eq_eq left right
  rw [← rank_eq_iff] at equal
  rcases lt_trichotomy left.rank right.rank with before | same | behind
  · simp [less.2 before, before.asymm]
  · simp [equal.2 same, same]
  · have notLess := mt less.1 behind.asymm
    have notEqual := mt equal.1 behind.ne'
    cases found : left.order right <;> simp_all

theorem ext_key
    {left right : Entry}
    (sameKey : left.key = right.key)
    (sameValue : left.value = right.value) :
    left = right := by
  cases left
  cases right
  simp only [key, Prod.mk.injEq] at sameKey
  rcases sameKey with ⟨rfl, rfl⟩
  cases sameValue
  rfl

end Entry

/-! ## Equations of merging -/

@[simp]
theorem mergeEntries_nil_left
    (others : List Entry) :
    mergeEntries [] others = others :=
  rfl

@[simp]
theorem mergeEntries_nil_right
    (entries : List Entry) :
    mergeEntries entries [] = entries := by
  induction entries with
  | nil => rfl
  | cons entry rest inductionHypothesis =>
      exact congrArg (entry :: ·) inductionHypothesis

theorem mergeEntries_cons_cons
    (entry other : Entry)
    (entries others : List Entry) :
    mergeEntries (entry :: entries) (other :: others) =
      match entry.order other with
      | .lt => entry :: mergeEntries entries (other :: others)
      | .gt => other :: mergeEntries (entry :: entries) others
      | .eq =>
          if entry.value + other.value = 0 then mergeEntries entries others
          else
            { entry with value := entry.value + other.value } ::
              mergeEntries entries others :=
  rfl

/--
The cases of merging: one list is at its end, one first entry goes before the
other, or two like entries are added and vanish or remain.
-/
theorem mergeEntries_induction
    {motive : List Entry → List Entry → List Entry → Prop}
    (nilLeft : ∀ others, motive [] others others)
    (nilRight : ∀ entries, motive entries [] entries)
    (before :
      ∀ entry entries other others,
        entry.rank < other.rank →
        motive entries (other :: others) (mergeEntries entries (other :: others)) →
        motive (entry :: entries) (other :: others)
          (entry :: mergeEntries entries (other :: others)))
    (behind :
      ∀ entry entries other others,
        other.rank < entry.rank →
        motive (entry :: entries) others (mergeEntries (entry :: entries) others) →
        motive (entry :: entries) (other :: others)
          (other :: mergeEntries (entry :: entries) others))
    (cancelled :
      ∀ entry entries other others,
        entry.key = other.key →
        entry.value + other.value = 0 →
        motive entries others (mergeEntries entries others) →
        motive (entry :: entries) (other :: others) (mergeEntries entries others))
    (added :
      ∀ entry entries other others,
        entry.key = other.key →
        entry.value + other.value ≠ 0 →
        motive entries others (mergeEntries entries others) →
        motive (entry :: entries) (other :: others)
          ({ entry with value := entry.value + other.value } ::
            mergeEntries entries others))
    (entries others : List Entry) :
    motive entries others (mergeEntries entries others) := by
  induction entries generalizing others with
  | nil => exact nilLeft others
  | cons entry entries outer =>
      induction others with
      | nil =>
          rw [mergeEntries_nil_right]
          exact nilRight _
      | cons other others inner =>
          rw [mergeEntries_cons_cons]
          split
          · next less =>
            exact before _ _ _ _ (Entry.order_eq_lt.1 less) (outer _)
          · next greater =>
            exact behind _ _ _ _ (Entry.order_eq_gt.1 greater) inner
          · next equal =>
            have sameKey := Entry.order_eq_eq.1 equal
            split
            · next zero => exact cancelled _ _ _ _ sameKey zero (outer _)
            · next nonzero => exact added _ _ _ _ sameKey nonzero (outer _)

/-! ## Canonical lists -/

/-- Entries in a form that only one list of like entries has. -/
structure IsCanonical
    (entries : List Entry) :
    Prop where
  ascending : entries.Pairwise fun left right => left.rank < right.rank
  nonzero : ∀ entry ∈ entries, entry.value ≠ 0
  idsAscending : ∀ entry ∈ entries, entry.ids.Pairwise (· ≤ ·)

namespace IsCanonical

theorem nil :
    IsCanonical [] :=
  ⟨.nil, by simp, by simp⟩

theorem cons
    {entry : Entry}
    {entries : List Entry}
    (before : ∀ later ∈ entries, entry.rank < later.rank)
    (nonzero : entry.value ≠ 0)
    (sorted : entry.ids.Pairwise (· ≤ ·))
    (canonical : IsCanonical entries) :
    IsCanonical (entry :: entries) where
  ascending := List.pairwise_cons.2 ⟨before, canonical.ascending⟩
  nonzero := List.forall_mem_cons.2 ⟨nonzero, canonical.nonzero⟩
  idsAscending := List.forall_mem_cons.2 ⟨sorted, canonical.idsAscending⟩

theorem before
    {entry : Entry}
    {entries : List Entry}
    (canonical : IsCanonical (entry :: entries)) :
    ∀ later ∈ entries, entry.rank < later.rank :=
  (List.pairwise_cons.1 canonical.ascending).1

theorem tail
    {entry : Entry}
    {entries : List Entry}
    (canonical : IsCanonical (entry :: entries)) :
    IsCanonical entries where
  ascending := (List.pairwise_cons.1 canonical.ascending).2
  nonzero := (List.forall_mem_cons.1 canonical.nonzero).2
  idsAscending := (List.forall_mem_cons.1 canonical.idsAscending).2

theorem head_nonzero
    {entry : Entry}
    {entries : List Entry}
    (canonical : IsCanonical (entry :: entries)) :
    entry.value ≠ 0 :=
  (List.forall_mem_cons.1 canonical.nonzero).1

theorem head_sorted
    {entry : Entry}
    {entries : List Entry}
    (canonical : IsCanonical (entry :: entries)) :
    entry.ids.Pairwise (· ≤ ·) :=
  (List.forall_mem_cons.1 canonical.idsAscending).1

end IsCanonical

/-- Whatever ranks before the members of two lists ranks before those of their sum. -/
theorem rank_lt_of_mem_mergeEntries
    {bound : Blade ×ₗ Nat ×ₗ List SourceId}
    {entries others : List Entry}
    (below : ∀ entry ∈ entries, bound < entry.rank)
    (otherBelow : ∀ entry ∈ others, bound < entry.rank) :
    ∀ entry ∈ mergeEntries entries others, bound < entry.rank := by
  induction entries, others using mergeEntries_induction with
  | nilLeft others => exact otherBelow
  | nilRight entries => exact below
  | before entry entries other others _ inductionHypothesis =>
      rw [List.forall_mem_cons] at below ⊢
      exact ⟨below.1, inductionHypothesis below.2 otherBelow⟩
  | behind entry entries other others _ inductionHypothesis =>
      rw [List.forall_mem_cons] at otherBelow ⊢
      exact ⟨otherBelow.1, inductionHypothesis below otherBelow.2⟩
  | cancelled entry entries other others _ _ inductionHypothesis =>
      rw [List.forall_mem_cons] at below otherBelow
      exact inductionHypothesis below.2 otherBelow.2
  | added entry entries other others _ _ inductionHypothesis =>
      rw [List.forall_mem_cons] at below otherBelow ⊢
      exact ⟨below.1, inductionHypothesis below.2 otherBelow.2⟩

theorem mergeEntries_canonical
    {entries others : List Entry}
    (canonical : IsCanonical entries)
    (otherCanonical : IsCanonical others) :
    IsCanonical (mergeEntries entries others) := by
  induction entries, others using mergeEntries_induction with
  | nilLeft others => exact otherCanonical
  | nilRight entries => exact canonical
  | before entry entries other others less inductionHypothesis =>
      refine .cons ?_ canonical.head_nonzero canonical.head_sorted
        (inductionHypothesis canonical.tail otherCanonical)
      apply rank_lt_of_mem_mergeEntries canonical.before
      exact List.forall_mem_cons.2
        ⟨less, fun later member => less.trans (otherCanonical.before later member)⟩
  | behind entry entries other others less inductionHypothesis =>
      refine .cons ?_ otherCanonical.head_nonzero otherCanonical.head_sorted
        (inductionHypothesis canonical otherCanonical.tail)
      refine rank_lt_of_mem_mergeEntries ?_ otherCanonical.before
      exact List.forall_mem_cons.2
        ⟨less, fun later member => less.trans (canonical.before later member)⟩
  | cancelled entry entries other others _ _ inductionHypothesis =>
      exact inductionHypothesis canonical.tail otherCanonical.tail
  | added entry entries other others sameKey nonzero inductionHypothesis =>
      refine .cons ?_ nonzero canonical.head_sorted
        (inductionHypothesis canonical.tail otherCanonical.tail)
      apply rank_lt_of_mem_mergeEntries canonical.before
      intro later member
      exact (Entry.rank_eq_iff.2 sameKey).trans_lt (otherCanonical.before later member)

theorem mergePairs_canonical
    {lists : List (List Entry)}
    (canonical : ∀ entries ∈ lists, IsCanonical entries) :
    ∀ entries ∈ mergePairs lists, IsCanonical entries := by
  fun_induction mergePairs lists with
  | case1 first second rest inductionHypothesis =>
      simp only [List.forall_mem_cons] at canonical ⊢
      exact
        ⟨mergeEntries_canonical canonical.1 canonical.2.1,
          inductionHypothesis canonical.2.2⟩
  | case2 lists _ => exact canonical

theorem mergeRounds_canonical
    {rounds : Nat}
    {lists : List (List Entry)}
    (canonical : ∀ entries ∈ lists, IsCanonical entries) :
    IsCanonical (mergeRounds rounds lists) := by
  fun_induction mergeRounds rounds lists with
  | case1 => exact .nil
  | case2 _ single => exact canonical single (List.mem_singleton_self single)
  | case3 lists _ _ =>
      clear * - canonical
      induction lists with
      | nil => exact .nil
      | cons first rest inductionHypothesis =>
          rw [List.forall_mem_cons] at canonical
          exact mergeEntries_canonical canonical.1 (inductionHypothesis canonical.2)
  | case4 rounds lists _ _ inductionHypothesis =>
      exact inductionHypothesis (mergePairs_canonical canonical)

/-- Entries with ascending ids have a canonical list. -/
theorem canonicalEntries_canonical
    {entries : List Entry}
    (sorted : ∀ entry ∈ entries, entry.ids.Pairwise (· ≤ ·)) :
    IsCanonical (canonicalEntries entries) := by
  apply mergeRounds_canonical
  simp only [List.forall_mem_map]
  intro entry member
  unfold singleEntry
  split
  · exact .nil
  · next nonzero =>
    exact .cons (by simp) nonzero (sorted entry member) .nil

/-! ## Totals -/

section Total

variable {Total : Type*} [AddCommMonoid Total]

/-- The total of entries, to which each adds what it weighs. -/
def totalOf
    (weigh : Blade × List SourceId → ℚ →+ Total)
    (entries : List Entry) :
    Total :=
  (entries.map fun entry => weigh entry.key entry.value).sum

variable (weigh : Blade × List SourceId → ℚ →+ Total)

@[simp]
theorem totalOf_nil :
    totalOf weigh [] = 0 :=
  rfl

@[simp]
theorem totalOf_cons
    (entry : Entry)
    (entries : List Entry) :
    totalOf weigh (entry :: entries) =
      weigh entry.key entry.value + totalOf weigh entries :=
  List.sum_cons

theorem totalOf_mergeEntries
    (entries others : List Entry) :
    totalOf weigh (mergeEntries entries others) =
      totalOf weigh entries + totalOf weigh others := by
  induction entries, others using mergeEntries_induction with
  | nilLeft others => simp
  | nilRight entries => simp
  | before entry entries other others _ inductionHypothesis =>
      rw [totalOf_cons, inductionHypothesis, totalOf_cons, totalOf_cons]
      abel
  | behind entry entries other others _ inductionHypothesis =>
      rw [totalOf_cons, inductionHypothesis, totalOf_cons, totalOf_cons]
      abel
  | cancelled entry entries other others sameKey zero inductionHypothesis =>
      have vanishing :
          weigh other.key entry.value + weigh other.key other.value = 0 := by
        rw [← map_add, zero, map_zero]
      rw [inductionHypothesis, totalOf_cons, totalOf_cons, sameKey,
        add_add_add_comm, vanishing, zero_add]
  | added entry entries other others sameKey _ inductionHypothesis =>
      rw [totalOf_cons, inductionHypothesis, totalOf_cons, totalOf_cons, ← sameKey]
      change weigh entry.key (entry.value + other.value) + _ = _
      rw [map_add, add_add_add_comm]

theorem totalOf_mergePairs
    (lists : List (List Entry)) :
    ((mergePairs lists).map (totalOf weigh)).sum =
      (lists.map (totalOf weigh)).sum := by
  fun_induction mergePairs lists with
  | case1 first second rest inductionHypothesis =>
      simp only [List.map_cons, List.sum_cons, totalOf_mergeEntries,
        inductionHypothesis, add_assoc]
  | case2 lists _ => rfl

theorem totalOf_mergeRounds
    (rounds : Nat)
    (lists : List (List Entry)) :
    totalOf weigh (mergeRounds rounds lists) =
      (lists.map (totalOf weigh)).sum := by
  fun_induction mergeRounds rounds lists with
  | case1 => rfl
  | case2 _ single => simp
  | case3 lists _ _ =>
      clear * -
      induction lists with
      | nil => rfl
      | cons first rest inductionHypothesis =>
          rw [List.foldr_cons, totalOf_mergeEntries, inductionHypothesis,
            List.map_cons, List.sum_cons]
  | case4 rounds lists _ _ inductionHypothesis =>
      rw [inductionHypothesis, totalOf_mergePairs]

/-- The canonical list of entries has their total. -/
theorem totalOf_canonicalEntries
    (entries : List Entry) :
    totalOf weigh (canonicalEntries entries) = totalOf weigh entries := by
  unfold canonicalEntries
  rw [totalOf_mergeRounds]
  have single (entry : Entry) :
      totalOf weigh (singleEntry entry) = weigh entry.key entry.value := by
    unfold singleEntry
    split
    · next zero => simp [zero]
    · simp
  rw [List.map_map, totalOf]
  exact congrArg List.sum (List.map_congr_left fun entry _ => single entry)

end Total

/-! ## Coefficients determine canonical lists -/

/-- The coefficient that entries have at each key. -/
noncomputable def coefficientsOf
    (entries : List Entry) :
    Blade × List SourceId →₀ ℚ :=
  totalOf Finsupp.singleAddHom entries

theorem coefficientsOf_canonicalEntries
    (entries : List Entry) :
    coefficientsOf (canonicalEntries entries) = coefficientsOf entries :=
  totalOf_canonicalEntries _ entries

theorem coefficientsOf_cons
    (entry : Entry)
    (entries : List Entry) :
    coefficientsOf (entry :: entries) =
      Finsupp.single entry.key entry.value + coefficientsOf entries :=
  totalOf_cons _ _ _

/-- Entries have no coefficient at a key that none of them has. -/
theorem coefficientsOf_eq_zero
    {entries : List Entry}
    {key : Blade × List SourceId}
    (absent : ∀ entry ∈ entries, entry.key ≠ key) :
    coefficientsOf entries key = 0 := by
  induction entries with
  | nil => rfl
  | cons entry rest inductionHypothesis =>
      rw [List.forall_mem_cons] at absent
      rw [coefficientsOf_cons, Finsupp.add_apply, inductionHypothesis absent.2,
        Finsupp.single_eq_of_ne absent.1.symm, add_zero]

namespace IsCanonical

variable {entries others : List Entry}

theorem coefficient_of_mem
    (canonical : IsCanonical entries)
    {entry : Entry}
    (member : entry ∈ entries) :
    coefficientsOf entries entry.key = entry.value := by
  induction entries with
  | nil => simp at member
  | cons first rest inductionHypothesis =>
      rw [coefficientsOf_cons, Finsupp.add_apply]
      rcases List.mem_cons.1 member with rfl | member
      · have absent : ∀ later ∈ rest, later.key ≠ entry.key := fun later inRest same =>
          (canonical.before later inRest).ne' (Entry.rank_eq_iff.2 same)
        rw [coefficientsOf_eq_zero absent, Finsupp.single_eq_same, add_zero]
      · have different : entry.key ≠ first.key := fun same =>
          (canonical.before entry member).ne' (Entry.rank_eq_iff.2 same)
        rw [inductionHypothesis canonical.tail member,
          Finsupp.single_eq_of_ne different, zero_add]

/-- A canonical list holds an entry for each coefficient that is not zero. -/
theorem mem_iff
    (canonical : IsCanonical entries)
    {entry : Entry} :
    entry ∈ entries ↔
      coefficientsOf entries entry.key = entry.value ∧ entry.value ≠ 0 := by
  constructor
  · intro member
    exact ⟨canonical.coefficient_of_mem member, canonical.nonzero entry member⟩
  · rintro ⟨value, nonzero⟩
    by_contra absent
    have noneLike : ∀ other ∈ entries, other.key ≠ entry.key := by
      intro other member same
      have otherValue := canonical.coefficient_of_mem member
      rw [same, value] at otherValue
      exact absent (Entry.ext_key same otherValue.symm ▸ member)
    rw [coefficientsOf_eq_zero noneLike] at value
    exact nonzero value.symm

/-- Canonical lists with the same coefficients are equal. -/
theorem eq_of_coefficients_eq
    (canonical : IsCanonical entries)
    (otherCanonical : IsCanonical others)
    (same : coefficientsOf entries = coefficientsOf others) :
    entries = others := by
  have sameMembers (entry : Entry) : entry ∈ entries ↔ entry ∈ others := by
    rw [canonical.mem_iff, otherCanonical.mem_iff, same]
  have distinct {list : List Entry} (canonical : IsCanonical list) : list.Nodup :=
    canonical.ascending.imp fun {_ _} less equal => less.ne (congrArg Entry.rank equal)
  have permuted : entries.Perm others :=
    (List.perm_ext_iff_of_nodup (distinct canonical) (distinct otherCanonical)).2
      sameMembers
  exact permuted.eq_of_pairwise
    (fun _ _ _ _ less greater => absurd less greater.asymm)
    canonical.ascending otherCanonical.ascending

/-- A canonical list is its own canonical list. -/
theorem canonicalEntries_eq_self
    (canonical : IsCanonical entries) :
    canonicalEntries entries = entries :=
  (canonicalEntries_canonical canonical.idsAscending).eq_of_coefficients_eq canonical
    (coefficientsOf_canonicalEntries entries)

/-- The canonical list of entries that make up a canonical list in another order. -/
theorem canonicalEntries_eq_of_perm
    (canonical : IsCanonical entries)
    (permuted : others.Perm entries) :
    canonicalEntries others = entries := by
  have idsAscending : ∀ entry ∈ others, entry.ids.Pairwise (· ≤ ·) :=
    fun entry member => canonical.idsAscending entry (permuted.subset member)
  have same : coefficientsOf others = coefficientsOf entries := by
    rw [coefficientsOf, coefficientsOf, totalOf, totalOf]
    exact (permuted.map _).sum_eq
  refine (canonicalEntries_canonical idsAscending).eq_of_coefficients_eq canonical ?_
  rw [coefficientsOf_canonicalEntries, same]

end IsCanonical

/-- A list with one entry for each of several blades that ascend is canonical. -/
theorem isCanonical_of_blades
    {entries : List Entry}
    (blades : (entries.map Entry.blade).Pairwise (· < ·))
    (nonzero : ∀ entry ∈ entries, entry.value ≠ 0)
    (idsAscending : ∀ entry ∈ entries, entry.ids.Pairwise (· ≤ ·)) :
    IsCanonical entries where
  ascending :=
    (List.pairwise_map.1 blades).imp fun less => Prod.Lex.toLex_lt_toLex.2 (.inl less)
  nonzero := nonzero
  idsAscending := idsAscending

end Versor

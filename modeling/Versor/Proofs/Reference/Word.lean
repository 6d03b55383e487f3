import Versor.Proofs.Blade.Vectors

/-!
# Words of basis vectors

A word is a product of basis vectors written from left to right, and the
ascending words are the basis blades of a geometric algebra.  Two blades are
multiplied here as one does by hand: the vectors of the left one are brought
into the right one, one after the other.  Each swap of neighbours changes
the sign, and a vector that meets its equal is contracted to its square.

Nothing in this module knows of binary digits.  `multiply_sign` counts the
swaps, and `mem_multiply` says which vectors remain.
-/

namespace Versor

/-- A product of basis vectors, written from left to right. -/
abbrev Word := List Nat

namespace Word

/--
Multiply an ascending word by a vector from the left.  The vector passes the
lower ones, and contracts with its equal.
-/
def prepend
    (square : Nat → Int)
    (vector : Nat) :
    Word → Int × Word
  | [] => (1, [vector])
  | first :: rest =>
      if vector < first then (1, vector :: first :: rest)
      else if vector = first then (square vector, rest)
      else
        let moved := prepend square vector rest
        (-moved.1, first :: moved.2)

/-- Multiply an ascending word by any word from the left, as a signed ascending word. -/
def multiply
    (square : Nat → Int)
    (left right : Word) :
    Int × Word :=
  match left with
  | [] => (1, right)
  | vector :: rest =>
      let product := multiply square rest right
      let moved := prepend square vector product.2
      (product.1 * moved.1, moved.2)

variable {square : Nat → Int}

/-! ## Multiplying by one vector -/

/-- A vector that is lower than all others stays in front. -/
theorem prepend_of_lt
    {vector : Nat}
    {word : Word}
    (lower : ∀ other ∈ word, vector < other) :
    prepend square vector word = (1, vector :: word) := by
  cases word with
  | nil => rfl
  | cons first rest =>
      have before : vector < first := lower first (List.mem_cons_self ..)
      simp [prepend, before]

theorem mem_prepend
    {vector other : Nat}
    {word : Word}
    (sorted : word.SortedLT) :
    other ∈ (prepend square vector word).2 ↔
      ¬ (other ∈ word ↔ other = vector) := by
  induction word with
  | nil => simp [prepend]
  | cons first rest inductionHypothesis =>
      have above : ∀ later ∈ rest, first < later :=
        (List.pairwise_cons.1 sorted.pairwise).1
      have restSorted : rest.SortedLT :=
        (List.pairwise_cons.1 sorted.pairwise).2.sortedLT
      have later := inductionHypothesis restSorted
      unfold prepend
      split
      · next before =>
        have absent : vector ∉ rest := fun member =>
          absurd (above vector member) (by omega)
        by_cases equal : other = vector
        · subst equal
          simp [absent, before.ne]
        · simp [equal, or_iff_not_imp_left]
      · split
        · next notBefore same =>
          subst same
          have absent : vector ∉ rest := fun member =>
            absurd (above vector member) (by omega)
          by_cases equal : other = vector
          · subst equal
            simp [absent]
          · simp [equal]
        · next notBefore different =>
          by_cases equal : other = first
          · subst equal
            have notVector : other ≠ vector := fun same => different same.symm
            simp [notVector]
          · simp [equal, later]

theorem prepend_sortedLT
    {vector : Nat}
    {word : Word}
    (sorted : word.SortedLT) :
    (prepend square vector word).2.SortedLT := by
  induction word with
  | nil => simp [prepend, List.sortedLT_iff_pairwise]
  | cons first rest inductionHypothesis =>
      rcases List.pairwise_cons.1 sorted.pairwise with ⟨above, restPairwise⟩
      unfold prepend
      split
      · next before =>
        refine (List.pairwise_cons.2 ⟨?_, sorted.pairwise⟩).sortedLT
        intro later member
        rcases List.mem_cons.1 member with rfl | member
        · exact before
        · exact before.trans (above later member)
      · split
        · exact restPairwise.sortedLT
        · next notBefore different =>
          refine
            (List.pairwise_cons.2
              ⟨?_, (inductionHypothesis restPairwise.sortedLT).pairwise⟩).sortedLT
          intro later member
          by_cases equal : later = vector
          · omega
          · have inRest : later ∈ rest := by
              simpa [equal] using (mem_prepend restPairwise.sortedLT).1 member
            exact above later inRest

/-- The factor of a vector: a sign for each lower one, and its square if it is there. -/
theorem prepend_sign
    {vector : Nat}
    {word : Word}
    (sorted : word.SortedLT) :
    (prepend square vector word).1 =
      Blade.paritySign (word.countP (· < vector)) *
        (if vector ∈ word then square vector else 1) := by
  induction word with
  | nil => simp [prepend]
  | cons first rest inductionHypothesis =>
      rcases List.pairwise_cons.1 sorted.pairwise with ⟨above, restPairwise⟩
      have noneLower (notAbove : vector ≤ first) :
          rest.countP (· < vector) = 0 := by
        apply List.countP_eq_zero.2
        intro later member
        have := above later member
        simp
        omega
      unfold prepend
      split
      · next before =>
        have absent : vector ∉ rest := fun member =>
          absurd (above vector member) (by omega)
        have notFirst : ¬ first < vector := by omega
        simp [noneLower before.le, before.ne, absent, notFirst]
      · split
        · next notBefore same =>
          subst same
          simp [noneLower le_rfl]
        · next notBefore different =>
          have lower : first < vector := by omega
          simp only [inductionHypothesis restPairwise.sortedLT, List.countP_cons,
            lower, decide_true, if_true, List.mem_cons, different, false_or]
          rw [Blade.paritySign_succ, neg_mul]

/-! ## Multiplying ascending words -/

theorem multiply_sortedLT
    {left right : Word}
    (sorted : right.SortedLT) :
    (multiply square left right).2.SortedLT := by
  induction left with
  | nil => exact sorted
  | cons vector rest inductionHypothesis =>
      exact prepend_sortedLT inductionHypothesis

/-- The vectors of a product are those of exactly one factor. -/
theorem mem_multiply
    {left right : Word}
    {vector : Nat}
    (distinct : left.Nodup)
    (sorted : right.SortedLT) :
    vector ∈ (multiply square left right).2 ↔
      ¬ (vector ∈ left ↔ vector ∈ right) := by
  induction left with
  | nil => simp [multiply]
  | cons first rest inductionHypothesis =>
      rcases List.nodup_cons.1 distinct with ⟨absent, restDistinct⟩
      simp only [multiply]
      rw [mem_prepend (multiply_sortedLT sorted),
        inductionHypothesis restDistinct, List.mem_cons]
      by_cases equal : vector = first
      · subst equal
        simp [absent]
      · simp [equal]

/-- How many vectors of the right word each vector of the left word passes. -/
def swaps
    (left right : Word) :
    Nat :=
  (left.map fun vector => right.countP (· < vector)).sum

/--
The factor of a product: a sign for each swap, and the squares of the common
vectors.
-/
theorem multiply_sign
    {left right : Word}
    (leftSorted : left.SortedLT)
    (rightSorted : right.SortedLT) :
    (multiply square left right).1 =
      Blade.paritySign (swaps left right) *
        ((left.filter (· ∈ right)).map square).prod := by
  induction left with
  | nil => simp [multiply, swaps]
  | cons vector rest inductionHypothesis =>
      rcases List.pairwise_cons.1 leftSorted.pairwise with ⟨above, restPairwise⟩
      have absent : vector ∉ rest := fun member =>
        absurd (above vector member) (lt_irrefl vector)
      have productSorted : (multiply square rest right).2.SortedLT :=
        multiply_sortedLT rightSorted
      have members : ∀ other,
          other ∈ (multiply square rest right).2 ↔ ¬ (other ∈ rest ↔ other ∈ right) :=
        fun _ => mem_multiply restPairwise.sortedLT.nodup rightSorted
      -- The rest of the left word is above the vector, so the lower ones are those on the right.
      have sameLower :
          (multiply square rest right).2.countP (· < vector) =
            right.countP (· < vector) := by
        have sameFilter :
            (multiply square rest right).2.filter (· < vector) =
              right.filter (· < vector) := by
          refine
            (productSorted.pairwise.filter _).sortedLT.eq_of_mem_iff
              (rightSorted.pairwise.filter _).sortedLT fun other => ?_
          simp only [List.mem_filter, decide_eq_true_eq, members,
            and_congr_left_iff]
          intro lower
          have notInRest : other ∉ rest := fun member =>
            absurd (above other member) (by omega)
          simp [notInRest]
        rw [List.countP_eq_length_filter, sameFilter, ← List.countP_eq_length_filter]
      have sameMember :
          vector ∈ (multiply square rest right).2 ↔ vector ∈ right := by
        simp [members, absent]
      simp only [multiply, swaps, List.map_cons, List.sum_cons]
      rw [prepend_sign productSorted, inductionHypothesis restPairwise.sortedLT,
        sameLower, Blade.paritySign_add]
      by_cases common : vector ∈ right
      · simp only [sameMember, common, if_true, List.filter_cons, decide_true,
          List.map_cons, List.prod_cons, swaps]
        ring
      · simp only [sameMember, common, if_false, List.filter_cons, decide_false,
          Bool.false_eq_true, swaps]
        ring

/-- One more vector on the left is passed by the lower vectors on the right. -/
theorem sum_countP_cons
    (first : Nat)
    (rest right : Word) :
    (right.map fun vector => (first :: rest).countP (vector < ·)).sum =
      (right.map fun vector => rest.countP (vector < ·)).sum +
        right.countP (· < first) := by
  induction right with
  | nil => rfl
  | cons vector others inductionHypothesis =>
      simp only [List.countP_cons] at inductionHypothesis
      simp only [List.map_cons, List.sum_cons, List.countP_cons]
      rw [inductionHypothesis]
      omega

/-- The swaps, counted at the vectors of the right word. -/
theorem swaps_eq_sum_right
    (left right : Word) :
    swaps left right =
      (right.map fun vector => left.countP (vector < ·)).sum := by
  induction left with
  | nil => simp [swaps]
  | cons first rest inductionHypothesis =>
      rw [sum_countP_cons, ← inductionHypothesis]
      simp [swaps, Nat.add_comm]

/-! ## Writing a word backwards -/

theorem multiply_append
    (first second right : Word) :
    multiply square (first ++ second) right =
      ((multiply square second right).1 *
          (multiply square first (multiply square second right).2).1,
        (multiply square first (multiply square second right).2).2) := by
  induction first with
  | nil => simp [multiply]
  | cons vector rest inductionHypothesis =>
      simp only [List.cons_append, multiply, inductionHypothesis, Prod.mk.injEq,
        and_true]
      ring

/-- Vectors above the first one of a word all pass it. -/
theorem multiply_cons_of_lt
    {vector : Nat}
    {left right : Word}
    (above : ∀ other ∈ left, vector < other) :
    multiply square left (vector :: right) =
      (Blade.paritySign left.length * (multiply square left right).1,
        vector :: (multiply square left right).2) := by
  induction left with
  | nil => simp [multiply]
  | cons first rest inductionHypothesis =>
      have firstAbove : vector < first := above first (List.mem_cons_self ..)
      have restAbove : ∀ other ∈ rest, vector < other := fun other member =>
        above other (List.mem_cons_of_mem _ member)
      have notBefore : ¬ first < vector := by omega
      have different : first ≠ vector := by omega
      simp only [multiply, inductionHypothesis restAbove, prepend, notBefore,
        different, if_false, List.length_cons, Blade.paritySign_succ,
        Prod.mk.injEq, and_true]
      ring

/-- A word written backwards and brought in order again. -/
def reversed
    (square : Nat → Int)
    (word : Word) :
    Int × Word :=
  multiply square word.reverse []

/-- Each pair of vectors is swapped once when a word is written backwards. -/
theorem reversed_of_sorted
    {word : Word}
    (sorted : word.SortedLT) :
    reversed square word =
      (Blade.paritySign (word.length * (word.length - 1) / 2), word) := by
  unfold reversed
  induction word with
  | nil => simp [multiply]
  | cons vector rest inductionHypothesis =>
      rcases List.pairwise_cons.1 sorted.pairwise with ⟨above, restPairwise⟩
      have reverseAbove : ∀ other ∈ rest.reverse, vector < other := fun other member =>
        above other (List.mem_reverse.1 member)
      have pairs :
          (rest.length + 1) * rest.length / 2 =
            rest.length + rest.length * (rest.length - 1) / 2 := by
        have double :
            (rest.length + 1) * rest.length =
              rest.length * (rest.length - 1) + 2 * rest.length := by
          cases rest.length with
          | zero => rfl
          | succ length =>
              simp only [Nat.add_sub_cancel]
              ring
        rw [double, Nat.add_mul_div_left _ _ (by decide), Nat.add_comm]
      rw [List.reverse_cons, multiply_append]
      simp only [multiply, prepend]
      rw [multiply_cons_of_lt reverseAbove,
        inductionHypothesis restPairwise.sortedLT]
      simp only [List.length_reverse, List.length_cons, Nat.add_sub_cancel,
        mul_one, one_mul, Prod.mk.injEq, and_true]
      rw [pairs, Blade.paritySign_add]

/-! ## Complements -/

/-- The vectors of a space that a word lacks. -/
def complement
    (dimension : Nat)
    (word : Word) :
    Word :=
  (List.range dimension).filter (· ∉ word)

theorem complement_sortedLT
    (dimension : Nat)
    (word : Word) :
    (complement dimension word).SortedLT :=
  (List.pairwise_lt_range.filter _).sortedLT

@[simp]
theorem mem_complement
    {dimension vector : Nat}
    {word : Word} :
    vector ∈ complement dimension word ↔ vector < dimension ∧ vector ∉ word := by
  simp [complement]

end Word
end Versor

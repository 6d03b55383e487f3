import Versor.Proofs.Reference.Element

/-!
# The geometric product is associative

A vector acts on signed words by multiplication from the left.  Acting twice
with one vector is multiplication by its square, and two vectors act in either
order up to a sign.  So a word acts as the ascending word that it is brought
to, which is associativity for words (`Word.multiply_assoc`).

Elements on ascending words inherit it, and the empty word is their unit.
-/

namespace Versor
namespace Word

variable {square : Nat → Int}

/-! ## Vectors acting on signed words -/

/-- A signed word with its factor multiplied by a number. -/
def scaled
    (factor : Int)
    (signed : Int × Word) :
    Int × Word :=
  (factor * signed.1, signed.2)

/-- Multiply a signed word by a vector from the left. -/
def act
    (square : Nat → Int)
    (vector : Nat)
    (signed : Int × Word) :
    Int × Word :=
  (signed.1 * (prepend square vector signed.2).1, (prepend square vector signed.2).2)

theorem multiply_cons
    (vector : Nat)
    (rest right : Word) :
    multiply square (vector :: rest) right =
      act square vector (multiply square rest right) :=
  rfl

@[simp]
theorem scaled_one
    (signed : Int × Word) :
    scaled 1 signed = signed := by
  simp [scaled]

theorem scaled_scaled
    (first second : Int)
    (signed : Int × Word) :
    scaled first (scaled second signed) = scaled (first * second) signed := by
  simp [scaled, mul_assoc]

theorem act_scaled
    (vector : Nat)
    (factor : Int)
    (signed : Int × Word) :
    act square vector (scaled factor signed) =
      scaled factor (act square vector signed) := by
  simp [act, scaled, mul_assoc]

/-- A vector in front changes the parity of the vectors below the higher bounds. -/
theorem paritySign_countP_prepend
    (vector bound : Nat)
    (word : Word) :
    Blade.paritySign ((prepend square vector word).2.countP (· < bound)) =
      (if vector < bound then -1 else 1) * Blade.paritySign (word.countP (· < bound)) := by
  induction word with
  | nil =>
      by_cases below : vector < bound
      · simp [prepend, below, Blade.paritySign_succ 0]
      · simp [prepend, below]
  | cons first rest inductionHypothesis =>
      unfold prepend
      split
      · by_cases below : vector < bound
        · simp [below, Blade.paritySign_succ]
        · simp [below]
      · split
        · next notBefore same =>
          subst same
          by_cases below : vector < bound
          · simp [below, Blade.paritySign_succ]
          · simp [below]
        · by_cases lower : first < bound
          · simp only [List.countP_cons, lower, decide_true, if_true,
              Blade.paritySign_succ, inductionHypothesis, mul_neg]
          · simpa [List.countP_cons, lower] using inductionHypothesis

theorem paritySign_mul_self
    (count : Nat) :
    Blade.paritySign count * Blade.paritySign count = 1 := by
  simp [Blade.paritySign_eq_pow, ← mul_pow]

/-- A vector that acts twice contracts with itself. -/
theorem act_act_self
    (vector : Nat)
    {signed : Int × Word}
    (sorted : signed.2.SortedLT) :
    act square vector (act square vector signed) = scaled (square vector) signed := by
  rcases signed with ⟨factor, word⟩
  have moved : (prepend square vector word).2.SortedLT := prepend_sortedLT sorted
  have members (other : Nat) :
      other ∈ (prepend square vector (prepend square vector word).2).2 ↔ other ∈ word := by
    rw [mem_prepend moved, mem_prepend sorted]
    tauto
  apply Prod.ext
  · have once : vector ∈ (prepend square vector word).2 ↔ vector ∉ word := by
      simp [mem_prepend sorted]
    have parity :
        Blade.paritySign ((prepend square vector word).2.countP (· < vector)) =
          Blade.paritySign (word.countP (· < vector)) := by
      simpa using paritySign_countP_prepend vector vector word
    simp only [act, scaled, prepend_sign sorted, prepend_sign moved, parity, once]
    have signs := paritySign_mul_self (word.countP (· < vector))
    by_cases member : vector ∈ word
    · simp only [member, not_true_eq_false, if_true, if_false, mul_one]
      linear_combination factor * square vector * signs
    · simp only [member, not_false_eq_true, if_true, if_false, mul_one]
      linear_combination factor * square vector * signs
  · exact (prepend_sortedLT moved).eq_of_mem_iff sorted members

/-- Different vectors anticommute. -/
theorem act_act_comm
    {first second : Nat}
    (different : first ≠ second)
    {signed : Int × Word}
    (sorted : signed.2.SortedLT) :
    act square first (act square second signed) =
      scaled (-1) (act square second (act square first signed)) := by
  rcases signed with ⟨factor, word⟩
  have sortedFirst : (prepend square first word).2.SortedLT := prepend_sortedLT sorted
  have sortedSecond : (prepend square second word).2.SortedLT := prepend_sortedLT sorted
  apply Prod.ext
  · have firstStays : first ∈ (prepend square second word).2 ↔ first ∈ word := by
      simp [mem_prepend sorted, different]
    have secondStays : second ∈ (prepend square first word).2 ↔ second ∈ word := by
      simp [mem_prepend sorted, different.symm]
    simp only [act, scaled, prepend_sign sorted, prepend_sign sortedFirst,
      prepend_sign sortedSecond, paritySign_countP_prepend, firstStays, secondStays]
    rcases different.lt_or_gt with before | behind
    · simp only [before, before.asymm, if_true, if_false]
      ring
    · simp only [behind, behind.asymm, if_true, if_false]
      ring
  · refine
      (prepend_sortedLT sortedSecond).eq_of_mem_iff (prepend_sortedLT sortedFirst)
        fun other => ?_
    simp only [act, scaled, mem_prepend sortedSecond, mem_prepend sortedFirst,
      mem_prepend sorted]
    tauto

/-! ## Words acting on words -/

/-- A vector and an ascending word act as the word that they are brought to. -/
theorem multiply_cons_ordered
    (vector : Nat)
    (word : Word)
    {right : Word}
    (sorted : right.SortedLT) :
    multiply square (vector :: word) right =
      scaled (prepend square vector word).1
        (multiply square (prepend square vector word).2 right) := by
  induction word with
  | nil => simp [prepend]
  | cons first rest inductionHypothesis =>
      unfold prepend
      split
      · rw [scaled_one]
      · split
        · next notBefore same =>
          subst same
          exact act_act_self vector (multiply_sortedLT sorted)
        · next notBefore different =>
          calc
            multiply square (vector :: first :: rest) right =
                scaled (-1) (act square first (multiply square (vector :: rest) right)) :=
              act_act_comm different (multiply_sortedLT sorted)
            _ = _ := by
              rw [inductionHypothesis, act_scaled, scaled_scaled, neg_one_mul]
              rfl

/-- A product of two words acts as the ascending word that it is brought to. -/
theorem multiply_append_ordered
    (first second : Word)
    {right : Word}
    (sorted : right.SortedLT) :
    multiply square (first ++ second) right =
      scaled (multiply square first second).1
        (multiply square (multiply square first second).2 right) := by
  induction first with
  | nil => simp [multiply]
  | cons vector rest inductionHypothesis =>
      rw [List.cons_append, multiply_cons, inductionHypothesis, act_scaled,
        ← multiply_cons, multiply_cons_ordered _ _ sorted, scaled_scaled]
      rfl

/-- Three words are multiplied from either side. -/
theorem multiply_assoc
    (square : Nat → Int)
    (first second : Word)
    {third : Word}
    (sorted : third.SortedLT) :
    scaled (multiply square first second).1
        (multiply square (multiply square first second).2 third) =
      scaled (multiply square second third).1
        (multiply square first (multiply square second third).2) := by
  rw [← multiply_append_ordered first second sorted, multiply_append]
  rfl

/-- The empty word is a unit from the right of ascending words. -/
theorem multiply_nil
    {word : Word}
    (sorted : word.SortedLT) :
    multiply square word [] = (1, word) := by
  induction word with
  | nil => rfl
  | cons vector rest inductionHypothesis =>
      rcases List.pairwise_cons.1 sorted.pairwise with ⟨above, restPairwise⟩
      rw [multiply_cons, inductionHypothesis restPairwise.sortedLT, act,
        prepend_of_lt above]
      rfl

end Word

noncomputable section

namespace Reference

variable {Coefficient : Type*} [CommRing Coefficient] (metric : Metric)

/-! ## Sums of ascending words -/

/-- The elements that are sums of ascending words. -/
def ascending : AddSubmonoid (Element Coefficient) :=
  AddSubmonoid.closure
    { summand |
      ∃ word coefficient, word.SortedLT ∧ summand = Finsupp.single word coefficient }

theorem single_mem_ascending
    {word : Word}
    (sorted : word.SortedLT)
    (coefficient : Coefficient) :
    Finsupp.single word coefficient ∈ (ascending : AddSubmonoid (Element Coefficient)) :=
  AddSubmonoid.subset_closure ⟨word, coefficient, sorted, rfl⟩

/-- What is additive and holds of ascending words holds of their sums. -/
@[elab_as_elim]
theorem ascending_induction
    {motive : Element Coefficient → Prop}
    {element : Element Coefficient}
    (member : element ∈ ascending)
    (zero : motive 0)
    (add : ∀ left right, motive left → motive right → motive (left + right))
    (single :
      ∀ (word : Word) coefficient, word.SortedLT → motive (Finsupp.single word coefficient)) :
    motive element := by
  induction member using AddSubmonoid.closure_induction with
  | mem summand isWord =>
      rcases isWord with ⟨word, coefficient, sorted, rfl⟩
      exact single word coefficient sorted
  | zero => exact zero
  | add left right _ _ leftHolds rightHolds => exact add left right leftHolds rightHolds

theorem apply_eq_zero_of_not_sorted
    {element : Element Coefficient}
    (member : element ∈ ascending)
    {word : Word}
    (unsorted : ¬ word.SortedLT) :
    element word = 0 := by
  refine ascending_induction member rfl ?_ ?_
  · intro left right leftZero rightZero
    rw [Finsupp.add_apply, leftZero, rightZero, add_zero]
  · intro other coefficient sorted
    have different : other ≠ word := fun same => unsorted (same ▸ sorted)
    exact Finsupp.single_eq_of_ne' different

/-- Sums of ascending words are equal if they are on all blades. -/
theorem ext_of_ascending
    {left right : Element Coefficient}
    (leftMember : left ∈ ascending)
    (rightMember : right ∈ ascending)
    (same : ∀ blade, left (Blade.vectors blade) = right (Blade.vectors blade)) :
    left = right := by
  ext word
  by_cases sorted : word.SortedLT
  · rcases Blade.exists_eq_vectors sorted with ⟨blade, rfl⟩
    exact same blade
  · rw [apply_eq_zero_of_not_sorted leftMember sorted,
      apply_eq_zero_of_not_sorted rightMember sorted]

theorem geometric_single_single
    (left right : Word)
    (first second : Coefficient) :
    product metric .geometric (Finsupp.single left first) (Finsupp.single right second) =
      Finsupp.single (Word.multiply metric.square left right).2
        (((Word.multiply metric.square left right).1 : Coefficient) * (first * second)) :=
  product_single_single metric .geometric left right first second

/-- The geometric product is associative where its last factor is ascending. -/
theorem geometric_assoc
    (first second : Element Coefficient)
    {third : Element Coefficient}
    (member : third ∈ ascending) :
    product metric .geometric (product metric .geometric first second) third =
      product metric .geometric first (product metric .geometric second third) := by
  induction first using Finsupp.induction_linear with
  | zero => simp
  | add left right leftAssoc rightAssoc => simp only [add_product, leftAssoc, rightAssoc]
  | single firstWord firstCoefficient =>
      induction second using Finsupp.induction_linear with
      | zero => simp
      | add left right leftAssoc rightAssoc =>
          simp only [add_product, product_add, leftAssoc, rightAssoc]
      | single secondWord secondCoefficient =>
          refine ascending_induction member (by simp) ?_ ?_
          · intro left right leftAssoc rightAssoc
            simp only [product_add, leftAssoc, rightAssoc]
          · intro thirdWord thirdCoefficient sorted
            have assoc := Word.multiply_assoc metric.square firstWord secondWord sorted
            have sameWord := congrArg Prod.snd assoc
            have sameSign :=
              congrArg (fun signed => ((signed.1 : Int) : Coefficient)) assoc
            simp only [Word.scaled, Int.cast_mul] at sameWord sameSign
            simp only [geometric_single_single, sameWord]
            congr 1
            linear_combination
              firstCoefficient * secondCoefficient * thirdCoefficient * sameSign

/-- The empty word is a unit from the left. -/
theorem one_geometric
    (element : Element Coefficient) :
    product metric .geometric (Finsupp.single [] 1) element = element := by
  induction element using Finsupp.induction_linear with
  | zero => simp
  | add left right leftSame rightSame => rw [product_add, leftSame, rightSame]
  | single word coefficient =>
      rw [geometric_single_single, Word.multiply, Int.cast_one, one_mul, one_mul]

/-- The empty word is a unit from the right of sums of ascending words. -/
theorem geometric_one
    {element : Element Coefficient}
    (member : element ∈ ascending) :
    product metric .geometric element (Finsupp.single [] 1) = element := by
  refine ascending_induction member (by simp) ?_ ?_
  · intro left right leftSame rightSame
    rw [add_product, leftSame, rightSame]
  · intro word coefficient sorted
    rw [geometric_single_single, Word.multiply_nil sorted, Int.cast_one, one_mul, mul_one]

/-! ## Differences and rational factors -/

section Additive

variable (kind : ProductKind)

/-- Multiplication by an element from the left. -/
def multiplyLeft
    (left : Element Coefficient) :
    Element Coefficient →+ Element Coefficient :=
  AddMonoidHom.mk' (product metric kind left) (product_add metric kind left)

/-- Multiplication by an element from the right. -/
def multiplyRight
    (right : Element Coefficient) :
    Element Coefficient →+ Element Coefficient :=
  AddMonoidHom.mk' (product metric kind · right) (add_product metric kind · · right)

theorem product_sub
    (left first second : Element Coefficient) :
    product metric kind left (first - second) =
      product metric kind left first - product metric kind left second :=
  map_sub (multiplyLeft metric kind left) first second

theorem sub_product
    (first second right : Element Coefficient) :
    product metric kind (first - second) right =
      product metric kind first right - product metric kind second right :=
  map_sub (multiplyRight metric kind right) first second

variable [Module ℚ Coefficient] (factor : ℚ)

theorem product_smul
    (left right : Element Coefficient) :
    product metric kind left (factor • right) = factor • product metric kind left right :=
  map_rat_smul (multiplyLeft metric kind left) factor right

theorem smul_product
    (left right : Element Coefficient) :
    product metric kind (factor • left) right = factor • product metric kind left right :=
  map_rat_smul (multiplyRight metric kind right) factor left

end Additive

end Reference

end

end Versor

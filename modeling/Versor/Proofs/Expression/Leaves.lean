import Versor.Expression.Bindings
import Versor.Proofs.Fallible

/-!
# Leaves and their ranges of ids

The leaves that a traversal finds are those of the expression, so whatever
holds of the bindings at all leaves holds of what it finds.  The check of the
bindings puts their ranges of ids in order and compares neighbours; it passes
whenever any two ranges of different bindings are apart
(`checkBindings_eq_ok`).
-/

namespace Versor

namespace Expr

/-! ## Leaves -/

/-- A property of the bindings at all leaves. -/
def AllLeaves
    (holds : Binding → Prop) :
    Expr → Prop
  | .bind _ binding => holds binding
  | .constant _ _ => True
  | .unary _ _ operand => operand.AllLeaves holds
  | .binary _ _ left right => left.AllLeaves holds ∧ right.AllLeaves holds

theorem AllLeaves.mono
    {holds weaker : Binding → Prop}
    (weakens : ∀ binding, holds binding → weaker binding)
    {expression : Expr}
    (leaves : expression.AllLeaves holds) :
    expression.AllLeaves weaker := by
  induction expression with
  | bind node binding => exact weakens binding leaves
  | constant node value => trivial
  | unary node operation operand inductionHypothesis => exact inductionHypothesis leaves
  | binary node operation left right leftHypothesis rightHypothesis =>
      exact ⟨leftHypothesis leaves.1, rightHypothesis leaves.2⟩

namespace Traversal

/-- What every step of a traversal keeps is kept to its end. -/
theorem run_of_step
    {holds : Traversal → Prop}
    (keeps : ∀ traversal, holds traversal → holds traversal.step)
    {traversal : Traversal}
    (before : holds traversal) :
    holds traversal.run := by
  fun_induction run traversal with
  | case1 traversal => exact before
  | case2 traversal _ inductionHypothesis => exact inductionHypothesis (keeps _ before)

/-- A property of the leaves that a traversal may still find, and of those that it has found. -/
structure Finds
    (holds : Binding → Prop)
    (traversal : Traversal) :
    Prop where
  pending : ∀ expression ∈ traversal.pending, expression.AllLeaves holds
  found : ∀ leaf ∈ traversal.found, holds leaf.binding

theorem Finds.step
    {holds : Binding → Prop}
    {traversal : Traversal}
    (finds : traversal.Finds holds) :
    traversal.step.Finds holds := by
  rcases traversal with ⟨_ | ⟨next, rest⟩, entered, found⟩
  · exact finds
  · rcases List.forall_mem_cons.1 finds.pending with ⟨leaves, others⟩
    unfold Traversal.step
    dsimp only
    split
    · exact ⟨others, finds.found⟩
    · cases next with
      | bind node binding => exact ⟨others, List.forall_mem_cons.2 ⟨leaves, finds.found⟩⟩
      | constant node value => exact ⟨others, finds.found⟩
      | unary node operation operand =>
          exact ⟨List.forall_mem_cons.2 ⟨leaves, others⟩, finds.found⟩
      | binary node operation left right =>
          have both := List.forall_mem_cons.2 ⟨leaves.2, others⟩
          exact ⟨List.forall_mem_cons.2 ⟨leaves.1, both⟩, finds.found⟩

end Traversal

/-- What holds of the bindings at all leaves holds of the leaves that are listed. -/
theorem forall_mem_leaves
    {holds : Binding → Prop}
    {expression : Expr}
    (leaves : expression.AllLeaves holds) :
    ∀ binding ∈ expression.leaves, holds binding := by
  intro binding member
  have start : (Traversal.start expression).Finds holds :=
    ⟨List.forall_mem_singleton.2 leaves, by simp [Traversal.start]⟩
  have finds := Traversal.run_of_step (fun _ finds => Traversal.Finds.step finds) start
  rcases List.mem_map.1 member with ⟨leaf, inFound, rfl⟩
  exact finds.found leaf (List.mem_reverse.1 inFound)

/-! ## Distinct bindings -/

theorem sameBinding_iff
    {left right : Binding} :
    sameBinding left right = true ↔
      left.entity = right.entity ∧ left.first.value = right.first.value := by
  simp [sameBinding]

/-- The bindings that remain are among those given, and no two of them are the same. -/
theorem distinctBindings_spec
    (bindings : List Binding) :
    (∀ binding ∈ distinctBindings bindings, binding ∈ bindings) ∧
      (distinctBindings bindings).Pairwise fun left right => ¬ sameBinding left right = true := by
  let invariant (kept : List Binding) : Prop :=
    (∀ binding ∈ kept, binding ∈ bindings) ∧
      kept.Pairwise fun left right => ¬ sameBinding left right = true
  have kept : invariant (distinctBindings bindings).reverse := by
    simp only [distinctBindings, List.reverse_reverse]
    refine
      List.foldlRecOn (motive := invariant) bindings _ ⟨by simp, .nil⟩
        fun kept holds binding member => ?_
    rcases holds with ⟨among, distinct⟩
    split
    · exact ⟨among, distinct⟩
    · next isNew =>
      refine
        ⟨List.forall_mem_cons.2 ⟨member, among⟩, List.pairwise_cons.2 ⟨?_, distinct⟩⟩
      exact fun other inKept same => isNew (List.any_eq_true.2 ⟨other, inKept, same⟩)
  rcases kept with ⟨among, distinct⟩
  refine ⟨fun binding member => among binding (List.mem_reverse.2 member), ?_⟩
  refine (List.pairwise_reverse.1 distinct).imp fun {left right} different same => different ?_
  rw [sameBinding_iff] at same ⊢
  exact ⟨same.1.symm, same.2.symm⟩

/-! ## Ranges in order -/

theorem insertRange_perm
    (range : IdRange)
    (ranges : List IdRange) :
    List.Perm (insertRange range ranges) (range :: ranges) := by
  induction ranges with
  | nil => exact .refl _
  | cons other rest inductionHypothesis =>
      unfold insertRange
      split
      · exact .refl _
      · exact (inductionHypothesis.cons other).trans (.swap range other rest)

/-- The order of ranges: by start, then by stop. -/
def IdRange.key
    (range : IdRange) :
    SourceId ×ₗ SourceId :=
  toLex (range.start, range.stop)

theorem IdRange.precedes_iff
    {left right : IdRange} :
    left.precedes right = true ↔ left.key ≤ right.key := by
  simp [IdRange.precedes, IdRange.key, Prod.Lex.toLex_le_toLex]

theorem insertRange_sorted
    {range : IdRange}
    {ranges : List IdRange}
    (sorted : ranges.Pairwise fun left right => left.key ≤ right.key) :
    (insertRange range ranges).Pairwise fun left right => left.key ≤ right.key := by
  induction ranges with
  | nil => simp [insertRange]
  | cons other rest inductionHypothesis =>
      rcases List.pairwise_cons.1 sorted with ⟨above, restSorted⟩
      unfold insertRange
      split
      · next before =>
        have first : range.key ≤ other.key := IdRange.precedes_iff.1 before
        refine List.pairwise_cons.2 ⟨List.forall_mem_cons.2 ⟨first, ?_⟩, sorted⟩
        exact fun later member => first.trans (above later member)
      · next notBefore =>
        have behind : other.key ≤ range.key :=
          (not_le.1 (mt IdRange.precedes_iff.2 notBefore)).le
        refine List.pairwise_cons.2 ⟨fun later member => ?_, inductionHypothesis restSorted⟩
        rcases List.mem_cons.1 ((insertRange_perm range rest).subset member) with rfl | member
        · exact behind
        · exact above later member

/-- Ranges that do not share ids. -/
def IdRange.Apart
    (left right : IdRange) :
    Prop :=
  left.stop ≤ right.start ∨ right.stop ≤ left.start

/-- Ordered ranges of which the second one starts before the first one stops are not apart. -/
theorem IdRange.not_apart_of_overlap
    {left right : IdRange}
    (ordered : left.key ≤ right.key)
    (forwards : right.start ≤ right.stop)
    (overlap : right.start < left.stop) :
    ¬ left.Apart right := by
  simp only [IdRange.key, Prod.Lex.toLex_le_toLex] at ordered
  rintro (behind | before)
  · exact absurd overlap (not_lt.2 behind)
  · rcases ordered with earlier | ⟨same, shorter⟩
    · exact absurd (forwards.trans before) (not_le.2 earlier)
    · exact absurd (overlap.trans_le (shorter.trans (before.trans same.le))) (lt_irrefl _)

/-- Of ordered ranges that are apart none starts before its predecessor stops. -/
theorem findOverlap?_eq_none
    {ranges : List IdRange}
    (sorted : ranges.Pairwise fun left right => left.key ≤ right.key)
    (forwards : ∀ range ∈ ranges, range.start ≤ range.stop)
    (apart : ranges.Pairwise IdRange.Apart) :
    findOverlap? ranges = none := by
  fun_induction findOverlap? ranges with
  | case1 first second rest overlap =>
      have inOrder : first.key ≤ second.key :=
        (List.pairwise_cons.1 sorted).1 second (List.mem_cons_self ..)
      have isApart : first.Apart second :=
        (List.pairwise_cons.1 apart).1 second (List.mem_cons_self ..)
      have secondForwards := forwards second (.tail _ (.head _))
      exact absurd isApart (IdRange.not_apart_of_overlap inOrder secondForwards overlap)
  | case2 first second rest _ inductionHypothesis =>
      exact
        inductionHypothesis (List.pairwise_cons.1 sorted).2
          (List.forall_mem_cons.1 forwards).2 (List.pairwise_cons.1 apart).2
  | case3 => rfl

theorem sortRanges_perm
    (ranges : List IdRange) :
    List.Perm (ranges.foldr insertRange []) ranges := by
  induction ranges with
  | nil => exact .refl _
  | cons range rest inductionHypothesis =>
      exact (insertRange_perm range _).trans (inductionHypothesis.cons range)

theorem sortRanges_sorted
    (ranges : List IdRange) :
    (ranges.foldr insertRange []).Pairwise fun left right => left.key ≤ right.key := by
  induction ranges with
  | nil => exact .nil
  | cons range rest inductionHypothesis => exact insertRange_sorted inductionHypothesis

/-! ## The check of the bindings -/

/-- The ids of bindings start at natural numbers, and those of different bindings are apart. -/
structure Placed
    (widths : Nat → Except Error Nat)
    (bindings : List Binding) :
    Prop where
  located :
    ∀ binding ∈ bindings, ∃ base width,
      binding.first = .natural base ∧ widths binding.entity = .ok width
  apart :
    ∀ left ∈ bindings, ∀ right ∈ bindings, ∀ base width otherBase otherWidth,
      left.first = .natural base → widths left.entity = .ok width →
      right.first = .natural otherBase → widths right.entity = .ok otherWidth →
      sameBinding left right = true ∨ base + width ≤ otherBase ∨ otherBase + otherWidth ≤ base

/-- A range is that of a binding. -/
def IsRangeOf
    (widths : Nat → Except Error Nat)
    (binding : Binding)
    (range : IdRange) :
    Prop :=
  ∃ base width,
    binding.first = .natural base ∧ widths binding.entity = .ok width ∧
      range.start = (base : ℚ) ∧ range.stop = ((base + width : Nat) : ℚ)

theorem value_natural
    (base : Nat) :
    (FirstId.natural base).value = (base : ℚ) := by
  simp [FirstId.value, FirstId.id]

/-- The range of a binding, which shows the first id as the last like binding gave it. -/
def rangeOf
    (widths : Nat → Except Error Nat)
    (bindings : List Binding)
    (binding : Binding) :
    Except Error IdRange := do
  let width ← widths binding.entity
  let last := (bindings.reverse.find? (sameBinding binding)).getD binding
  .ok (idRange last.first width)

theorem exists_rangeOf_eq_ok
    {widths : Nat → Except Error Nat}
    {bindings : List Binding}
    (placed : Placed widths bindings)
    {binding : Binding}
    (member : binding ∈ bindings) :
    ∃ range, rangeOf widths bindings binding = .ok range ∧ IsRangeOf widths binding range := by
  rcases placed.located binding member with ⟨base, width, first, found⟩
  have sameFirst :
      ((bindings.reverse.find? (sameBinding binding)).getD binding).first =
        .natural base := by
    cases search : bindings.reverse.find? (sameBinding binding) with
    | none => exact first
    | some last =>
        have same := (sameBinding_iff.1 (List.find?_some search)).2
        have inBindings := List.mem_reverse.1 (List.mem_of_find?_eq_some search)
        rcases placed.located last inBindings with ⟨lastBase, _, lastFirst, _⟩
        rw [first, lastFirst, value_natural, value_natural, Nat.cast_inj] at same
        rw [Option.getD_some, lastFirst, same]
  refine ⟨idRange (.natural base) width, ?_, base, width, first, found, ?_, rfl⟩
  · unfold rangeOf
    simp only [found, sameFirst]
    rfl
  · exact value_natural base

theorem apart_of_placed
    {widths : Nat → Except Error Nat}
    {bindings : List Binding}
    (placed : Placed widths bindings)
    {left right : Binding}
    (leftMember : left ∈ bindings)
    (rightMember : right ∈ bindings)
    (different : ¬ sameBinding left right = true)
    {first second : IdRange}
    (leftRange : IsRangeOf widths left first)
    (rightRange : IsRangeOf widths right second) :
    first.Apart second := by
  rcases leftRange with ⟨base, width, leftFirst, leftWidth, start, stop⟩
  rcases rightRange with ⟨otherBase, otherWidth, rightFirst, rightWidth, otherStart, otherStop⟩
  rw [IdRange.Apart, start, stop, otherStart, otherStop, Nat.cast_le, Nat.cast_le]
  exact
    (placed.apart left leftMember right rightMember base width otherBase otherWidth leftFirst
      leftWidth rightFirst rightWidth).resolve_left different

/-- The ranges of the distinct bindings are put in order. -/
theorem idRanges_of_mapM
    {widths : Nat → Except Error Nat}
    {expression : Expr}
    {ranges : List IdRange}
    (collected :
      (distinctBindings expression.leaves).mapM (rangeOf widths expression.leaves) =
        .ok ranges) :
    expression.idRanges widths = .ok (ranges.foldr insertRange []) := by
  change
    ((distinctBindings expression.leaves).mapM (rangeOf widths expression.leaves) >>=
      fun ranges => Except.ok (ranges.foldr insertRange [])) = _
  rw [collected]
  rfl

/-- The check passes if the ranges of different bindings are apart. -/
theorem checkBindings_eq_ok
    {widths : Nat → Except Error Nat}
    {expression : Expr}
    (placed : Placed widths expression.leaves) :
    expression.checkBindings widths = .ok () := by
  rcases distinctBindings_spec expression.leaves with ⟨among, distinct⟩
  rcases
      exists_mapM_eq_ok fun binding member =>
        exists_rangeOf_eq_ok placed (among binding member) with
    ⟨ranges, collected, areRanges⟩
  have ordered : expression.idRanges widths = pure (ranges.foldr insertRange []) :=
    idRanges_of_mapM collected
  have apart : ranges.Pairwise IdRange.Apart :=
    pairwise_of_forall₂ distinct areRanges fun left inLeft right inRight _ _ different =>
      apart_of_placed placed (among left inLeft) (among right inRight) different
  have forwards : ∀ range ∈ ranges, range.start ≤ range.stop := by
    intro range member
    rcases exists_of_mem_forall₂ areRanges member with ⟨binding, _, base, width, _, _, start, stop⟩
    rw [start, stop, Nat.cast_le]
    exact Nat.le_add_right _ _
  have permuted := sortRanges_perm ranges
  have noOverlap : findOverlap? (ranges.foldr insertRange []) = none := by
    refine findOverlap?_eq_none (sortRanges_sorted ranges) ?_ ?_
    · exact fun range member => forwards range (permuted.subset member)
    · exact (permuted.pairwise_iff fun {_ _} => Or.symm).2 apart
  rw [checkBindings, ordered, pure_bind, noOverlap]

end Expr
end Versor

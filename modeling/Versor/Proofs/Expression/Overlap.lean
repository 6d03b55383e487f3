import Versor.Proofs.Expression.Traversal

/-!
# Overlapping bindings

The check of the bindings orders the ranges of ids of the distinct bindings and
compares neighbours only.  That finds every two ranges which meet, however far
apart they stand in the order: the neighbour behind the first one starts no
later than the second one.  Two ranges that meet have an id in common, unless
one of them has no ids and lies strictly inside the other one; so the check is
exact for entities that have slots, and may refuse an entity that has none
(`Expr.checkBindings_overlap`).
-/

namespace Versor

/-! ## Ids of bindings -/

/-- The ids count up from a natural number if the first one is no double. -/
theorem FirstId.exists_id_eq
    {first : FirstId}
    (whole : first.isWhole = true) :
    ∃ base : Nat, ∀ slot, first.id slot = ((base + slot : Nat) : ℚ) := by
  cases first with
  | natural number => exact ⟨number, fun _ => rfl⟩
  | truth value => exact ⟨if value then 1 else 0, fun _ => rfl⟩
  | real number => cases whole

namespace Binding

variable (widths : Nat → Except Error Nat)

/-- An id is that of a slot of the bound entity. -/
def HasId
    (binding : Binding)
    (id : SourceId) :
    Prop :=
  ∃ width, widths binding.entity = .ok width ∧ ∃ slot < width, binding.first.id slot = id

/-- Two bindings have an id in common. -/
def SharesId
    (left right : Binding) :
    Prop :=
  ∃ id, left.HasId widths id ∧ right.HasId widths id

/-- A binding of an entity without slots at an id strictly inside the range of another one. -/
def IsEmptyInside
    (empty other : Binding) :
    Prop :=
  widths empty.entity = .ok 0 ∧
    ∃ width, widths other.entity = .ok width ∧
      other.first.value < empty.first.value ∧ empty.first.value < other.first.id width

/-- The ranges of two bindings meet: an id is shared, or an empty range lies inside the other. -/
def Meets
    (left right : Binding) :
    Prop :=
  left.SharesId widths right ∨ left.IsEmptyInside widths right ∨ right.IsEmptyInside widths left

theorem Meets.symm
    {widths : Nat → Except Error Nat}
    {left right : Binding}
    (meets : left.Meets widths right) :
    right.Meets widths left := by
  rcases meets with ⟨id, hasId, otherHasId⟩ | inside | inside
  · exact .inl ⟨id, otherHasId, hasId⟩
  · exact .inr (.inr inside)
  · exact .inr (.inl inside)

/-- A binding whose first id is no double and whose entity has a number of slots. -/
structure IsCounted
    (binding : Binding) :
    Prop where
  whole : binding.first.isWhole = true
  counted : ∃ width, widths binding.entity = .ok width

end Binding

namespace Expr

/-! ## Reachable leaves -/

/-- A binding is at a leaf that can be reached from an expression. -/
inductive HasLeaf
    (binding : Binding) :
    Expr → Prop
  | bind (node : Nat) : HasLeaf binding (.bind node binding)
  | unary
    (node : Nat)
    (operation : UnaryOperation)
    {operand : Expr}
    (below : HasLeaf binding operand) :
    HasLeaf binding (.unary node operation operand)
  | left
    (node : Nat)
    (operation : BinaryOperation)
    {left : Expr}
    (right : Expr)
    (below : HasLeaf binding left) :
    HasLeaf binding (.binary node operation left right)
  | right
    (node : Nat)
    (operation : BinaryOperation)
    (left : Expr)
    {right : Expr}
    (below : HasLeaf binding right) :
    HasLeaf binding (.binary node operation left right)

theorem allLeaves_hasLeaf
    (expression : Expr) :
    expression.AllLeaves fun binding => expression.HasLeaf binding := by
  induction expression with
  | bind node binding => exact .bind node
  | constant node value => trivial
  | unary node operation operand inductionHypothesis =>
      exact AllLeaves.mono (fun _ below => .unary node operation below) inductionHypothesis
  | binary node operation left right leftHypothesis rightHypothesis =>
      exact
        ⟨AllLeaves.mono (fun _ below => .left node operation right below) leftHypothesis,
          AllLeaves.mono (fun _ below => .right node operation left below) rightHypothesis⟩

theorem AllLeaves.of_hasLeaf
    {holds : Binding → Prop}
    {expression : Expr}
    (leaves : expression.AllLeaves holds)
    {binding : Binding}
    (hasLeaf : expression.HasLeaf binding) :
    holds binding := by
  induction hasLeaf with
  | bind node => exact leaves
  | unary node operation _ inductionHypothesis => exact inductionHypothesis leaves
  | left node operation right _ inductionHypothesis => exact inductionHypothesis leaves.1
  | right node operation left _ inductionHypothesis => exact inductionHypothesis leaves.2

/-- The leaves that a traversal of a member of a graph lists are those that can be reached. -/
theorem mem_leaves_iff
    {graph : Set Expr}
    (isGraph : IsGraph graph)
    {expression : Expr}
    (member : expression ∈ graph)
    {binding : Binding} :
    binding ∈ expression.leaves ↔ expression.HasLeaf binding :=
  ⟨forall_mem_leaves (allLeaves_hasLeaf expression) binding,
    fun hasLeaf => (allLeaves_mem_leaves isGraph member).of_hasLeaf hasLeaf⟩

/-! ## Neighbours in order -/

/-- Of ordered ranges of which none starts before its predecessor stops any two are apart. -/
theorem pairwise_apart_of_findOverlap?_eq_none
    {ranges : List IdRange}
    (sorted : ranges.Pairwise fun left right => left.key ≤ right.key)
    (none : findOverlap? ranges = none) :
    ranges.Pairwise IdRange.Apart := by
  fun_induction findOverlap? ranges with
  | case1 => cases none
  | case2 first second rest notBefore inductionHypothesis =>
      rcases List.pairwise_cons.1 sorted with ⟨_, restSorted⟩
      refine List.pairwise_cons.2 ⟨fun later member => .inl ?_, inductionHypothesis restSorted none⟩
      -- The neighbour is between the first range and every later one.
      refine (not_lt.1 notBefore).trans ?_
      rcases List.mem_cons.1 member with rfl | inRest
      · exact le_rfl
      · exact Prod.Lex.monotone_fst _ _ ((List.pairwise_cons.1 restSorted).1 later inRest)
  | case3 ranges few =>
      rcases ranges with _ | ⟨first, _ | ⟨second, rest⟩⟩
      · exact .nil
      · exact List.pairwise_singleton _ _
      · exact (few first second rest rfl).elim

/-- The neighbours that are found have whatever any two ranges in order have. -/
theorem of_findOverlap?_eq_some
    {related : IdRange → IdRange → Prop}
    {ranges : List IdRange}
    (pairwise : ranges.Pairwise related)
    {left right : IdRange}
    (found : findOverlap? ranges = some (left, right)) :
    related left right ∧ right.start < left.stop := by
  fun_induction findOverlap? ranges with
  | case1 first second rest overlap =>
      cases found
      exact ⟨(List.pairwise_cons.1 pairwise).1 _ (.head _), overlap⟩
  | case2 first second rest _ inductionHypothesis =>
      exact inductionHypothesis (List.pairwise_cons.1 pairwise).2 found
  | case3 => cases found

/-! ## Ranges that meet -/

variable {widths : Nat → Except Error Nat}

/-- A range is that of a binding, and shows the first id as one of the same bindings gave it. -/
structure IsSpanOf
    (widths : Nat → Except Error Nat)
    (bindings : List Binding)
    (binding : Binding)
    (range : IdRange) :
    Prop where
  member : binding ∈ bindings
  shown :
    ∃ shown ∈ bindings, sameBinding binding shown = true ∧
      ∃ width, widths binding.entity = .ok width ∧ range = idRange shown.first width

theorem sameBinding_refl
    (binding : Binding) :
    sameBinding binding binding = true :=
  sameBinding_iff.2 ⟨rfl, rfl⟩

theorem sameBinding_symm
    {left right : Binding}
    (same : sameBinding left right = true) :
    sameBinding right left = true := by
  rw [sameBinding_iff] at same ⊢
  exact ⟨same.1.symm, same.2.symm⟩

theorem sameBinding_trans
    {left middle right : Binding}
    (first : sameBinding left middle = true)
    (second : sameBinding middle right = true) :
    sameBinding left right = true := by
  rw [sameBinding_iff] at first second ⊢
  exact ⟨first.1.trans second.1, first.2.trans second.2⟩

/-- The range of a binding is that of all bindings that are the same. -/
theorem IsSpanOf.congr
    {bindings : List Binding}
    {binding other : Binding}
    {range : IdRange}
    (isSpan : IsSpanOf widths bindings binding range)
    (member : other ∈ bindings)
    (same : sameBinding other binding = true) :
    IsSpanOf widths bindings other range := by
  rcases isSpan.shown with ⟨shown, shownMember, sameShown, width, found, isRange⟩
  exact
    ⟨member, shown, shownMember, sameBinding_trans same sameShown, width,
      (sameBinding_iff.1 same).1 ▸ found, isRange⟩

theorem exists_rangeOf_isSpanOf
    {bindings : List Binding}
    {binding : Binding}
    (member : binding ∈ bindings)
    (isCounted : binding.IsCounted widths) :
    ∃ range, rangeOf widths bindings binding = .ok range ∧
      IsSpanOf widths bindings binding range := by
  rcases isCounted.counted with ⟨width, found⟩
  let shown := (bindings.reverse.find? (sameBinding binding)).getD binding
  have isSame : shown ∈ bindings ∧ sameBinding binding shown = true := by
    cases search : bindings.reverse.find? (sameBinding binding) with
    | none => simpa [shown, search] using ⟨member, sameBinding_refl binding⟩
    | some last =>
        simp only [shown, search, Option.getD_some]
        exact ⟨List.mem_reverse.1 (List.mem_of_find?_eq_some search), List.find?_some search⟩
  refine ⟨idRange shown.first width, ?_, member, shown, isSame.1, isSame.2, width, found, rfl⟩
  unfold rangeOf
  rw [found]
  rfl

section Counted

variable
  {bindings : List Binding}
  (counted : ∀ binding ∈ bindings, binding.IsCounted widths)

include counted

/-- Where the range of a binding starts and stops. -/
theorem IsSpanOf.start_stop
    {binding : Binding}
    {range : IdRange}
    (isSpan : IsSpanOf widths bindings binding range) :
    ∃ base width : Nat, (∀ slot, binding.first.id slot = ((base + slot : Nat) : ℚ)) ∧
      widths binding.entity = .ok width ∧ range.start = (base : ℚ) ∧
      range.stop = ((base + width : Nat) : ℚ) := by
  rcases isSpan.shown with ⟨shown, member, same, width, found, rfl⟩
  rcases FirstId.exists_id_eq (counted binding isSpan.member).whole with ⟨base, ids⟩
  rcases FirstId.exists_id_eq (counted shown member).whole with ⟨shownBase, shownIds⟩
  have sameBase : shownBase = base := by
    have values := (sameBinding_iff.1 same).2
    rw [FirstId.value, FirstId.value, ids, shownIds, Nat.cast_inj] at values
    simpa using values.symm
  subst sameBase
  exact ⟨shownBase, width, ids, found, by simp [idRange, FirstId.value, shownIds], shownIds width⟩

/-- Ranges are not apart exactly if their bindings meet. -/
theorem not_apart_iff_meets
    {left right : Binding}
    {first second : IdRange}
    (leftSpan : IsSpanOf widths bindings left first)
    (rightSpan : IsSpanOf widths bindings right second) :
    ¬ first.Apart second ↔ left.Meets widths right := by
  rcases leftSpan.start_stop counted with ⟨base, width, ids, found, start, stop⟩
  rcases rightSpan.start_stop counted with
    ⟨otherBase, otherWidth, otherIds, otherFound, otherStart, otherStop⟩
  have shares :
      left.SharesId widths right ↔
        ∃ slot < width, ∃ otherSlot < otherWidth, base + slot = otherBase + otherSlot := by
    simp only [Binding.SharesId, Binding.HasId, found, otherFound, Except.ok.injEq,
      exists_eq_left', ids, otherIds]
    constructor
    · rintro ⟨_, ⟨slot, below, rfl⟩, otherSlot, otherBelow, same⟩
      exact ⟨slot, below, otherSlot, otherBelow, (Nat.cast_inj.1 same).symm⟩
    · rintro ⟨slot, below, otherSlot, otherBelow, same⟩
      exact ⟨_, ⟨slot, below, rfl⟩, otherSlot, otherBelow, by rw [same]⟩
  rw [Binding.Meets, shares, IdRange.Apart, start, stop, otherStart, otherStop]
  simp only [Binding.IsEmptyInside, found, otherFound, Except.ok.injEq, exists_eq_left',
    FirstId.value, ids, otherIds, Nat.cast_le, Nat.cast_lt, Nat.add_zero]
  constructor
  · intro meet
    by_cases empty : width = 0
    · exact .inr (.inl (by omega))
    · by_cases otherEmpty : otherWidth = 0
      · exact .inr (.inr (by omega))
      · -- The larger one of the first ids belongs to both.
        exact
          .inl
            ⟨max base otherBase - base, by omega, max base otherBase - otherBase, by omega,
              by omega⟩
  · rintro (⟨slot, below, otherSlot, otherBelow, same⟩ | inside | inside) <;> omega

end Counted

/-! ## The check of the bindings -/

/-- Ranges of two bindings that are not the same. -/
def AreOfDifferent
    (widths : Nat → Except Error Nat)
    (bindings : List Binding)
    (first second : IdRange) :
    Prop :=
  ∃ left right, ¬ sameBinding left right = true ∧
    IsSpanOf widths bindings left first ∧ IsSpanOf widths bindings right second

theorem AreOfDifferent.symm
    {bindings : List Binding}
    {first second : IdRange}
    (different : AreOfDifferent widths bindings first second) :
    AreOfDifferent widths bindings second first := by
  rcases different with ⟨left, right, notSame, leftSpan, rightSpan⟩
  exact ⟨right, left, fun same => notSame (sameBinding_symm same), rightSpan, leftSpan⟩

/-- An error that shows the ranges of two bindings. -/
def ShowsOverlap
    (widths : Nat → Except Error Nat)
    (error : Error)
    (left right : Binding) :
    Prop :=
  ∃ width otherWidth, widths left.entity = .ok width ∧ widths right.entity = .ok otherWidth ∧
    error =
      .bindingOverlap left.first.given (left.first.following width) right.first.given
        (right.first.following otherWidth)

section Check

variable
  {expression : Expr}
  (counted : ∀ binding ∈ expression.leaves, binding.IsCounted widths)

include counted

/-- The ranges are those of the distinct bindings, in order. -/
theorem exists_idRanges :
    ∃ ranges, expression.idRanges widths = .ok (ranges.foldr insertRange []) ∧
      List.Forall₂ (IsSpanOf widths expression.leaves) (distinctBindings expression.leaves)
        ranges := by
  rcases distinctBindings_spec expression.leaves with ⟨among, _⟩
  rcases
      exists_mapM_eq_ok fun binding member =>
        exists_rangeOf_isSpanOf (among binding member) (counted binding (among binding member)) with
    ⟨ranges, collected, areSpans⟩
  exact ⟨ranges, idRanges_of_mapM collected, areSpans⟩

variable
  {ranges : List IdRange}
  (areSpans :
    List.Forall₂ (IsSpanOf widths expression.leaves) (distinctBindings expression.leaves) ranges)

include areSpans

/-- Where no neighbours overlap no two different bindings meet. -/
theorem not_meets_of_findOverlap?_eq_none
    (none : findOverlap? (ranges.foldr insertRange []) = none)
    {left right : Binding}
    (leftMember : left ∈ expression.leaves)
    (rightMember : right ∈ expression.leaves)
    (different : ¬ sameBinding left right = true) :
    ¬ left.Meets widths right := by
  have apart : ranges.Pairwise IdRange.Apart :=
    ((sortRanges_perm ranges).pairwise_iff fun {_ _} => Or.symm).1
      (pairwise_apart_of_findOverlap?_eq_none (sortRanges_sorted ranges) none)
  have separate :
      (distinctBindings expression.leaves).Pairwise fun first second =>
        ¬ first.Meets widths second :=
    pairwise_of_forall₂ apart areSpans.flip fun _ _ _ _ _ _ isApart firstSpan secondSpan meets =>
      (not_apart_iff_meets counted firstSpan secondSpan).2 meets isApart
  rcases exists_mem_distinctBindings leftMember with ⟨first, isFirst, sameFirst⟩
  rcases exists_mem_distinctBindings rightMember with ⟨second, isSecond, sameSecond⟩
  rcases exists_of_mem_forall₂ areSpans.flip isFirst with ⟨firstRange, _, firstSpan⟩
  rcases exists_of_mem_forall₂ areSpans.flip isSecond with ⟨secondRange, _, secondSpan⟩
  have distinct : first ≠ second := by
    rintro rfl
    exact different (sameBinding_trans sameFirst (sameBinding_symm sameSecond))
  have symmetric : Std.Symm fun first second : Binding => ¬ first.Meets widths second :=
    ⟨fun _ _ notMeets meets => notMeets meets.symm⟩
  rw [← not_apart_iff_meets counted (firstSpan.congr leftMember sameFirst)
    (secondSpan.congr rightMember sameSecond), not_apart_iff_meets counted firstSpan secondSpan]
  exact separate.forall isFirst isSecond distinct

/-- Neighbours that overlap are shown as ranges of different bindings that meet. -/
theorem exists_shown_of_findOverlap?_eq_some
    {first second : IdRange}
    (found : findOverlap? (ranges.foldr insertRange []) = some (first, second)) :
    ∃ left ∈ expression.leaves, ∃ right ∈ expression.leaves,
      ¬ sameBinding left right = true ∧ left.Meets widths right ∧
        ShowsOverlap widths
          (.bindingOverlap first.givenStart first.givenStop second.givenStart second.givenStop)
          left right := by
  rcases distinctBindings_spec expression.leaves with ⟨_, distinct⟩
  have different : ranges.Pairwise (AreOfDifferent widths expression.leaves) :=
    pairwise_of_forall₂ distinct areSpans fun left _ right _ _ _ notSame leftSpan rightSpan =>
      ⟨left, right, notSame, leftSpan, rightSpan⟩
  have inOrder :=
    ((sortRanges_perm ranges).pairwise_iff fun {_ _} => AreOfDifferent.symm).2 different
  rcases of_findOverlap?_eq_some (inOrder.and (sortRanges_sorted ranges)) found with
    ⟨⟨⟨left, right, notSame, leftSpan, rightSpan⟩, ordered⟩, overlap⟩
  rcases leftSpan.shown with ⟨shown, isShown, sameShown, width, widthFound, rfl⟩
  rcases rightSpan.shown with
    ⟨otherShown, otherIsShown, sameOther, otherWidth, otherFound, rfl⟩
  refine ⟨shown, isShown, otherShown, otherIsShown, ?_, ?_, width, otherWidth, ?_, ?_, rfl⟩
  · exact fun same =>
      notSame (sameBinding_trans sameShown (sameBinding_trans same (sameBinding_symm sameOther)))
  · rcases rightSpan.start_stop counted with ⟨base, count, _, _, start, stop⟩
    refine
      (not_apart_iff_meets counted (leftSpan.congr isShown (sameBinding_symm sameShown))
        (rightSpan.congr otherIsShown (sameBinding_symm sameOther))).1
        (IdRange.not_apart_of_overlap ordered ?_ overlap)
    rw [start, stop, Nat.cast_le]
    exact Nat.le_add_right base count
  · exact (sameBinding_iff.1 sameShown).1 ▸ widthFound
  · exact (sameBinding_iff.1 sameOther).1 ▸ otherFound

omit counted areSpans in
theorem checkBindings_of_findOverlap?_eq_none
    (ordered : expression.idRanges widths = .ok ranges)
    (notFound : findOverlap? ranges = none) :
    expression.checkBindings widths = .ok () := by
  change expression.idRanges widths = pure ranges at ordered
  rw [checkBindings, ordered, pure_bind, notFound]

omit counted areSpans in
theorem checkBindings_of_findOverlap?_eq_some
    {first second : IdRange}
    (ordered : expression.idRanges widths = .ok ranges)
    (found : findOverlap? ranges = some (first, second)) :
    expression.checkBindings widths =
      .error
        (.bindingOverlap first.givenStart first.givenStop second.givenStart
          second.givenStop) := by
  change expression.idRanges widths = pure ranges at ordered
  rw [checkBindings, ordered, pure_bind, found]

end Check

/-- Two different bindings at reachable leaves are related. -/
def HasDifferentLeaves
    (expression : Expr)
    (related : Binding → Binding → Prop) :
    Prop :=
  ∃ left right, expression.HasLeaf left ∧ expression.HasLeaf right ∧
    ¬ sameBinding left right = true ∧ related left right

theorem HasDifferentLeaves.mono
    {expression : Expr}
    {related weaker : Binding → Binding → Prop}
    (different : expression.HasDifferentLeaves related)
    (weakens :
      ∀ left right, expression.HasLeaf left → expression.HasLeaf right → related left right →
        weaker left right) :
    expression.HasDifferentLeaves weaker := by
  rcases different with ⟨left, right, isLeft, isRight, notSame, areRelated⟩
  exact ⟨left, right, isLeft, isRight, notSame, weakens left right isLeft isRight areRelated⟩

/--
The check of the bindings refuses an expression exactly if two different
bindings at its reachable leaves meet, and then shows two that do.  If all bound
entities have slots, these are exactly the expressions in which different
bindings share an id; a binding without slots may be refused although it shares
none.
-/
theorem checkBindings_overlap
    {graph : Set Expr}
    (isGraph : IsGraph graph)
    {expression : Expr}
    (member : expression ∈ graph)
    (counted : ∀ binding, expression.HasLeaf binding → binding.IsCounted widths) :
    ((∃ error, expression.checkBindings widths = .error error) ↔
      expression.HasDifferentLeaves (Binding.Meets widths)) ∧
      (∀ error, expression.checkBindings widths = .error error →
        expression.HasDifferentLeaves fun left right =>
          left.Meets widths right ∧ ShowsOverlap widths error left right) ∧
      ((∀ binding, expression.HasLeaf binding → widths binding.entity ≠ .ok 0) →
        ((∃ error, expression.checkBindings widths = .error error) ↔
          expression.HasDifferentLeaves (Binding.SharesId widths))) := by
  have leaves {binding : Binding} :
      binding ∈ expression.leaves ↔ expression.HasLeaf binding :=
    mem_leaves_iff isGraph member
  have countedLeaves : ∀ binding ∈ expression.leaves, binding.IsCounted widths :=
    fun binding isLeaf => counted binding (leaves.1 isLeaf)
  rcases exists_idRanges countedLeaves with ⟨ranges, ordered, areSpans⟩
  have shows (error : Error) (refused : expression.checkBindings widths = .error error) :
      expression.HasDifferentLeaves fun left right =>
        left.Meets widths right ∧ ShowsOverlap widths error left right := by
    rcases search : findOverlap? (ranges.foldr insertRange []) with _ | ⟨first, second⟩
    · rw [checkBindings_of_findOverlap?_eq_none ordered search] at refused
      cases refused
    · rw [checkBindings_of_findOverlap?_eq_some ordered search] at refused
      cases refused
      rcases exists_shown_of_findOverlap?_eq_some countedLeaves areSpans search with
        ⟨left, isLeft, right, isRight, different, meets, shown⟩
      exact ⟨left, right, leaves.1 isLeft, leaves.1 isRight, different, meets, shown⟩
  have refusesIff :
      (∃ error, expression.checkBindings widths = .error error) ↔
        expression.HasDifferentLeaves (Binding.Meets widths) := by
    constructor
    · rintro ⟨error, refused⟩
      exact (shows error refused).mono fun _ _ _ _ => And.left
    · rintro ⟨left, right, isLeft, isRight, different, meets⟩
      rcases search : findOverlap? (ranges.foldr insertRange []) with _ | ⟨first, second⟩
      · exact
          absurd meets
            (not_meets_of_findOverlap?_eq_none countedLeaves areSpans search (leaves.2 isLeft)
              (leaves.2 isRight) different)
      · exact ⟨_, checkBindings_of_findOverlap?_eq_some ordered search⟩
  refine ⟨refusesIff, shows, fun full => refusesIff.trans ⟨fun meet => ?_, fun share => ?_⟩⟩
  · exact meet.mono fun left right isLeft isRight meets =>
      meets.resolve_right fun inside =>
        inside.elim (fun empty => full left isLeft empty.1) fun empty => full right isRight empty.1
  · exact share.mono fun _ _ _ _ => .inl

/-! ## Two planes, and a plane with an entity that has no slots -/

/-- The sum of two bindings. -/
def sumOfBindings
    (left right : Binding) :
    Expr :=
  .binary 2 .sum (.bind 0 left) (.bind 1 right)

theorem isGraph_sumOfBindings
    (left right : Binding) :
    IsGraph {sumOfBindings left right, .bind 0 left, .bind 1 right} where
  operands := by
    rintro _ (rfl | rfl | rfl) <;> simp [sumOfBindings, operands]
  distinct := by
    rintro _ (rfl | rfl | rfl) _ (rfl | rfl | rfl) <;> simp [sumOfBindings, node]

theorem hasLeaf_sumOfBindings
    {left right binding : Binding}
    (hasLeaf : (sumOfBindings left right).HasLeaf binding) :
    binding = left ∨ binding = right := by
  cases hasLeaf with
  | left _ _ _ below =>
      cases below
      exact .inl rfl
  | right _ _ _ below =>
      cases below
      exact .inr rfl

/-- A plane that is bound at an id. -/
def planeAt
    (entity base : Nat) :
    Binding :=
  ⟨entity, .plane, .natural base⟩

/-- The size of planes. -/
def planeWidths
    (_entity : Nat) :
    Except Error Nat :=
  .ok 4

/-- Planes at the ids 0 and 2 share two ids, and are refused. -/
theorem checkBindings_overlap_planes :
    ((∀ binding, (sumOfBindings (planeAt 0 0) (planeAt 1 2)).HasLeaf binding →
        binding.IsCounted planeWidths) ∧
      ∀ binding, (sumOfBindings (planeAt 0 0) (planeAt 1 2)).HasLeaf binding →
        planeWidths binding.entity ≠ .ok 0) ∧
      (sumOfBindings (planeAt 0 0) (planeAt 1 2)).HasDifferentLeaves
        (Binding.SharesId planeWidths) ∧
      ∃ error, (sumOfBindings (planeAt 0 0) (planeAt 1 2)).checkBindings planeWidths =
        .error error := by
  have counted :
      ∀ binding, (sumOfBindings (planeAt 0 0) (planeAt 1 2)).HasLeaf binding →
        binding.IsCounted planeWidths := by
    intro binding hasLeaf
    rcases hasLeaf_sumOfBindings hasLeaf with rfl | rfl <;> exact ⟨rfl, 4, rfl⟩
  have full :
      ∀ binding, (sumOfBindings (planeAt 0 0) (planeAt 1 2)).HasLeaf binding →
        planeWidths binding.entity ≠ .ok 0 := by
    simp [planeWidths]
  have shares :
      (sumOfBindings (planeAt 0 0) (planeAt 1 2)).HasDifferentLeaves
        (Binding.SharesId planeWidths) :=
    ⟨_, _, .left _ _ _ (.bind 0), .right _ _ _ (.bind 1), by simp [sameBinding_iff, planeAt],
      2, ⟨4, rfl, 2, by decide, rfl⟩, ⟨4, rfl, 0, by decide, rfl⟩⟩
  exact
    ⟨⟨counted, full⟩, shares,
      ((checkBindings_overlap (isGraph_sumOfBindings (planeAt 0 0) (planeAt 1 2)) (.inl rfl)
        counted).2.2 full).2 shares⟩

/-- An entity without slots that is bound at an id. -/
def emptyAt
    (entity base : Nat) :
    Binding :=
  ⟨entity, .generic .projective [] [], .natural base⟩

/-- The sizes of a plane and of an entity without slots. -/
def planeAndEmptyWidths
    (entity : Nat) :
    Except Error Nat :=
  .ok (if entity = 0 then 4 else 0)

/--
A plane at the ids 0 to 3 and an entity without slots at 1 share no id, as the
latter has none; the check refuses their sum all the same.
-/
theorem checkBindings_refuses_empty :
    IsGraph {sumOfBindings (planeAt 0 0) (emptyAt 1 1), .bind 0 (planeAt 0 0),
      .bind 1 (emptyAt 1 1)} ∧
      (∀ binding, (sumOfBindings (planeAt 0 0) (emptyAt 1 1)).HasLeaf binding →
        binding.IsCounted planeAndEmptyWidths) ∧
      (sumOfBindings (planeAt 0 0) (emptyAt 1 1)).checkBindings planeAndEmptyWidths =
        .error (.bindingOverlap (.integer 0) (.integer 4) (.integer 1) (.integer 1)) ∧
      ¬ (sumOfBindings (planeAt 0 0) (emptyAt 1 1)).HasDifferentLeaves
          (Binding.SharesId planeAndEmptyWidths) := by
  refine ⟨isGraph_sumOfBindings _ _, fun binding hasLeaf => ?_, ?_, ?_⟩
  · rcases hasLeaf_sumOfBindings hasLeaf with rfl | rfl <;> exact ⟨rfl, _, rfl⟩
  · cbv
  · have hasNone (id : SourceId) : ¬ (emptyAt 1 1).HasId planeAndEmptyWidths id := by
      rintro ⟨width, found, slot, below, _⟩
      cases found
      exact Nat.not_lt_zero slot below
    rintro ⟨left, right, isLeft, isRight, different, id, leftHasId, rightHasId⟩
    -- Both would be the plane, which is the same as itself.
    rcases hasLeaf_sumOfBindings isLeft with rfl | rfl
    · rcases hasLeaf_sumOfBindings isRight with rfl | rfl
      · exact different (sameBinding_refl _)
      · exact hasNone id rightHasId
    · exact hasNone id leftHasId

end Expr
end Versor

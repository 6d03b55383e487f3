import Versor.Proofs.Expression.Renumbering
import Versor.Proofs.Expression.Soundness
import Versor.Proofs.Expression.Traversal
import Versor.Proofs.Program.Meaning
import Versor.Proofs.Program.Tree

/-!
# Expressions over entities that are bound by hand

Who binds entities by hand chooses the first ids.  As long as different
bindings have disjoint ranges, evaluating an expression over them gives its
meaning at the current storage of the entities (`Expr.compute_spec`), and the
choice makes no difference: expressions that match over the same entities
are evaluated to the same entries on the same blades
(`Renumbers.sameEntries`).
-/

noncomputable section

namespace Versor

open Build

variable {Number : Type} [CommRing Number] [Module ℚ Number] [Arithmetic Number]

/-- The element that a binding stands for, its entity being found by its identity. -/
def Binding.meaning
    (find : Nat → Option (Entity Number))
    (index : List Nat)
    (binding : Binding) :
    Reference.Element Number :=
  match find binding.entity with
  | some entity => entity.valueAt index
  | none => 0

/--
The place of a binding at a natural id, of an entity that is found and has
storage of the width of its layout.
-/
structure Placement.IsFoundBy
    (find : Nat → Option (Entity Number))
    (binding : Binding)
    (placement : Placement Number) :
    Prop where
  found : find binding.entity = some placement.entity
  layout : binding.layout = placement.entity.layout
  first : binding.first = .natural placement.base
  signature : placement.signature = ⟨placement.entity.layout, placement.entity.layout.width⟩
  width : placement.entity.storage.shape.getLast? = some placement.entity.layout.width

namespace Expr

/-- Well-formed expressions over entities that are found, different bindings having disjoint ids. -/
structure IsHandBound
    (find : Nat → Option (Entity Number))
    (expression : Expr) :
    Prop where
  wellFormed : expression.WellFormed
  placed :
    ∀ binding ∈ expression.leaves,
      ∃ placement : Placement Number, placement.IsFoundBy find binding
  disjoint :
    ∀ left ∈ expression.leaves, ∀ right ∈ expression.leaves,
      ∀ first second : Placement Number,
      first.IsFoundBy find left → second.IsFoundBy find right →
      sameBinding left right = true ∨ first.Disjoint second

/-- The batch shapes of the entities that an expression is bound to. -/
def batchShapes
    (find : Nat → Option (Entity Number))
    (expression : Expr) :
    List (List Nat) :=
  expression.leaves.filterMap fun binding => (find binding.entity).map Entity.batchShape

end Expr

section Bound

omit [CommRing Number] [Module ℚ Number] [Arithmetic Number]

variable {find : Nat → Option (Entity Number)} {expression : Expr}

theorem Placement.IsFoundBy.id_eq
    {binding : Binding}
    {placement : Placement Number}
    (isFound : placement.IsFoundBy find binding)
    (slot : Nat) :
    binding.first.id slot = ((placement.base + slot : Nat) : ℚ) := by
  rw [isFound.first]
  rfl

theorem Placement.IsFoundBy.width_eq
    {binding : Binding}
    {placement : Placement Number}
    (isFound : placement.IsFoundBy find binding) :
    placement.signature.width = binding.layout.width := by
  rw [isFound.signature, isFound.layout]

theorem Placement.IsFoundBy.signed
    {binding : Binding}
    {placement : Placement Number}
    (isFound : placement.IsFoundBy find binding) :
    placement.entity.signature = .ok placement.signature := by
  simp [isFound.signature, Entity.signature, Entity.width, isFound.width, bind, Except.bind]

/-- The same bindings are placed at the same place. -/
theorem Placement.IsFoundBy.eq_of_sameBinding
    {binding other : Binding}
    {placement otherPlacement : Placement Number}
    (isFound : placement.IsFoundBy find binding)
    (otherFound : otherPlacement.IsFoundBy find other)
    (same : Expr.sameBinding binding other = true) :
    placement = otherPlacement := by
  rcases Expr.sameBinding_iff.1 same with ⟨sameEntity, sameFirst⟩
  have entities : placement.entity = otherPlacement.entity := by
    have found := otherFound.found
    rw [← sameEntity, isFound.found] at found
    exact Option.some_inj.1 found
  have bases : placement.base = otherPlacement.base := by
    rw [isFound.first, otherFound.first, Expr.value_natural, Expr.value_natural] at sameFirst
    exact Nat.cast_injective sameFirst
  have signatures : placement.signature = otherPlacement.signature := by
    rw [isFound.signature, otherFound.signature, entities]
  rcases placement with ⟨entity, signature, base⟩
  rcases otherPlacement with ⟨otherEntity, otherSignature, otherBase⟩
  simp_all

namespace Expr.IsHandBound

variable (handBound : expression.IsHandBound find)

include handBound

/-- The distinct bindings are placed side by side. -/
theorem exists_placed :
    ∃ placed : List (Placement Number),
      List.Forall₂ (fun binding placement => placement.IsFoundBy find binding)
        (distinctBindings expression.leaves) placed := by
  rcases distinctBindings_spec expression.leaves with ⟨among, _⟩
  exact exists_forall₂ fun binding member => handBound.placed binding (among binding member)

variable
  {placed : List (Placement Number)}
  (arePlaced :
    List.Forall₂ (fun binding placement => placement.IsFoundBy find binding)
      (distinctBindings expression.leaves) placed)

include arePlaced

theorem placed_disjoint :
    placed.Pairwise Placement.Disjoint := by
  rcases distinctBindings_spec expression.leaves with ⟨among, distinct⟩
  refine pairwise_of_forall₂ distinct arePlaced ?_
  intro left inLeft right inRight first second different isFirst isSecond
  exact
    (handBound.disjoint left (among left inLeft) right (among right inRight) first second
      isFirst isSecond).resolve_left different

/-- Every binding at a leaf is placed. -/
theorem exists_mem_placed
    {binding : Binding}
    (member : binding ∈ expression.leaves) :
    ∃ placement ∈ placed, placement.IsFoundBy find binding := by
  rcases exists_mem_distinctBindings member with ⟨kept, isKept, same⟩
  rcases List.mem_iff_getElem.1 isKept with ⟨place, inside, rfl⟩
  have otherInside : place < placed.length := arePlaced.length_eq ▸ inside
  have isFound := arePlaced.get inside otherInside
  rcases handBound.placed binding member with ⟨placement, found⟩
  have samePlacement := found.eq_of_sameBinding isFound same
  exact ⟨placed[place], List.getElem_mem otherInside, samePlacement ▸ found⟩

/-- The shapes of the placed entities are those of the entities at the leaves. -/
theorem mem_batchShapes
    (shape : List Nat) :
    shape ∈ expression.batchShapes find ↔
      shape ∈ placed.map fun placement => placement.entity.batchShape := by
  simp only [batchShapes, List.mem_filterMap, List.mem_map, Option.map_eq_some_iff]
  constructor
  · rintro ⟨binding, member, entity, found, rfl⟩
    rcases handBound.exists_mem_placed arePlaced member with ⟨placement, isPlaced, isFound⟩
    rw [isFound.found] at found
    cases found
    exact ⟨placement, isPlaced, rfl⟩
  · rintro ⟨placement, isPlaced, rfl⟩
    rcases exists_of_mem_forall₂ arePlaced isPlaced with ⟨binding, member, isFound⟩
    exact
      ⟨binding, (distinctBindings_spec expression.leaves).1 binding member, placement.entity,
        isFound.found, rfl⟩

omit arePlaced in
/-- Bindings that are hand-bound pass the check of the ids. -/
theorem checkBindings_eq_ok
    {widths : Nat → Except Error Nat}
    (agree : ∀ identity entity, find identity = some entity → widths identity = entity.width) :
    expression.checkBindings widths = .ok () := by
  have widthOf (binding : Binding) (placement : Placement Number)
      (isFound : placement.IsFoundBy find binding) :
      widths binding.entity = .ok binding.layout.width := by
    rw [agree _ _ isFound.found, Entity.width, isFound.width, isFound.layout]
  refine Expr.checkBindings_eq_ok ⟨fun binding member => ?_, fun left inLeft right inRight => ?_⟩
  · rcases handBound.placed binding member with ⟨placement, isFound⟩
    exact ⟨placement.base, _, isFound.first, widthOf binding placement isFound⟩
  · intro base width otherBase otherWidth first hasWidth second hasOtherWidth
    rcases handBound.placed left inLeft with ⟨leftPlacement, leftFound⟩
    rcases handBound.placed right inRight with ⟨rightPlacement, rightFound⟩
    rw [leftFound.first] at first
    rw [rightFound.first] at second
    rw [widthOf left leftPlacement leftFound, ← leftFound.width_eq] at hasWidth
    rw [widthOf right rightPlacement rightFound, ← rightFound.width_eq] at hasOtherWidth
    cases first
    cases second
    cases hasWidth
    cases hasOtherWidth
    exact handBound.disjoint left inLeft right inRight _ _ leftFound rightFound

end Expr.IsHandBound

end Bound

namespace Expr

omit [CommRing Number] [Module ℚ Number] in
/-- Evaluating an expression is running its program on the placed entities. -/
theorem outcome_compute
    {find : Nat → Option (Entity Number)}
    {expression : Expr}
    {placed : List (Placement Number)}
    (arePlaced :
      List.Forall₂ (fun binding placement => placement.IsFoundBy find binding)
        (distinctBindings expression.leaves) placed)
    (standard : ElementType)
    (widths : Nat → Except Error Nat)
    (validate : Bool)
    (workspace : Workspace) :
    outcome (expression.compute standard find widths validate) workspace =
      outcome
        (expression.reduce widths validate >>= fun value =>
          (Program.ofReduced expression value (placed.map Placement.input) :
            Build (Program Number)) >>= fun program =>
              Build.ofExcept (program.run standard (placed.map Placement.entity)) >>=
                fun storage => pure (program.layout, storage))
        workspace := by
  let pairs := placed.map fun placement => (placement.entity, FirstId.natural placement.base)
  have firsts : pairs.map Prod.fst = placed.map Placement.entity := by
    simp [pairs, Function.comp_def]
  unfold compute
  rw [outcome_bind, @outcome_mapM _ _ _ _ pairs]
  · dsimp only
    rw [outcome_bind, @outcome_mapM _ _ _ _ (placed.map Placement.input), firsts]
    refine
      List.forall₂_map_left_iff.2
        (List.forall₂_map_right_iff.2 (List.forall₂_same.2 fun placement member => ?_))
    rcases exists_of_mem_forall₂ arePlaced member with ⟨binding, _, isFound⟩
    rw [outcome_bind, outcome_ofExcept, isFound.signed]
    rfl
  · refine List.forall₂_map_right_iff.2 (arePlaced.imp fun binding placement isFound => ?_)
    rw [isFound.found, isFound.first]
    rfl

/-- The leaves of an expression belong to its algebra. -/
theorem WellFormed.leaves_agree
    {expression : Expr}
    (wellFormed : expression.WellFormed) :
    expression.AllLeaves fun binding => binding.layout.algebra.Agrees expression.algebra := by
  induction expression with
  | bind node binding => exact rfl
  | constant node value => trivial
  | unary node operation operand inductionHypothesis => exact inductionHypothesis wellFormed
  | binary node operation left right leftHypothesis rightHypothesis =>
      rcases wellFormed with ⟨leftFormed, rightFormed, agree⟩
      exact
        ⟨leftHypothesis leftFormed,
          (rightHypothesis rightFormed).mono fun binding agrees => agrees.trans agree.symm⟩

variable [ExactArithmetic Number]

/-- The program of an expression over entities bound by hand computes the meaning of it. -/
theorem IsHandBound.exists_run
    {find : Nat → Option (Entity Number)}
    {expression : Expr}
    (handBound : expression.IsHandBound find)
    (listed : expression.AllLeaves fun binding => binding ∈ expression.leaves)
    {placed : List (Placement Number)}
    (arePlaced :
      List.Forall₂ (fun binding placement => placement.IsFoundBy find binding)
        (distinctBindings expression.leaves) placed)
    {batch : List Nat}
    (broadcast : Tensor.commonShape (expression.batchShapes find) = .ok batch)
    {value : Multivector}
    (evaluated : expression.evaluate = .ok value)
    (identity : Nat)
    (spelling : ElementSpelling)
    (standard : ElementType) :
    let program : Program Number :=
      .exactly identity value spelling (placed.map Placement.input)
    ∃ storage, program.run standard (placed.map Placement.entity) = .ok storage ∧
      expression.IsHeldBy (Binding.meaning find) batch program.layout storage := by
  have agree := forall_mem_leaves handBound.wellFormed.leaves_agree
  have areOf : ∀ placement ∈ placed, placement.IsOf expression.algebra := by
    intro placement isPlaced
    rcases exists_of_mem_forall₂ arePlaced isPlaced with ⟨binding, member, isFound⟩
    have agrees := agree binding ((distinctBindings_spec expression.leaves).1 binding member)
    rw [isFound.layout] at agrees
    exact ⟨agrees, isFound.signature, isFound.width⟩
  have binds :
      expression.AllLeaves fun binding =>
        ∃ placement ∈ placed, placement.Binds (Binding.meaning find) binding := by
    refine listed.mono fun binding member => ?_
    rcases handBound.exists_mem_placed arePlaced member with ⟨placement, isPlaced, isFound⟩
    refine ⟨placement, isPlaced, isFound.layout, isFound.first, fun index => ?_⟩
    rw [Binding.meaning, isFound.found]
  have common := Tensor.commonShape_congr (handBound.mem_batchShapes arePlaced) broadcast
  exact
    exists_run_isHeldBy areOf (handBound.placed_disjoint arePlaced) common handBound.wellFormed
      binds evaluated identity spelling standard

/--
Evaluating an expression over entities bound by hand gives its meaning at
their current storage, unless the stack does not hold the operations inside
one another and the evaluation stops there.
-/
theorem compute_spec
    {graph : Set Expr}
    {workspace : Workspace}
    (sound : workspace.Sound graph)
    {expression : Expr}
    (member : expression ∈ graph)
    {find : Nat → Option (Entity Number)}
    (handBound : expression.IsHandBound find)
    {widths : Nat → Except Error Nat}
    (agree : ∀ identity entity, find identity = some entity → widths identity = entity.width)
    {batch : List Nat}
    (broadcast : Tensor.commonShape (expression.batchShapes find) = .ok batch)
    (standard : ElementType)
    (validate : Bool) :
    (∃ layout storage behind,
        outcome (expression.compute standard find widths validate) workspace =
            (.ok (layout, storage), behind) ∧
          behind.limits = workspace.limits ∧
          expression.IsHeldBy (Binding.meaning find) batch layout storage) ∨
      ¬workspace.limits.stack.Holds (expression.heightAbove workspace.keeps) ∧
        ∃ behind,
          outcome (expression.compute standard find widths validate) workspace =
            (.error .nestedTooDeeply, behind) := by
  have listed := allLeaves_mem_leaves sound.isGraph member
  rcases handBound.exists_placed with ⟨placed, arePlaced⟩
  have checked := handBound.checkBindings_eq_ok agree
  rw [outcome_compute arePlaced, outcome_bind, reduce_of_checked checked]
  rcases outcome_reduceUnchecked_cases sound member handBound.wellFormed with
    ⟨value, behind, reduced, evaluated⟩ | ⟨higher, behind, tooDeep⟩
  · rcases
        handBound.exists_run listed arePlaced broadcast evaluated behind.free
          (expression.spelling behind.results) standard with
      ⟨storage, ran, isHeld⟩
    have more := ((reduceUnchecked_spec member sound).of_outcome reduced).more
    refine .inl ⟨_, storage, behind.advanced, ?_, more.limits, isHeld⟩
    rw [reduced]
    dsimp only
    rw [outcome_bind, Program.outcome_ofReduced, Program.ofMultivector_eq_ok]
    dsimp only
    rw [outcome_bind, outcome_ofExcept, ran]
    rfl
  · exact .inr ⟨higher, behind, by rw [tooDeep]⟩

end Expr

/-! ## Expressions that match -/

/-- Storage on the same blades, with the same shape and entries. -/
structure SameEntries
    (layout otherLayout : Layout)
    (storage otherStorage : Tensor Number) :
    Prop where
  elements : otherLayout.elements = layout.elements
  shape : otherStorage.shape = storage.shape
  entries :
    ∀ index, Tensor.IsIndex storage.shape index → otherStorage.get index = storage.get index

omit [Arithmetic Number] in
/-- Generic entities that stand for one element have the same slots. -/
theorem Layout.slots_eq_of_valueAt_eq
    {layout other : Layout}
    (generic : layout.kind = .generic)
    (otherGeneric : other.kind = .generic)
    (elements : other.elements = layout.elements)
    (distinct : layout.elements.Nodup)
    {slots otherSlots : Nat → Number}
    (same : other.valueAt otherSlots = layout.valueAt slots)
    {place : Nat}
    (inside : place < layout.elements.length) :
    otherSlots place = slots place := by
  cases layout with
  | generic algebra blades spelling =>
      cases other with
      | generic otherAlgebra otherBlades otherSpelling =>
          cases elements
          have distinctBlades : blades.Nodup := distinct
          have insideBlades : place < blades.length := inside
          have onBlade := congrArg (fun element => element (Blade.vectors blades[place])) same
          rw [Layout.valueAt_generic_getElem _ distinctBlades insideBlades,
            Layout.valueAt_generic_getElem _ distinctBlades insideBlades] at onBlade
          exact onBlade
      | _ => cases otherGeneric
  | _ => cases generic

namespace Expr

variable {find otherFind : Nat → Option (Entity Number)} {expression other : Expr}

/-- Expressions of one meaning on the same blades are held by the same entries. -/
theorem IsHeldBy.sameEntries
    {batch : List Nat}
    {layout otherLayout : Layout}
    {storage otherStorage : Tensor Number}
    (held : expression.IsHeldBy (Binding.meaning find) batch layout storage)
    (otherHeld : other.IsHeldBy (Binding.meaning otherFind) batch otherLayout otherStorage)
    (elements : otherLayout.elements = layout.elements)
    (meaning :
      ∀ index,
        other.interpret other.algebra.metric (Binding.meaning otherFind index) =
          expression.interpret expression.algebra.metric (Binding.meaning find index)) :
    SameEntries layout otherLayout storage otherStorage := by
  refine ⟨elements, by rw [held.shape, otherHeld.shape, elements], fun index isIndex => ?_⟩
  rw [held.shape] at isIndex
  rcases List.eq_nil_or_concat' index with rfl | ⟨place, slot, rfl⟩
  · exact absurd isIndex.length_eq (by simp)
  · rcases Tensor.isIndex_append_iff.1 isIndex with ⟨inBatch, below⟩
    have same :
        otherLayout.valueAt (fun slot => otherStorage.get (place ++ [slot])) =
          layout.valueAt fun slot => storage.get (place ++ [slot]) := by
      rw [held.valueAt place inBatch, otherHeld.valueAt place inBatch, meaning place]
    exact
      Layout.slots_eq_of_valueAt_eq held.kind otherHeld.kind elements held.ascending.nodup same
        below

variable {related : Binding → Binding → Prop}

/--
Bindings of expressions that match: they bind the same entities, and two of
them are the same where the related ones are.
-/
structure Renumbers
    (find otherFind : Nat → Option (Entity Number))
    (related : Binding → Binding → Prop)
    (expression other : Expr) :
    Prop where
  matching : Matches related expression other
  entities :
    ∀ binding ∈ expression.leaves, ∀ first ∈ other.leaves, related binding first →
      find binding.entity = otherFind first.entity
  same :
    ∀ binding ∈ expression.leaves, ∀ first ∈ other.leaves, related binding first →
      ∀ next ∈ expression.leaves, ∀ second ∈ other.leaves, related next second →
        (sameBinding binding next = true ↔ sameBinding first second = true)

namespace Renumbers

omit [CommRing Number] [Module ℚ Number] [Arithmetic Number]

theorem symm
    (renumbers : Renumbers find otherFind related expression other) :
    Renumbers otherFind find (fun first binding => related binding first) other expression where
  matching := renumbers.matching.symm
  entities first inOther binding member isRelated :=
    (renumbers.entities binding member first inOther isRelated).symm
  same first inOther binding member isRelated second inNext next nextMember isNext :=
    (renumbers.same binding member first inOther isRelated next nextMember second inNext
      isNext).symm

variable
  (renumbers : Renumbers find otherFind related expression other)
  (handBound : expression.IsHandBound find)
  (otherBound : other.IsHandBound otherFind)

include renumbers handBound otherBound

/-- Ids that are the same stay the same. -/
theorem id_eq
    {binding first next second : Binding}
    (member : binding ∈ expression.leaves)
    (inOther : first ∈ other.leaves)
    (isRelated : related binding first)
    (nextMember : next ∈ expression.leaves)
    (nextInOther : second ∈ other.leaves)
    (nextRelated : related next second)
    {slot otherSlot : Nat}
    (below : slot < binding.layout.width)
    (otherBelow : otherSlot < next.layout.width)
    (same : binding.first.id slot = next.first.id otherSlot) :
    first.first.id slot = second.first.id otherSlot := by
  rcases handBound.placed binding member with ⟨placement, isFound⟩
  rcases handBound.placed next nextMember with ⟨nextPlacement, nextFound⟩
  rcases otherBound.placed first inOther with ⟨otherPlacement, otherFound⟩
  rcases otherBound.placed second nextInOther with ⟨secondPlacement, secondFound⟩
  rw [isFound.id_eq, nextFound.id_eq] at same
  rw [otherFound.id_eq, secondFound.id_eq]
  rcases handBound.disjoint binding member next nextMember _ _ isFound nextFound with
    isSame | disjoint
  · have samePlacement := isFound.eq_of_sameBinding nextFound isSame
    have sameOther :=
      otherFound.eq_of_sameBinding secondFound
        ((renumbers.same binding member first inOther isRelated next nextMember second nextInOther
          nextRelated).1 isSame)
    rw [samePlacement, Nat.cast_inj, Nat.add_left_cancel_iff] at same
    rw [sameOther, same]
  · rw [← isFound.width_eq] at below
    rw [← nextFound.width_eq] at otherBelow
    exact absurd same (Program.id_ne_of_disjoint disjoint below otherBelow)

theorem layout_eq
    {binding first : Binding}
    (member : binding ∈ expression.leaves)
    (inOther : first ∈ other.leaves)
    (isRelated : related binding first) :
    first.layout = binding.layout := by
  rcases handBound.placed binding member with ⟨placement, isFound⟩
  rcases otherBound.placed first inOther with ⟨otherPlacement, otherFound⟩
  have sameEntity := renumbers.entities binding member first inOther isRelated
  rw [isFound.found, otherFound.found, Option.some_inj] at sameEntity
  rw [isFound.layout, otherFound.layout, sameEntity]

/-- Bindings of the same entities at disjoint ranges can exchange their ids. -/
theorem exchanges :
    Exchanges fun binding first =>
      binding ∈ expression.leaves ∧ first ∈ other.leaves ∧ related binding first where
  layout := by
    rintro binding first ⟨member, inOther, isRelated⟩
    exact renumbers.layout_eq handBound otherBound member inOther isRelated
  ids := by
    rintro binding first ⟨member, inOther, isRelated⟩ next second
      ⟨nextMember, nextInOther, nextRelated⟩ slot below otherSlot otherBelow
    constructor
    · exact
        renumbers.id_eq handBound otherBound member inOther isRelated nextMember nextInOther
          nextRelated below otherBelow
    · rw [← renumbers.layout_eq handBound otherBound member inOther isRelated] at below
      rw [← renumbers.layout_eq handBound otherBound nextMember nextInOther nextRelated]
        at otherBelow
      exact
        renumbers.symm.id_eq otherBound handBound inOther member isRelated nextInOther nextMember
          nextRelated below otherBelow

end Renumbers

section Same

variable
  (renumbers : Renumbers find otherFind related expression other)
  (listed : expression.AllLeaves fun binding => binding ∈ expression.leaves)
  (otherListed : other.AllLeaves fun binding => binding ∈ other.leaves)

include renumbers listed otherListed

omit [CommRing Number] [Module ℚ Number] [Arithmetic Number] in
theorem Renumbers.matching_leaves :
    Matches
      (fun binding first =>
        binding ∈ expression.leaves ∧ first ∈ other.leaves ∧ related binding first)
      expression other :=
  renumbers.matching.weaken listed otherListed fun _ _ member inOther isRelated =>
    ⟨member, inOther, isRelated⟩

omit [CommRing Number] [Module ℚ Number] [Arithmetic Number] in
theorem Renumbers.batchShapes_subset
    {shape : List Nat}
    (member : shape ∈ expression.batchShapes find) :
    shape ∈ other.batchShapes otherFind := by
  rcases List.mem_filterMap.1 member with ⟨binding, inLeaves, found⟩
  have leads :
      expression.AllLeaves fun binding =>
        ∃ first ∈ other.leaves, find binding.entity = otherFind first.entity :=
    (renumbers.matching_leaves listed otherListed).symm.allLeaves
      (fun first binding isRelated _ =>
        ⟨first, isRelated.2.1,
          renumbers.entities binding isRelated.1 first isRelated.2.1 isRelated.2.2⟩)
      otherListed
  rcases forall_mem_leaves leads binding inLeaves with ⟨first, inOther, sameEntity⟩
  rw [sameEntity] at found
  exact List.mem_filterMap.2 ⟨first, inOther, found⟩

omit [CommRing Number] [Module ℚ Number] [Arithmetic Number] in
/-- Expressions over the same entities have one batch. -/
theorem Renumbers.commonShape
    {batch : List Nat}
    (broadcast : Tensor.commonShape (expression.batchShapes find) = .ok batch) :
    Tensor.commonShape (other.batchShapes otherFind) = .ok batch := by
  refine Tensor.commonShape_congr (fun shape => ⟨fun member => ?_, fun member => ?_⟩) broadcast
  · exact renumbers.batchShapes_subset listed otherListed member
  · exact renumbers.symm.batchShapes_subset otherListed listed member

variable
  (handBound : expression.IsHandBound find)
  (otherBound : other.IsHandBound otherFind)

include handBound otherBound

omit [CommRing Number] [Module ℚ Number] [Arithmetic Number] in
/-- Whatever the ids are, an expression evaluates to a multivector on the same blades. -/
theorem Renumbers.blades_eq
    {value otherValue : Multivector}
    (evaluated : expression.evaluate = .ok value)
    (otherEvaluated : other.evaluate = .ok otherValue) :
    otherValue.blades = value.blades :=
  (renumbers.matching_leaves listed otherListed).blades_eq
    (renumbers.exchanges handBound otherBound) handBound.wellFormed evaluated otherEvaluated

/-- Whatever the ids are, what is evaluated has the same entries on the same blades. -/
theorem Renumbers.sameEntries
    {batch : List Nat}
    {layout otherLayout : Layout}
    {storage otherStorage : Tensor Number}
    (held : expression.IsHeldBy (Binding.meaning find) batch layout storage)
    (otherHeld : other.IsHeldBy (Binding.meaning otherFind) batch otherLayout otherStorage) :
    SameEntries layout otherLayout storage otherStorage := by
  have matching := renumbers.matching_leaves listed otherListed
  have exchanges := renumbers.exchanges handBound otherBound
  rcases held.elements with ⟨value, evaluated, elements⟩
  rcases otherHeld.elements with ⟨otherValue, otherEvaluated, otherElements⟩
  have sameBlades :=
    renumbers.blades_eq listed otherListed handBound otherBound evaluated otherEvaluated
  refine held.sameEntries otherHeld ?_ fun index => ?_
  · rw [elements, otherElements, sameBlades]
  · rw [matching.algebra_eq exchanges.layout]
    refine (matching.interpret_eq (fun binding first isRelated => ?_) _).symm
    rw [Binding.meaning, Binding.meaning,
      renumbers.entities binding isRelated.1 first isRelated.2.1 isRelated.2.2]

end Same

end Expr

end Versor

end

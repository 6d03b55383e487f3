import Versor.Proofs.Engine.Computing
import Versor.Proofs.Program.Compilation
import Versor.Proofs.Program.HandBound

/-!
# The numbering of bindings makes no difference

An expression over entities that are bound by hand is evaluated to an entity
that holds its meaning (`Compute.outcome_evaluate`).  Binding the entities at
other ids changes nothing about it, and neither does leaving the ids to an
engine, by calling a function that builds the same tree over the entities as
its arguments (`Compute.evaluate_numbering`).
-/

noncomputable section

namespace Versor

open Compute

variable {Number : Type}

/-! ## Evaluation -/

variable [CommRing Number] [Module ℚ Number] [Arithmetic Number] [ExactArithmetic Number]

/-- An entity with storage that holds an expression can be made where there is room. -/
theorem Compute.exists_wrap
    {leaf : List Nat → Binding → Reference.Element Number}
    {batch : List Nat}
    {expression : Expr}
    {layout : Layout}
    {storage : Tensor Number}
    (isHeld : expression.IsHeldBy leaf batch layout storage)
    (context : Context Number)
    (room : Tensor.isRepresentable context.limits.capacity storage.shape = true) :
    ∃ result : Entity Number, (outcome (wrap layout storage) context).1 = .ok result ∧
      expression.IsHeldBy leaf batch result.layout result.storage := by
  rcases Entity.exists_checkStorage isHeld.width room context.config.elementType with
    ⟨checked, passed, shape, get⟩
  refine
    ⟨⟨context.workspace.free, layout, checked⟩, ?_, isHeld.congr shape get⟩
  rw [outcome_wrap]
  simp [room, passed]

/-- Evaluating an expression over entities bound by hand gives an entity that holds it. -/
theorem Compute.outcome_evaluate
    {graph : Set Expr}
    {context : Context Number}
    (sound : context.workspace.Sound graph)
    {expression : Expr}
    (member : expression ∈ graph)
    {find : Nat → Option (Entity Number)}
    (handBound : expression.IsHandBound find)
    {widths : Nat → Except Error Nat}
    (agree : ∀ identity entity, find identity = some entity → widths identity = entity.width)
    {batch : List Nat}
    (broadcast : Tensor.commonShape (expression.batchShapes find) = .ok batch)
    (room :
      ∀ value, expression.evaluate = .ok value →
        Tensor.isRepresentable context.limits.capacity (batch ++ [value.blades.length]) = true)
    (validate : Bool) :
    UnlessTooDeep context.limits.stack (expression.heightAbove context.workspace.keeps)
      (fun result : Entity Number =>
        expression.IsHeldBy (Binding.meaning find) batch result.layout result.storage)
      (outcome (evaluate find widths validate expression) context).1 := by
  unfold evaluate
  rw [outcome_bind, outcome_get]
  dsimp only
  rw [outcome_bind, outcome_build]
  rcases
      Expr.compute_spec sound member handBound agree broadcast context.config.elementType
        validate with
    ⟨layout, storage, behind, computed, sameLimits, isHeld⟩ | ⟨higher, behind, refused⟩
  · rcases isHeld.elements with ⟨value, evaluated, elements⟩
    have representable :
        Tensor.isRepresentable behind.limits.capacity storage.shape = true := by
      rw [isHeld.shape, elements, sameLimits]
      exact room value evaluated
    rw [computed]
    rcases
        exists_wrap isHeld { context with workspace := behind } representable with
      ⟨result, wrapped, isResult⟩
    dsimp only
    rw [wrapped]
    exact .ok isResult
  · rw [refused]
    exact .tooDeep higher

/-! ## Other ids -/

section Ids

omit [CommRing Number] [Module ℚ Number] [Arithmetic Number] [ExactArithmetic Number]

/-- A binding of the same entity at the id that is assigned to it. -/
def Binding.assign
    (bases : Nat → Nat → Nat)
    (binding : Binding) :
    Binding :=
  match binding.first with
  | .natural base => ⟨binding.entity, binding.layout, .natural (bases binding.entity base)⟩
  | _ => binding

/-- An expression of the same tree with new ids, so that distinct bindings stay distinct. -/
structure Expr.IsRenumbered
    (bases : Nat → Nat → Nat)
    (expression other : Expr) :
    Prop where
  matching : Expr.Matches (fun binding first => first = binding.assign bases) expression other
  distinct :
    ∀ left ∈ expression.leaves, ∀ right ∈ expression.leaves,
      Expr.sameBinding (left.assign bases) (right.assign bases) = true →
        Expr.sameBinding left right = true

theorem Expr.IsRenumbered.renumbers
    {find : Nat → Option (Entity Number)}
    {bases : Nat → Nat → Nat}
    {expression other : Expr}
    (renumbered : expression.IsRenumbered bases other)
    (handBound : expression.IsHandBound find) :
    Expr.Renumbers find find (fun binding first => first = binding.assign bases) expression
      other where
  matching := renumbered.matching
  entities := by
    rintro binding member _ _ rfl
    rcases handBound.placed binding member with ⟨placement, isFound⟩
    simp only [Binding.assign, isFound.first]
  same := by
    rintro binding member _ _ rfl next nextMember _ _ rfl
    refine ⟨fun same => ?_, renumbered.distinct binding member next nextMember⟩
    rcases handBound.placed binding member with ⟨placement, isFound⟩
    rcases handBound.placed next nextMember with ⟨nextPlacement, nextFound⟩
    have samePlacement := isFound.eq_of_sameBinding nextFound same
    have sameEntity := (Expr.sameBinding_iff.1 same).1
    rw [Expr.sameBinding_iff]
    simp only [Binding.assign, isFound.first, nextFound.first, samePlacement, sameEntity,
      and_self]

end Ids

/-! ## Functions of the same tree -/

section Functions

omit [CommRing Number] [Module ℚ Number] [Arithmetic Number] [ExactArithmetic Number]

/-- The argument as which a binding is passed. -/
def Binding.IsPassedAs
    (bindings arguments : List Binding)
    (binding argument : Binding) :
    Prop :=
  ∃ kept, Expr.sameBinding binding kept = true ∧ (kept, argument) ∈ bindings.zip arguments

/--
A call of a function with the entities of the distinct bindings of an
expression, in any order, that builds the tree of the expression over its
arguments.
-/
structure Expr.IsRebuilt
    (find : Nat → Option (Entity Number))
    (function : Function)
    (bindings : List Binding)
    (entities : List (Entity Number))
    (workspace between : Workspace)
    (arguments : Function.Arguments)
    (expression other : Expr) :
    Prop where
  permuted : bindings.Perm (Expr.distinctBindings expression.leaves)
  found :
    List.Forall₂ (fun (binding : Binding) entity => find binding.entity = some entity) bindings
      entities
  returned :
    Build.outcome (function.tree entities) workspace = (.ok (arguments, other), between)
  matching :
    Expr.Matches (Binding.IsPassedAs bindings arguments.bindings) expression other

namespace Expr.IsRebuilt

variable
  {find : Nat → Option (Entity Number)}
  {function : Function}
  {bindings : List Binding}
  {entities : List (Entity Number)}
  {workspace between : Workspace}
  {arguments : Function.Arguments}
  {expression other : Expr}
  (rebuilt :
    expression.IsRebuilt find function bindings entities workspace between arguments other)

include rebuilt

theorem mem_leaves
    {binding : Binding}
    (member : binding ∈ bindings) :
    binding ∈ expression.leaves :=
  (distinctBindings_spec expression.leaves).1 binding (rebuilt.permuted.mem_iff.1 member)

/-- No two of the bindings that are passed are the same. -/
theorem eq_of_sameBinding
    {place next : Nat}
    (inside : place < bindings.length)
    (nextInside : next < bindings.length)
    (same : sameBinding bindings[place] bindings[next] = true) :
    place = next := by
  have swap {left right : Binding} (same : sameBinding left right = true) :
      sameBinding right left = true :=
    sameBinding_iff.2 ((sameBinding_iff.1 same).imp Eq.symm Eq.symm)
  have distinct : bindings.Pairwise fun left right => ¬ sameBinding left right = true :=
    (rebuilt.permuted.pairwise_iff fun different same => different (swap same)).2
      (distinctBindings_spec expression.leaves).2
  by_contra different
  rcases Nat.lt_or_gt_of_ne different with before | after
  · exact List.pairwise_iff_getElem.1 distinct place next inside nextInside before same
  · exact List.pairwise_iff_getElem.1 distinct next place nextInside inside after (swap same)

/-- The batch shapes of the entities at the leaves are those of the entities that are passed. -/
theorem mem_batchShapes
    (shape : List Nat) :
    shape ∈ expression.batchShapes find ↔ shape ∈ entities.map Entity.batchShape := by
  simp only [batchShapes, List.mem_filterMap, List.mem_map, Option.map_eq_some_iff]
  constructor
  · rintro ⟨binding, member, entity, found, rfl⟩
    rcases exists_mem_distinctBindings member with ⟨kept, isKept, same⟩
    have isPassed : kept ∈ bindings := rebuilt.permuted.mem_iff.2 isKept
    rcases List.mem_iff_getElem.1 isPassed with ⟨place, inside, rfl⟩
    have otherInside : place < entities.length := rebuilt.found.length_eq ▸ inside
    have isFound := rebuilt.found.get inside otherInside
    rw [(sameBinding_iff.1 same).1] at found
    exact
      ⟨entities[place], List.getElem_mem otherInside,
        congrArg Entity.batchShape (Option.some_inj.1 (isFound.symm.trans found))⟩
  · rintro ⟨entity, inEntities, rfl⟩
    rcases exists_of_mem_forall₂ rebuilt.found inEntities with ⟨binding, member, found⟩
    exact ⟨binding, rebuilt.mem_leaves member, entity, found, rfl⟩

variable
  (identities : ∀ identity entity, find identity = some entity → entity.identity = identity)

include identities

theorem find_identity
    {entity : Entity Number}
    (member : entity ∈ entities) :
    find entity.identity = some entity := by
  rcases exists_of_mem_forall₂ rebuilt.found member with ⟨binding, _, found⟩
  rw [identities _ _ found, found]

theorem identified :
    Identified entities := by
  intro entity member other otherMember same
  have found := rebuilt.find_identity identities member
  rw [same, rebuilt.find_identity identities otherMember] at found
  exact (Option.some_inj.1 found).symm

variable (handBound : expression.IsHandBound find)

include handBound

omit identities in
/-- The entities that are passed have all their slots. -/
theorem isFull
    {entity : Entity Number}
    (member : entity ∈ entities) :
    entity.IsFull expression.algebra := by
  rcases exists_of_mem_forall₂ rebuilt.found member with ⟨binding, isPassed, found⟩
  have inLeaves := rebuilt.mem_leaves isPassed
  rcases handBound.placed binding inLeaves with ⟨placement, isFound⟩
  have agrees := forall_mem_leaves handBound.wellFormed.leaves_agree binding inLeaves
  have same := Option.some_inj.1 (isFound.found.symm.trans found)
  rw [isFound.layout, same] at agrees
  exact ⟨agrees, same ▸ isFound.width⟩

/-- An argument is found at its place. -/
theorem isFoundBy
    {placement : Placement Number}
    (member : placement ∈ argumentPlaces entities) :
    placement.IsFoundBy find placement.binding := by
  rcases mem_argumentPlaces member with ⟨inEntities, signature⟩
  exact
    { found := rebuilt.find_identity identities inEntities
      layout := rfl
      first := rfl
      signature := signature
      width := (rebuilt.isFull handBound inEntities).width }

variable
  (passed : arguments.bindings = (argumentPlaces entities).map Placement.binding)

include passed

omit identities handBound in
/-- A binding is passed at the place of a binding that is the same. -/
theorem exists_place
    {binding argument : Binding}
    (isPassed : binding.IsPassedAs bindings arguments.bindings argument) :
    ∃ (place : Nat) (inside : place < bindings.length)
      (otherInside : place < (argumentPlaces entities).length),
      sameBinding binding bindings[place] = true ∧
        argument = (argumentPlaces entities)[place].binding ∧
        find binding.entity = some (argumentPlaces entities)[place].entity := by
  rcases isPassed with ⟨kept, same, member⟩
  rw [passed] at member
  rcases List.mem_iff_getElem.1 member with ⟨place, below, pair⟩
  rw [List.getElem_zip, Prod.mk.injEq, List.getElem_map] at pair
  rcases pair with ⟨rfl, rfl⟩
  rw [List.length_zip, List.length_map, lt_min_iff] at below
  have inside : place < entities.length := rebuilt.found.length_eq ▸ below.1
  have places : (argumentPlaces entities).map Placement.entity = entities :=
    map_entity_argumentPlaces
  have ofEntities : (argumentPlaces entities)[place].entity = entities[place] := by
    have sameEntity := List.getElem_of_eq places (by rw [places]; exact inside)
    rwa [List.getElem_map] at sameEntity
  refine ⟨place, below.1, below.2, same, rfl, ?_⟩
  rw [(sameBinding_iff.1 same).1, ofEntities]
  exact rebuilt.found.get below.1 inside

variable
  (listed : expression.AllLeaves fun binding => binding ∈ expression.leaves)

include listed

omit identities handBound in
/-- The expression that a function builds is over its arguments. -/
theorem own :
    other.AllLeaves fun binding =>
      ∃ placement ∈ argumentPlaces entities, binding = placement.binding := by
  refine rebuilt.matching.allLeaves (fun binding argument isPassed _ => ?_) listed
  rcases rebuilt.exists_place passed isPassed with ⟨place, _, below, _, same, _⟩
  exact ⟨_, List.getElem_mem below, same⟩

omit identities handBound in
theorem matching_leaves :
    Matches
      (fun binding argument =>
        binding ∈ expression.leaves ∧ binding.IsPassedAs bindings arguments.bindings argument)
      expression other :=
  rebuilt.matching.weaken listed (rebuilt.own passed listed) fun _ _ member _ isPassed =>
    ⟨member, isPassed⟩

omit identities listed in
theorem layout_eq
    (binding argument : Binding)
    (related :
      binding ∈ expression.leaves ∧ binding.IsPassedAs bindings arguments.bindings argument) :
    argument.layout = binding.layout := by
  rcases related with ⟨member, isPassed⟩
  rcases rebuilt.exists_place passed isPassed with ⟨place, _, below, _, rfl, found⟩
  rcases handBound.placed binding member with ⟨placement, isFound⟩
  rw [isFound.layout, Option.some_inj.1 (isFound.found.symm.trans found)]
  rfl

omit identities in
theorem algebra_eq :
    other.algebra = expression.algebra :=
  (rebuilt.matching_leaves passed listed).algebra_eq (rebuilt.layout_eq handBound passed)

/-- The expression that a function builds is bound to its arguments one behind the other. -/
theorem isHandBound :
    other.IsHandBound find where
  wellFormed :=
    (rebuilt.matching_leaves passed listed).wellFormed (rebuilt.layout_eq handBound passed)
      handBound.wellFormed
  placed binding member := by
    rcases forall_mem_leaves (rebuilt.own passed listed) binding member with
      ⟨placement, isPlaced, rfl⟩
    exact ⟨placement, rebuilt.isFoundBy identities handBound isPlaced⟩
  disjoint left inLeft right inRight first second isFirst isSecond := by
    have own := forall_mem_leaves (rebuilt.own passed listed)
    rcases own left inLeft with ⟨placement, isPlaced, rfl⟩
    rcases own right inRight with ⟨next, nextPlaced, rfl⟩
    have isFound := rebuilt.isFoundBy identities handBound isPlaced
    have nextFound := rebuilt.isFoundBy identities handBound nextPlaced
    have same := isFirst.eq_of_sameBinding isFound (sameBinding_iff.2 ⟨rfl, rfl⟩)
    have nextSame := isSecond.eq_of_sameBinding nextFound (sameBinding_iff.2 ⟨rfl, rfl⟩)
    rw [same, nextSame]
    exact apart_of_mem_placements isPlaced nextPlaced

omit identities passed listed in
theorem width_pos
    (inhabited : ∀ binding ∈ expression.leaves, 0 < binding.layout.width)
    {placement : Placement Number}
    (member : placement ∈ argumentPlaces entities) :
    0 < placement.signature.width := by
  rcases mem_argumentPlaces member with ⟨inEntities, signature⟩
  rcases exists_of_mem_forall₂ rebuilt.found inEntities with ⟨binding, isPassed, found⟩
  have inLeaves := rebuilt.mem_leaves isPassed
  rcases handBound.placed binding inLeaves with ⟨other, isFound⟩
  have sameEntity := Option.some_inj.1 (isFound.found.symm.trans found)
  have slots := inhabited binding inLeaves
  rw [isFound.layout, sameEntity] at slots
  rw [signature]
  exact slots

omit listed in
/-- Calling a function numbers the bindings anew. -/
theorem renumbers
    (inhabited : ∀ binding ∈ expression.leaves, 0 < binding.layout.width) :
    Renumbers find find (Binding.IsPassedAs bindings arguments.bindings) expression other where
  matching := rebuilt.matching
  entities := by
    intro binding member argument _ isPassed
    rcases rebuilt.exists_place passed isPassed with ⟨place, _, below, _, rfl, found⟩
    rw [found]
    exact
      (rebuilt.find_identity identities (mem_argumentPlaces (List.getElem_mem below)).1).symm
  same := by
    intro binding member argument _ isPassed next nextMember nextArgument _ nextPassed
    rcases rebuilt.exists_place passed isPassed with ⟨place, inside, below, same, rfl, _⟩
    rcases rebuilt.exists_place passed nextPassed with
      ⟨other, otherInside, otherBelow, otherSame, rfl, _⟩
    rw [sameBinding_iff] at same otherSame
    constructor
    · intro sameHere
      rw [sameBinding_iff, same.1, same.2, otherSame.1, otherSame.2, ← sameBinding_iff] at sameHere
      cases rebuilt.eq_of_sameBinding inside otherInside sameHere
      exact sameBinding_iff.2 ⟨rfl, rfl⟩
    · intro sameThere
      have sameBase := (sameBinding_iff.1 sameThere).2
      simp only [Placement.binding, value_natural, Nat.cast_inj] at sameBase
      have inhabitedPlaces (placement : Placement Number)
          (member : placement ∈ argumentPlaces entities) :
          0 < placement.signature.width :=
        rebuilt.width_pos handBound inhabited member
      cases place_eq_of_base_eq inhabitedPlaces below otherBelow sameBase
      rw [sameBinding_iff, same.1, same.2, otherSame.1, otherSame.2]
      exact ⟨rfl, rfl⟩

end Expr.IsRebuilt

end Functions

omit [CommRing Number] [Module ℚ Number] [Arithmetic Number] [ExactArithmetic Number] in
/-- There is room for the results of all expressions that match. -/
theorem Expr.Renumbers.room
    {find : Nat → Option (Entity Number)}
    {related : Binding → Binding → Prop}
    {expression other : Expr}
    (renumbers : Expr.Renumbers find find related expression other)
    (listed : expression.AllLeaves fun binding => binding ∈ expression.leaves)
    (otherListed : other.AllLeaves fun binding => binding ∈ other.leaves)
    (handBound : expression.IsHandBound find)
    (otherBound : other.IsHandBound find)
    {capacity : Nat}
    {batch : List Nat}
    (room :
      ∀ value, expression.evaluate = .ok value →
        Tensor.isRepresentable capacity (batch ++ [value.blades.length]) = true) :
    ∀ value, other.evaluate = .ok value →
      Tensor.isRepresentable capacity (batch ++ [value.blades.length]) = true := by
  intro value evaluated
  rcases Expr.exists_evaluate handBound.wellFormed with ⟨first, firstEvaluated, _⟩
  rw [renumbers.blades_eq listed otherListed handBound otherBound firstEvaluated evaluated]
  exact room first firstEvaluated

/-- What is computed of a function that builds an expression anew holds what it builds. -/
theorem Expr.IsRebuilt.outcome_computeWith
    {find : Nat → Option (Entity Number)}
    {function : Function}
    {bindings : List Binding}
    {entities : List (Entity Number)}
    {callers : Set Limits}
    {world : World Number}
    {between : Workspace}
    {arguments : Function.Arguments}
    {expression other : Expr}
    (rebuilt :
      expression.IsRebuilt find function bindings entities world.context.workspace between
        arguments other)
    (identities : ∀ identity entity, find identity = some entity → entity.identity = identity)
    (handBound : expression.IsHandBound find)
    (passed : arguments.bindings = (argumentPlaces entities).map Placement.binding)
    (listed : expression.AllLeaves fun binding => binding ∈ expression.leaves)
    (faithful : World.Faithful function callers world)
    (closed : function.IsClosed Number)
    (captured : function.body.Within (.existing world.graph))
    {batch : List Nat}
    (broadcast : Tensor.commonShape (expression.batchShapes find) = .ok batch)
    (room :
      ∀ value, other.evaluate = .ok value →
        Tensor.isRepresentable world.context.limits.capacity (batch ++ [value.blades.length]) =
          true)
    (settings : Config) :
    UnlessTooDeep world.context.limits.stack (other.heightAbove between.keeps)
      (fun again : Entity Number =>
        other.IsHeldBy (Binding.meaning find) batch again.layout again.storage)
      (outcome (computeWith settings function entities) world.context).1 := by
  have otherBound := rebuilt.isHandBound identities handBound passed listed
  have algebras := rebuilt.algebra_eq handBound passed listed
  have full : ∀ entity ∈ entities, entity.IsFull other.algebra :=
    fun entity member => algebras ▸ rebuilt.isFull handBound member
  have binds :
      other.AllLeaves fun binding =>
        ∃ placement ∈ argumentPlaces entities,
          placement.Binds (Binding.meaning find) binding := by
    refine (rebuilt.own passed listed).mono ?_
    rintro _ ⟨placement, member, rfl⟩
    have isFound := rebuilt.isFoundBy identities handBound member
    refine ⟨placement, member, rfl, rfl, fun index => ?_⟩
    rw [Binding.meaning, isFound.found]
  exact
    faithful.computed closed captured (rebuilt.identified identities) full rebuilt.returned
      otherBound.wellFormed
      (Tensor.commonShape_congr (fun shape => rebuilt.mem_batchShapes shape) broadcast) binds
      room settings

/-! ## Independence -/

/--
What an expression is evaluated to does not depend on its ids: it has the
same entries on the same blades as what the expression is evaluated to over
other ids, and as what an engine computes of a function that builds it, on
whatever stack, as long as the memory is the same.
-/
structure Expr.IsIndependent
    (capacity : Nat)
    (find : Nat → Option (Entity Number))
    (widths : Nat → Except Error Nat)
    (expression : Expr)
    (result : Entity Number) :
    Prop where
  renumbered :
    ∀ {graph : Set Expr} {context : Context Number} {bases : Nat → Nat → Nat} {other : Expr},
      context.limits.capacity = capacity →
      context.workspace.Sound graph →
      other ∈ graph →
      expression.IsRenumbered bases other →
      other.IsHandBound find →
      ∀ validate : Bool,
        UnlessTooDeep context.limits.stack (other.heightAbove context.workspace.keeps)
          (fun again : Entity Number =>
            SameEntries result.layout again.layout result.storage again.storage)
          (outcome (Compute.evaluate find widths validate other) context).1
  rebuilt :
    ∀ {library : Set Function} {start world : World Number} {function : Function}
      {bindings : List Binding} {entities : List (Entity Number)} {between : Workspace}
      {arguments : Function.Arguments} {other : Expr},
      World.Run library .univ start world →
      world.context.limits.capacity = capacity →
      start.context.engine.programs = [] →
      start.context.workspace.Sound start.graph →
      (∀ known ∈ library, known.key = function.key → known = function) →
      function.IsClosed Number →
      function.body.Within (.existing world.graph) →
      expression.IsRebuilt find function bindings entities world.context.workspace between
        arguments other →
      ∀ settings : Config,
        UnlessTooDeep world.context.limits.stack (other.heightAbove between.keeps)
          (fun again : Entity Number =>
            SameEntries result.layout again.layout result.storage again.storage)
          (outcome (computeWith settings function entities) world.context).1

/--
Evaluating an expression over entities that are bound by hand gives an entity
that holds its meaning at their current storage and does not depend on the
ids, unless the stack does not hold the operations inside one another and the
evaluation stops there.
-/
theorem Compute.evaluate_numbering
    {graph : Set Expr}
    {context : Context Number}
    (sound : context.workspace.Sound graph)
    {expression : Expr}
    (member : expression ∈ graph)
    {find : Nat → Option (Entity Number)}
    (identities : ∀ identity entity, find identity = some entity → entity.identity = identity)
    {widths : Nat → Except Error Nat}
    (agree : ∀ identity entity, find identity = some entity → widths identity = entity.width)
    (handBound : expression.IsHandBound find)
    (inhabited : ∀ binding ∈ expression.leaves, 0 < binding.layout.width)
    {batch : List Nat}
    (broadcast : Tensor.commonShape (expression.batchShapes find) = .ok batch)
    (room :
      ∀ value, expression.evaluate = .ok value →
        Tensor.isRepresentable context.limits.capacity (batch ++ [value.blades.length]) = true)
    (validate : Bool) :
    UnlessTooDeep context.limits.stack (expression.heightAbove context.workspace.keeps)
      (fun result : Entity Number =>
        expression.IsHeldBy (Binding.meaning find) batch result.layout result.storage ∧
          expression.IsIndependent context.limits.capacity find widths result)
      (outcome (evaluate find widths validate expression) context).1 := by
  have listed := Expr.allLeaves_mem_leaves sound.isGraph member
  refine (outcome_evaluate sound member handBound agree broadcast room validate).mono ?_
  refine fun result isHeld => ⟨isHeld, ?_, ?_⟩
  · intro otherGraph otherContext bases other sameCapacity otherSound otherMember renumbered
      otherBound otherValidate
    rw [← sameCapacity] at room
    have otherListed := Expr.allLeaves_mem_leaves otherSound.isGraph otherMember
    have renumbers := renumbered.renumbers handBound
    have evaluated :=
      outcome_evaluate otherSound otherMember otherBound agree
        (renumbers.commonShape listed otherListed broadcast)
        (renumbers.room listed otherListed handBound otherBound room) otherValidate
    exact evaluated.mono fun again otherHeld =>
      renumbers.sameEntries listed otherListed handBound otherBound isHeld otherHeld
  · intro library start world function bindings entities between arguments other run sameCapacity
      nothingKept startSound only closed captured rebuilt settings
    rw [← sameCapacity] at room
    have atStart : World.Faithful function .univ start :=
      ⟨trivial, startSound, by simp [nothingKept]⟩
    have faithful := atStart.run only run
    rcases
        (Function.tree_grows faithful.sound captured
          (signed_of_isFull fun entity => rebuilt.isFull handBound)).of_outcome
            rebuilt.returned with
      ⟨larger, grown⟩
    rcases grown.built arguments other rfl with ⟨sameArguments, otherMember, _⟩
    have passed : arguments.bindings = (argumentPlaces entities).map Placement.binding := by
      rw [sameArguments]
      rfl
    have otherListed := Expr.allLeaves_mem_leaves grown.sound.isGraph otherMember
    have otherBound := rebuilt.isHandBound identities handBound passed listed
    have renumbers := rebuilt.renumbers identities handBound passed inhabited
    have computed :=
      rebuilt.outcome_computeWith identities handBound passed listed faithful closed captured
        broadcast (renumbers.room listed otherListed handBound otherBound room) settings
    exact computed.mono fun again otherHeld =>
      renumbers.sameEntries listed otherListed handBound otherBound isHeld otherHeld

/-! ## A batch of scalars -/

/-- The one entity that there is. -/
def findScalars
    (identity : Nat) :
    Option (Entity ℚ) :=
  if identity = 0 then some scalars else none

theorem findScalars_eq_some
    {identity : Nat}
    {entity : Entity ℚ}
    (found : findScalars identity = some entity) :
    identity = 0 ∧ entity = scalars := by
  unfold findScalars at found
  split at found
  · next zero => exact ⟨zero, (Option.some_inj.1 found).symm⟩
  · cases found

/-- Well-formed expressions over the scalars at the first id are bound by hand. -/
theorem isHandBound_scalars
    {expression : Expr}
    (wellFormed : expression.WellFormed)
    (leaves : ∀ binding ∈ expression.leaves, binding = ⟨0, .scalar .projective, .natural 0⟩) :
    expression.IsHandBound findScalars where
  wellFormed := wellFormed
  placed binding member := by
    rw [leaves binding member]
    exact ⟨⟨scalars, ⟨.scalar .projective, 1⟩, 0⟩, rfl, rfl, rfl, rfl, rfl⟩
  disjoint left inLeft right inRight first second _ _ := by
    rw [leaves left inLeft, leaves right inRight]
    exact .inl (Expr.sameBinding_iff.2 ⟨rfl, rfl⟩)

/-- The geometric product of the scalars with themselves. -/
def squareOfScalars : Expr :=
  .binary 2 .geometric (.scalarLeaf 1 0) (.scalarLeaf 1 0)

theorem batchShapes_squareOfScalars :
    squareOfScalars.batchShapes findScalars = [[2]] := by
  decide +kernel

theorem evaluate_squareOfScalars :
    squareOfScalars.evaluate.toOption.map Multivector.blades = some [0] := by
  decide +kernel

theorem evaluate_numbering_square :
    let context : Context ℚ := ⟨.empty, .default, ⟨3, [], .usual⟩⟩
    let widths := Function.widthsOf [scalars]
    ∃ result : Entity ℚ,
      (outcome (evaluate findScalars widths true squareOfScalars) context).1 = .ok result ∧
        squareOfScalars.IsHeldBy (Binding.meaning findScalars) [2] result.layout
          result.storage ∧
        squareOfScalars.IsIndependent context.limits.capacity findScalars widths result := by
  intro context widths
  have leafSound : (⟨2, [], .usual⟩ : Workspace).Sound (insert (Expr.scalarLeaf 1 0) ∅) :=
    (Workspace.sound_empty 1 .usual).insert rfl (by simp [Expr.scalarLeaf, Expr.operands])
  have sound :
      context.workspace.Sound (insert squareOfScalars (insert (Expr.scalarLeaf 1 0) ∅)) :=
    leafSound.insert rfl (by simp [squareOfScalars, Expr.operands])
  have identities (identity : Nat) (entity : Entity ℚ)
      (found : findScalars identity = some entity) :
      entity.identity = identity := by
    rcases findScalars_eq_some found with ⟨rfl, rfl⟩
    rfl
  have agree (identity : Nat) (entity : Entity ℚ)
      (found : findScalars identity = some entity) :
      widths identity = entity.width := by
    rcases findScalars_eq_some found with ⟨rfl, rfl⟩
    rfl
  have leaves :
      ∀ binding ∈ squareOfScalars.leaves, binding = ⟨0, .scalar .projective, .natural 0⟩ :=
    Expr.forall_mem_leaves ⟨rfl, rfl⟩
  have wellFormed : squareOfScalars.WellFormed :=
    ⟨Expr.wellFormed_scalarLeaf 1 0, Expr.wellFormed_scalarLeaf 1 0, rfl⟩
  have inhabited : ∀ binding ∈ squareOfScalars.leaves, 0 < binding.layout.width := by
    intro binding member
    rw [leaves binding member]
    decide
  have broadcast :
      Tensor.commonShape (squareOfScalars.batchShapes findScalars) = .ok [2] := by
    rw [batchShapes_squareOfScalars]
    rfl
  have room (value : Multivector) (evaluated : squareOfScalars.evaluate = .ok value) :
      Tensor.isRepresentable context.limits.capacity ([2] ++ [value.blades.length]) = true := by
    have blades := evaluate_squareOfScalars
    rw [evaluated] at blades
    rw [show value.blades = [0] from Option.some_inj.1 blades]
    decide
  have low : context.limits.stack.Holds 1 := by decide
  have reached :=
    evaluate_numbering sound (Set.mem_insert _ _) identities agree
      (isHandBound_scalars wellFormed leaves) inhabited broadcast room true
  exact reached.exists_ok low

/-! ## Too many operations inside one another -/

/-- Every change of sign can be built on the one before. -/
theorem exists_sound_negations
    (limits : Limits)
    (count : Nat) :
    ∃ graph, Expr.negations (Expr.scalarLeaf 1 0) 2 count ∈ graph ∧
      (⟨2 + count, [], limits⟩ : Workspace).Sound graph := by
  induction count with
  | zero =>
      have leafSound : (⟨2, [], limits⟩ : Workspace).Sound (insert (Expr.scalarLeaf 1 0) ∅) :=
        (Workspace.sound_empty 1 limits).insert rfl (by simp [Expr.scalarLeaf, Expr.operands])
      exact ⟨_, Set.mem_insert _ _, leafSound⟩
  | succ count inductionHypothesis =>
      rcases inductionHypothesis with ⟨graph, member, sound⟩
      refine ⟨_, Set.mem_insert _ _, sound.insert rfl ?_⟩
      simpa [Expr.negations, Expr.operands] using member

theorem leaves_negations_scalarLeaf
    (count : Nat) :
    ∀ binding ∈ (Expr.negations (Expr.scalarLeaf 1 0) 2 count).leaves,
      binding = ⟨0, .scalar .projective, .natural 0⟩ := by
  have leaf : (Expr.scalarLeaf 1 0).AllLeaves fun binding =>
      binding = ⟨0, .scalar .projective, .natural 0⟩ :=
    rfl
  exact Expr.forall_mem_leaves (leaves_negations leaf 2 count)

theorem mem_leaves_negations
    (count : Nat) :
    ⟨0, .scalar .projective, .natural 0⟩ ∈
      (Expr.negations (Expr.scalarLeaf 1 0) 2 count).leaves := by
  have ofLeaves {holds : Binding → Prop} (count : Nat)
      (leaves : (Expr.negations (Expr.scalarLeaf 1 0) 2 count).AllLeaves holds) :
      holds ⟨0, .scalar .projective, .natural 0⟩ := by
    induction count with
    | zero => exact leaves
    | succ count inductionHypothesis => exact inductionHypothesis leaves
  rcases exists_sound_negations .usual count with ⟨graph, member, sound⟩
  exact ofLeaves count (Expr.allLeaves_mem_leaves sound.isGraph member)

theorem isHandBound_negations
    (count : Nat) :
    (Expr.negations (Expr.scalarLeaf 1 0) 2 count).IsHandBound findScalars :=
  isHandBound_scalars
    (Expr.wellFormed_negations (Expr.wellFormed_scalarLeaf 1 0) 2 count)
    (leaves_negations_scalarLeaf count)

theorem commonShape_negations
    (count : Nat) :
    Tensor.commonShape
        ((Expr.negations (Expr.scalarLeaf 1 0) 2 count).batchShapes findScalars) =
      .ok [2] := by
  have shapes (shape : List Nat) :
      shape ∈ [[2]] ↔
        shape ∈ (Expr.negations (Expr.scalarLeaf 1 0) 2 count).batchShapes findScalars := by
    rw [List.mem_singleton, Expr.batchShapes, List.mem_filterMap]
    constructor
    · rintro rfl
      exact ⟨_, mem_leaves_negations count, rfl⟩
    · rintro ⟨binding, member, found⟩
      rw [leaves_negations_scalarLeaf count binding member] at found
      exact (Option.some_inj.1 found).symm
  exact Tensor.commonShape_congr shapes rfl

/-- On no stack are all expressions over entities bound by hand evaluated. -/
theorem evaluate_refuses_negations :
    (∀ count, (Expr.negations (Expr.scalarLeaf 1 0) 2 count).IsHandBound findScalars ∧
        Tensor.commonShape
            ((Expr.negations (Expr.scalarLeaf 1 0) 2 count).batchShapes findScalars) =
          .ok [2]) ∧
      ∀ limits : Limits, ∃ count,
        (outcome
            (evaluate findScalars (Function.widthsOf [scalars]) true
              (Expr.negations (Expr.scalarLeaf 1 0) 2 count))
            ⟨.empty, .default, ⟨2 + count, [], limits⟩⟩).1 =
          .error .nestedTooDeeply := by
  refine
    ⟨fun count => ⟨isHandBound_negations count, commonShape_negations count⟩,
      fun limits => ⟨limits.stack.room, ?_⟩⟩
  have handBound := isHandBound_negations limits.stack.room
  rcases handBound.exists_placed with ⟨placed, arePlaced⟩
  have agree (identity : Nat) (entity : Entity ℚ)
      (found : findScalars identity = some entity) :
      Function.widthsOf [scalars] identity = entity.width := by
    rcases findScalars_eq_some found with ⟨rfl, rfl⟩
    rfl
  unfold evaluate
  rw [outcome_bind, outcome_get]
  dsimp only
  rw [outcome_bind, outcome_build, Expr.outcome_compute arePlaced, Build.outcome_bind,
    Expr.reduce_of_checked (handBound.checkBindings_eq_ok agree), Expr.outcome_reduceUnchecked,
    Expr.outcome_reduceNode_negations rfl _ _ limits.stack le_rfl]

end Versor

end

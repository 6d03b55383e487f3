import Versor.Proofs.Engine.Computing
import Versor.Proofs.Engine.History
import Versor.Proofs.Expression.Instantiation
import Versor.Proofs.Program.HandBound

/-!
# Calls of the library's functions

Computations call functions of the library one after the other.  In a context
that a run leads to, a call with entities that stand for elements of an algebra
succeeds where the limits leave room for it (`Limits.HasRoomFor`), and gives an
entity which stands for the meaning of the function's body
(`Compute.ensures_applyLibrary`).  The next call finds such a context again.
-/

noncomputable section

namespace Versor

open Compute

variable {Number : Type}

/-! ## Contexts in which the library is used -/

section Ready

variable [Arithmetic Number]

/--
The limits are known, the workspace is sound, and what is kept for the library's functions
has been made of them.
-/
structure Context.IsReady
    (limits : Limits)
    (context : Context Number) :
    Prop where
  limits_eq : context.limits = limits
  faithful :
    ∃ graph, ∀ function : LibraryFunction,
      World.Faithful function.toFunction .univ ⟨context, graph⟩

theorem LibraryFunction.within
    (function : LibraryFunction)
    (graph : Set Expr) :
    function.toFunction.body.Within (.existing graph) := by
  cases function <;> simp [toFunction, body, Formula.Within]

/-- A context at any moment of an engine under whose library keys nothing else has been kept. -/
inductive Context.IsReached : Context Number → Prop
  | intro
    {library : Set Function}
    {start world : World Number}
    (run : World.Run library .univ start world)
    (nothingKept : start.context.engine.programs = [])
    (sound : start.context.workspace.Sound start.graph)
    (only :
      ∀ known ∈ library, ∀ function : LibraryFunction,
        known.key = function.toFunction.key → known = function.toFunction) :
    IsReached world.context

/-- At any moment of an engine the library can be used. -/
theorem Context.IsReached.isReady
    {context : Context Number}
    (reached : context.IsReached) :
    context.IsReady context.limits := by
  cases reached with
  | @intro library start world run nothingKept sound only =>
      refine ⟨rfl, world.graph, fun function => ?_⟩
      have atStart : World.Faithful function.toFunction .univ start :=
        ⟨trivial, sound, by simp [nothingKept]⟩
      exact atStart.run (fun known member => only known member function) run

/-- A context in which entities have been made and nothing has been compiled. -/
def Context.start
    (free : Nat) :
    Context Number :=
  ⟨.empty, .default, ⟨free, [], .usual⟩⟩

theorem Context.isReached_start
    (free : Nat) :
    (start free : Context Number).IsReached := by
  have run : World.Run ∅ .univ (⟨start free, ∅⟩ : World Number) ⟨start free, ∅⟩ := .refl
  exact .intro run rfl (Workspace.sound_empty free .usual) (by simp)

variable {limits : Limits}

/-- Taking a number keeps a context ready. -/
theorem Context.IsReady.advanced
    {context : Context Number}
    (ready : context.IsReady limits) :
    Context.IsReady limits { context with workspace := context.workspace.advanced } := by
  rcases ready with ⟨sameLimits, graph, faithful⟩
  refine ⟨sameLimits, graph, fun function => ?_⟩
  exact
    (faithful function).next (faithful function).sound.leads_advanced fun _ member => .inl member

/-- Calling a function of the library loses nothing of the workspace. -/
theorem Context.IsReady.extends_computed
    {context : Context Number}
    (ready : context.IsReady limits)
    (function : LibraryFunction)
    (settings : Config)
    (entities : List (Entity Number)) :
    context.workspace.Extends
      (outcome (computeWith settings function.toFunction entities) context).2.workspace := by
  rcases ready with ⟨_, graph, faithful⟩
  have leads :=
    (compiled_outcome settings function.toFunction entities context).leads
      (faithful function).sound (function.within graph)
  rw [computeWith, outcome_bind]
  generalize outcome (compileWith settings function.toFunction entities) context = reached
    at leads ⊢
  rcases reached with ⟨handedOut, between⟩
  cases handedOut with
  | error error => exact leads.extended
  | ok program =>
      dsimp only
      rw [outcome_execute]
      split
      · exact leads.extended.trans leads.sound.leads_advanced.extended
      · exact leads.extended

/-- Calling a function of the library keeps a context ready. -/
theorem Context.IsReady.computed
    {context : Context Number}
    (ready : context.IsReady limits)
    (function : LibraryFunction)
    (settings : Config)
    (entities : List (Entity Number)) :
    (outcome (computeWith settings function.toFunction entities) context).2.IsReady limits := by
  have extended := ready.extends_computed function settings entities
  rcases ready with ⟨sameLimits, graph, faithful⟩
  refine ⟨extended.limits.trans sameLimits, graph, fun other => ?_⟩
  let world : World Number := ⟨context, graph⟩
  have step :
      World.Step (Set.range LibraryFunction.toFunction) .univ world
        { world with
          context := (outcome (computeWith settings function.toFunction entities) context).2 } :=
    .compute world settings (Set.mem_range_self function) (function.within graph) entities
  refine (faithful other).step ?_ step
  rintro _ ⟨known, rfl⟩ same
  rw [FunctionKey.library.inj same]

end Ready

/-! ## What computations ensure -/

namespace Compute

section Ensures

variable [Arithmetic Number] {Result Next : Type}

/--
What a computation does from a context: it succeeds where that is certain, and
if it succeeds something holds of the result and the context behind it.  In
either case the library can be used behind it within the same limits, and no
number is given back.
-/
structure Ensures
    (limits : Limits)
    (certain : Prop)
    (computation : Compute Number Result)
    (context : Context Number)
    (holds : Result → Context Number → Prop) :
    Prop where
  ready : (outcome computation context).2.IsReady limits
  free : context.workspace.free ≤ (outcome computation context).2.workspace.free
  succeeds : certain → ∃ result, (outcome computation context).1 = .ok result
  holds :
    ∀ result, (outcome computation context).1 = .ok result →
      holds result (outcome computation context).2

/--
What a computation gives: it succeeds where there is room for it, and
whenever it succeeds something holds of the result.
-/
structure Gives
    (room : Prop)
    (computation : Compute Number Result)
    (context : Context Number)
    (holds : Result → Prop) :
    Prop where
  succeeds : room → ∃ result, (outcome computation context).1 = .ok result
  holds : ∀ result, (outcome computation context).1 = .ok result → holds result

omit [Arithmetic Number] in
theorem Gives.mono
    {room enough : Prop}
    {computation : Compute Number Result}
    {context : Context Number}
    {holds weaker : Result → Prop}
    (gives : computation.Gives room context holds)
    (hasRoom : enough → room)
    (weakens : ∀ result, holds result → weaker result) :
    computation.Gives enough context weaker where
  succeeds isEnough := gives.succeeds (hasRoom isEnough)
  holds result succeeded := weakens _ (gives.holds result succeeded)

omit [Arithmetic Number] in
/-- A computation that fails is not followed by another one. -/
theorem outcome_bind_of_error
    {computation : Compute Number Result}
    {next : Result → Compute Number Next}
    {context : Context Number}
    {error : Error}
    (failed : (outcome computation context).1 = .error error) :
    (outcome (computation >>= next) context).1 = .error error := by
  rw [outcome_bind]
  generalize outcome computation context = reached at failed
  rcases reached with ⟨result | result, between⟩ <;> cases failed
  rfl

namespace Ensures

variable
  {limits : Limits}
  {certain : Prop}
  {context : Context Number}
  {computation : Compute Number Result}
  {holds : Result → Context Number → Prop}

theorem gives
    (ensures : computation.Ensures limits certain context holds)
    {final : Result → Prop}
    (weakens : ∀ result behind, holds result behind → final result) :
    computation.Gives certain context final where
  succeeds := ensures.succeeds
  holds result succeeded := weakens _ _ (ensures.holds result succeeded)

theorem mono
    {weaker : Result → Context Number → Prop}
    (ensures : computation.Ensures limits certain context holds)
    (weakens :
      ∀ result behind, context.workspace.free ≤ behind.workspace.free → holds result behind →
        weaker result behind) :
    computation.Ensures limits certain context weaker where
  ready := ensures.ready
  free := ensures.free
  succeeds := ensures.succeeds
  holds result succeeded := weakens _ _ ensures.free (ensures.holds result succeeded)

theorem pure
    (ready : context.IsReady limits)
    {result : Result}
    (holding : holds result context) :
    (Pure.pure result : Compute Number Result).Ensures limits certain context holds where
  ready := ready
  free := le_rfl
  succeeds _ := ⟨result, rfl⟩
  holds _ succeeded := by
    cases succeeded
    exact holding

/-- A computation that only looks at the context. -/
theorem of_outcome
    (ready : context.IsReady limits)
    {step : Except Error Result}
    (computed : outcome computation context = (step, context))
    (succeeds : certain → ∃ result, step = .ok result)
    (holding : ∀ result, step = .ok result → holds result context) :
    computation.Ensures limits certain context holds where
  ready := computed ▸ ready
  free := computed ▸ le_rfl
  succeeds := computed ▸ succeeds
  holds := computed ▸ holding

theorem ofExcept
    (ready : context.IsReady limits)
    {step : Except Error Result}
    (succeeds : certain → ∃ result, step = .ok result)
    (holding : ∀ result, step = .ok result → holds result context) :
    (Compute.ofExcept step : Compute Number Result).Ensures limits certain context holds :=
  .of_outcome ready rfl succeeds holding

/-- A step that is known to succeed. -/
theorem ofOk
    (ready : context.IsReady limits)
    {step : Except Error Result}
    {result : Result}
    (succeeded : step = .ok result)
    (holding : holds result context) :
    (Compute.ofExcept step : Compute Number Result).Ensures limits certain context holds := by
  subst succeeded
  exact .pure ready holding

/-- A computation that is followed by another one, which is looked at from behind the first. -/
theorem bind
    {next : Result → Compute Number Next}
    {final : Next → Context Number → Prop}
    (ensures : computation.Ensures limits certain context holds)
    (follows :
      ∀ result behind, behind.IsReady limits → context.workspace.free ≤ behind.workspace.free →
        holds result behind → (next result).Ensures limits certain behind final) :
    (computation >>= next).Ensures limits certain context final := by
  rcases ensures with ⟨ready, free, succeeds, holding⟩
  have composed := outcome_bind computation next context
  generalize outcome computation context = reached at ready free succeeds holding composed
  rcases reached with ⟨result | result, between⟩
  · exact
      { ready := composed ▸ ready
        free := composed ▸ free
        succeeds := fun isCertain => nomatch succeeds isCertain
        holds := by
          rw [composed]
          exact nofun }
  · have last := follows result between ready free (holding result rfl)
    exact
      { ready := composed ▸ last.ready
        free := composed ▸ free.trans last.free
        succeeds := composed ▸ last.succeeds
        holds := composed ▸ last.holds }

/-- What follows a computation that succeeds goes on with its result behind it. -/
theorem exists_outcome_bind
    (ensures : computation.Ensures limits True context holds) :
    ∃ result behind,
      behind.IsReady limits ∧ context.workspace.free ≤ behind.workspace.free ∧ holds result behind ∧
        ∀ next : Result → Compute Number Next,
          outcome (computation >>= next) context = outcome (next result) behind := by
  rcases ensures.succeeds trivial with ⟨result, succeeded⟩
  refine
    ⟨result, _, ensures.ready, ensures.free, ensures.holds result succeeded, fun next => ?_⟩
  rw [outcome_bind]
  generalize outcome computation context = reached at succeeded
  rcases reached with ⟨result | result, between⟩ <;> cases succeeded
  rfl

/-- A computation that succeeds and is followed by one that fails. -/
theorem bind_error
    {next : Result → Compute Number Next}
    {error : Error}
    (ensures : computation.Ensures limits True context holds)
    (fails :
      ∀ result behind, behind.IsReady limits → context.workspace.free ≤ behind.workspace.free →
        holds result behind → (outcome (next result) behind).1 = .error error) :
    (outcome (computation >>= next) context).1 = .error error := by
  rcases ensures.exists_outcome_bind with ⟨result, behind, isReady, free, holding, follows⟩
  rw [follows next]
  exact fails result behind isReady free holding

/-- A step that is known to succeed, followed by a computation. -/
theorem ofOk_bind
    {step : Except Error Result}
    {result : Result}
    {next : Result → Compute Number Next}
    {final : Next → Context Number → Prop}
    (succeeded : step = .ok result)
    (follows : (next result).Ensures limits certain context final) :
    (Compute.ofExcept step >>= next).Ensures limits certain context final := by
  subst succeeded
  exact follows

/-- A step that is known to fail, which can only be where success is not certain. -/
theorem ofError_bind
    (ready : context.IsReady limits)
    {step : Except Error Result}
    {error : Error}
    {next : Result → Compute Number Next}
    {final : Next → Context Number → Prop}
    (failed : step = .error error)
    (uncertain : ¬ certain) :
    (Compute.ofExcept step >>= next).Ensures limits certain context final := by
  subst failed
  exact ⟨ready, le_rfl, fun isCertain => absurd isCertain uncertain, nofun⟩

/-- A failure, which can only be where success is not certain. -/
theorem fail
    (ready : context.IsReady limits)
    (error : Error)
    (uncertain : ¬ certain) :
    (throw error : Compute Number Result).Ensures limits certain context holds :=
  ⟨ready, le_rfl, fun isCertain => absurd isCertain uncertain, nofun⟩

end Ensures

end Ensures

end Compute

/-! ## New entities -/

/-- An entity with floating point storage that has been made between two contexts. -/
structure Entity.IsNew
    (context behind : Context Number)
    (entity : Entity Number) :
    Prop where
  free : context.workspace.free ≤ entity.identity
  taken : entity.identity < behind.workspace.free
  floating : entity.storage.type.isFloating = true

/-- What has been made later is new. -/
theorem Entity.IsNew.of_le
    {context between behind : Context Number}
    {entity : Entity Number}
    (isNew : entity.IsNew between behind)
    (free : context.workspace.free ≤ between.workspace.free) :
    entity.IsNew context behind where
  free := free.trans isNew.free
  taken := isNew.taken
  floating := isNew.floating

theorem Config.isFloating_elementType
    (config : Config) :
    config.elementType.isFloating = true := by
  rw [elementType]
  cases named : typeNamed? config.typeName with
  | none => rfl
  | some type =>
      unfold typeNamed? at named
      split at named <;> cases named <;> rfl

section Storage

variable [Arithmetic Number]

/-- Storage that passes the checks has a floating point type. -/
theorem Entity.isFloating_of_checkStorage
    {standard : ElementType}
    (isFloating : standard.isFloating = true)
    {layout : Layout}
    {storage checked : Tensor Number}
    {capacity : Nat}
    (passed : checkStorage capacity standard layout storage = .ok checked) :
    checked.type.isFloating = true := by
  by_cases floating : storage.type.isFloating = true
  · simp only [checkStorage, floating, Bool.not_true, Bool.false_and, Bool.false_eq_true,
      if_false] at passed
    split at passed
    · cases passed
      exact floating
    · cases passed
  · have notFloating : storage.type.isFloating = false := Bool.eq_false_iff.2 floating
    have other : storage.type ≠ standard := by
      rintro same
      exact floating (same ▸ isFloating)
    simp only [checkStorage, notFloating, Bool.not_false, Bool.true_and, if_true] at passed
    split at passed
    · cases passed
    · split at passed
      · cases passed
        rw [Tensor.cast, if_neg other]
        exact isFloating
      · cases passed

/-- The entity that a program computes is a new one. -/
theorem Compute.isNew_execute
    {program : Program Number}
    {entities : List (Entity Number)}
    {context behind : Context Number}
    {result : Entity Number}
    (executed : outcome (execute program entities) context = (.ok result, behind)) :
    result.IsNew context behind := by
  rw [outcome_execute] at executed
  cases stored :
    program.stored context.limits.capacity context.config.elementType entities with
  | error error =>
      rw [stored] at executed
      cases executed
  | ok storage =>
      rw [stored] at executed
      cases executed
      refine ⟨le_rfl, Nat.lt_succ_self _, ?_⟩
      rcases exists_of_bind_eq_ok stored with ⟨computed, _, checked⟩
      dsimp only at checked
      split at checked
      · cases checked
      · exact Entity.isFloating_of_checkStorage context.config.isFloating_elementType checked

/-- The entity that is computed of a library function is a new one. -/
theorem Context.IsReady.isNew
    {context behind : Context Number}
    {limits : Limits}
    (ready : context.IsReady limits)
    {function : LibraryFunction}
    {settings : Config}
    {entities : List (Entity Number)}
    {result : Entity Number}
    (computed :
      outcome (computeWith settings function.toFunction entities) context =
        (.ok result, behind)) :
    result.IsNew context behind := by
  rcases ready with ⟨_, graph, faithful⟩
  have leads :=
    (compiled_outcome settings function.toFunction entities context).leads
      (faithful function).sound (function.within graph)
  rw [computeWith, outcome_bind] at computed
  generalize outcome (compileWith settings function.toFunction entities) context = reached
    at leads computed
  rcases reached with ⟨handedOut, between⟩
  cases handedOut with
  | error error => cases computed
  | ok program =>
      exact (isNew_execute computed).of_le leads.extended.free

end Storage

/-! ## Entities that stand for elements -/

/-- Storage of an entity with all its slots has the batch and the slots as its dimensions. -/
theorem Entity.IsFull.shape_eq
    {algebra : Algebra}
    {entity : Entity Number}
    (full : entity.IsFull algebra) :
    entity.storage.shape = entity.batchShape ++ [entity.layout.width] :=
  (List.dropLast_append_getLast? _ full.width).symm

variable [CommRing Number] [Module ℚ Number] [Arithmetic Number]

/-- An entity of an algebra that stands for given elements at the indices of its batch. -/
structure Entity.Represents
    (algebra : Algebra)
    (batch : List Nat)
    (value : List Nat → Reference.Element Number)
    (entity : Entity Number) :
    Prop where
  full : entity.IsFull algebra
  inRange : entity.layout.InRange
  distinct : entity.layout.elements.Nodup
  batchShape_eq : entity.batchShape = batch
  valueAt_eq : ∀ index, Tensor.IsIndex batch index → entity.valueAt index = value index

/-- An entity stands for what its slots stand for. -/
theorem Entity.IsFull.represents
    {algebra : Algebra}
    {entity : Entity Number}
    (full : entity.IsFull algebra)
    (inRange : entity.layout.InRange)
    (distinct : entity.layout.elements.Nodup) :
    entity.Represents algebra entity.batchShape entity.valueAt where
  full := full
  inRange := inRange
  distinct := distinct
  batchShape_eq := rfl
  valueAt_eq _ _ := rfl

theorem Entity.Represents.congr
    {algebra : Algebra}
    {batch : List Nat}
    {value other : List Nat → Reference.Element Number}
    {entity : Entity Number}
    (represents : entity.Represents algebra batch value)
    (same : ∀ index, Tensor.IsIndex batch index → value index = other index) :
    entity.Represents algebra batch other where
  full := represents.full
  inRange := represents.inRange
  distinct := represents.distinct
  batchShape_eq := represents.batchShape_eq
  valueAt_eq index isIndex := (represents.valueAt_eq index isIndex).trans (same index isIndex)

omit [CommRing Number] [Module ℚ Number] in
/-- At the indices of the batch itself the slots are read as they are stored. -/
theorem Entity.get_slot
    {entity : Entity Number}
    {index : List Nat}
    (isIndex : Tensor.IsIndex entity.batchShape index)
    (slot : Nat) :
    entity.storage.get (Tensor.stretchIndex entity.batchShape index ++ [slot]) =
      entity.storage.get (index ++ [slot]) := by
  rw [Tensor.stretchIndex_self isIndex]

/-- An entity that holds an expression stands for its meaning. -/
theorem Expr.IsHeldBy.represents
    {leaf : List Nat → Binding → Reference.Element Number}
    {batch : List Nat}
    {expression : Expr}
    {entity : Entity Number}
    (isHeld : expression.IsHeldBy leaf batch entity.layout entity.storage)
    (wellFormed : expression.WellFormed)
    {algebra : Algebra}
    (agrees : expression.algebra.Agrees algebra) :
    entity.Represents algebra batch fun index =>
      expression.interpret algebra.metric (leaf index) := by
  have batchShape : entity.batchShape = batch := by
    rw [Entity.batchShape, isHeld.shape, List.dropLast_concat]
  refine
    { full := ⟨isHeld.algebra.trans agrees, isHeld.width⟩
      inRange := fun blade member => ?_
      distinct := isHeld.ascending.nodup
      batchShape_eq := batchShape
      valueAt_eq := fun index isIndex => ?_ }
  · rcases isHeld.elements with ⟨value, evaluated, same⟩
    rw [same] at member
    rcases Multivector.mem_blades.1 member with ⟨entry, inEntries, rfl⟩
    have denotes := denotes_of_evaluate wellFormed evaluated
    rw [isHeld.algebra.bladeCount_eq, ← denotes.algebra]
    exact denotes.inRange.blades entry inEntries
  · simp only [Entity.valueAt, Entity.get_slot (batchShape.symm ▸ isIndex)]
    rw [isHeld.valueAt index isIndex]
    exact interpret_of_plain_eq (congrArg Algebra.metric agrees) _ _

/-! ## Calls -/

namespace Function

variable {algebra : Algebra} {entities : List (Entity Number)}

omit [CommRing Number] [Module ℚ Number] [Arithmetic Number] in
theorem getElem?_leavesFrom
    (node : Nat)
    (placed : List (Placement Number))
    (place : Nat) :
    (leavesFrom node placed)[place]? =
      placed[place]?.map fun placement => .bind (node + place) placement.binding := by
  induction placed generalizing node place with
  | nil => rfl
  | cons placement rest inductionHypothesis =>
      cases place with
      | zero => rfl
      | succ place =>
          rw [leavesFrom, List.getElem?_cons_succ, List.getElem?_cons_succ, inductionHypothesis,
            Nat.add_right_comm, Nat.add_assoc]

omit [CommRing Number] [Module ℚ Number] [Arithmetic Number] in
theorem length_leavesFrom
    (node : Nat)
    (placed : List (Placement Number)) :
    (leavesFrom node placed).length = placed.length := by
  induction placed generalizing node with
  | nil => rfl
  | cons placement rest inductionHypothesis =>
      rw [leavesFrom, List.length_cons, List.length_cons, inductionHypothesis]

/-- What a binding of one of several entities stands for. -/
def leafOf
    (entities : List (Entity Number)) :
    List Nat → Binding → Reference.Element Number :=
  Binding.meaning fun identity => entities.find? fun other => other.identity == identity

/-- A binding of one of several entities at its place. -/
def IsArgument
    (entities : List (Entity Number))
    (binding : Binding) :
    Prop :=
  ∃ placement ∈ argumentPlaces entities, placement.Binds (leafOf entities) binding

variable (identified : Identified entities)

include identified

theorem binds_argumentPlaces
    {placement : Placement Number}
    (member : placement ∈ argumentPlaces entities) :
    placement.Binds (leafOf entities) placement.binding where
  layout := rfl
  first := rfl
  meaning index := by
    rw [leafOf, Binding.meaning]
    dsimp only [Placement.binding]
    rw [identified.find? (mem_argumentPlaces member).1]

/-- What the bindings of the arguments stand for is what the entities stand for. -/
theorem map_leafOf
    (index : List Nat) :
    (argumentPlaces entities).map (fun placement => leafOf entities index placement.binding) =
      entities.map fun entity => entity.valueAt index := by
  have places : (argumentPlaces entities).map Placement.entity = entities :=
    map_entity_argumentPlaces
  conv_rhs => rw [← places, List.map_map]
  exact List.map_congr_left fun placement member =>
    (binds_argumentPlaces identified member).meaning index

variable (full : ∀ entity ∈ entities, entity.IsFull algebra)

include full

variable
  {Coefficient : Type}
  [CommRing Coefficient]
  [Module ℚ Coefficient]
  (leaf : List Nat → Binding → Reference.Element Coefficient)

/-- The argument at a place stands for the binding there. -/
theorem stands_leavesFrom
    (inRange : ∀ entity ∈ entities, entity.layout.InRange)
    (node place : Nat)
    (argument : Expr)
    (found : (leavesFrom node (argumentPlaces entities))[place]? = some argument) :
    argument.Stands algebra leaf (IsArgument entities) 0 fun index =>
      (((argumentPlaces entities).map fun placement =>
        leaf index placement.binding)[place]?).getD 0 := by
  rw [getElem?_leavesFrom, Option.map_eq_some_iff] at found
  rcases found with ⟨placement, isPlaced, rfl⟩
  have member := List.mem_of_getElem? isPlaced
  have inEntities := (mem_argumentPlaces member).1
  have binds := binds_argumentPlaces identified member
  have values (index : List Nat) :
      (((argumentPlaces entities).map fun placement =>
          leaf index placement.binding)[place]?).getD 0 =
        leaf index placement.binding := by
    rw [List.getElem?_map, isPlaced, Option.map_some, Option.getD_some]
  simp only [values]
  have bindingInRange : placement.binding.layout.InRange := inRange _ inEntities
  exact .bind bindingInRange (full _ inEntities).agrees ⟨placement, member, binds⟩ _

/-- What a function makes of entities stands for the meaning of its body, whatever leaves mean. -/
theorem exists_tree
    (inRange : ∀ entity ∈ entities, entity.layout.InRange)
    (function : Function)
    (isOver : function.body.IsOver entities.length)
    (workspace : Workspace) :
    ∃ arguments expression between,
      Build.outcome (function.tree entities) workspace = (.ok (arguments, expression), between) ∧
        expression.Stands algebra leaf (IsArgument entities) function.body.height
          fun index =>
            function.body.meaning algebra.metric
              ((argumentPlaces entities).map fun placement => leaf index placement.binding) := by
  have agree : ∀ entity ∈ entities, entity.algebra.Agrees (algebraOf entities) := by
    intro entity member
    cases entities with
    | nil => cases member
    | cons first rest => exact (full entity member).agrees.trans (full first (.head _)).agrees.symm
  have length :
      (leavesFrom workspace.free (argumentPlaces entities)).length = entities.length := by
    rw [length_leavesFrom, argumentPlaces, placements_length, List.length_zip, List.length_map,
      Nat.min_self]
  rcases
      Formula.exists_instantiate
        (stands_leavesFrom identified full leaf inRange workspace.free)
        (length.symm ▸ isOver) [] (workspace.advancedBy entities.length) with
    ⟨expression, between, built, stands⟩
  refine
    ⟨argumentsOf workspace.free (argumentPlaces entities), expression, between, ?_, stands⟩
  have bound :
      Build.outcome (bindAll (algebraOf entities) 0 entities) workspace =
        (.ok (argumentsOf workspace.free (argumentPlaces entities)),
          workspace.advancedBy entities.length) :=
    outcome_bindAll agree (signed_of_isFull full) 0 workspace
  rw [tree, Build.outcome_bind, bound]
  dsimp only
  rw [Build.outcome_bind, argumentsOf, built]
  rfl

end Function

/-- The number of arguments of a function of the library. -/
def LibraryFunction.arity : LibraryFunction → Nat
  | .identity | .square | .reverse => 1
  | .sandwich | .product | .meet | .join | .project => 2
  | .generator | .tripleProduct => 3
  | .exponential => 4

/-- The formulas of the library are over their arguments. -/
theorem LibraryFunction.isOver
    (function : LibraryFunction) :
    function.body.IsOver function.arity := by
  cases function <;> simp [body, Formula.IsOver, arity, BinaryOperator.operation?]

/--
Room for calls of the library with entities of an algebra at the indices of a batch: the
stack holds the operations of its formulas, and numbers on all blades fit into memory.
-/
structure Limits.HasRoomFor
    (limits : Limits)
    (algebra : Algebra)
    (batch : List Nat) :
    Prop where
  stack : ∀ function : LibraryFunction, limits.stack.Holds function.body.height
  tensors :
    ∀ width ≤ algebra.bladeCount,
      Tensor.isRepresentable limits.capacity (batch ++ [width]) = true

/-- The usual stack holds the formulas of the library. -/
theorem Limits.holds_usual
    (function : LibraryFunction) :
    Limits.usual.stack.Holds function.body.height := by
  cases function <;> decide

/-- The blades of an expression are among those of its algebra. -/
theorem Expr.length_blades_le
    {expression : Expr}
    (wellFormed : expression.WellFormed)
    {value : Multivector}
    (evaluated : expression.evaluate = .ok value) :
    value.blades.length ≤ expression.algebra.bladeCount := by
  have denotes := denotes_of_evaluate wellFormed evaluated
  have among : value.blades ⊆ List.range expression.algebra.bladeCount := by
    intro blade member
    rcases Multivector.mem_blades.1 member with ⟨entry, inEntries, rfl⟩
    rw [List.mem_range, ← denotes.algebra]
    exact denotes.inRange.blades entry inEntries
  simpa using (value.blades_sortedLT.nodup.subperm among).length_le

namespace Compute

omit [CommRing Number] [Module ℚ Number] in
theorem outcome_applyLibrary
    (function : LibraryFunction)
    (entities : List (Entity Number))
    (context : Context Number) :
    outcome (applyLibrary function entities) context =
      outcome (computeWith context.config function.toFunction entities) context := by
  rw [applyLibrary, Compute.apply, computeWith, outcome_bind, outcome_bind, outcome_compile]

end Compute

/-! ## Calls that succeed -/

omit [CommRing Number] [Module ℚ Number] in
/-- A program that runs finds a common batch of its entities. -/
theorem Program.exists_broadcast
    {program : Program Number}
    {entities : List (Entity Number)}
    {standard : ElementType}
    {storage : Tensor Number}
    (ran : program.run standard entities = .ok storage) :
    ∃ batch, Tensor.commonShape (entities.map Entity.batchShape) = .ok batch ∧
      storage.shape = batch ++ [program.blades.length] := by
  unfold run at ran
  split at ran
  · cases ran
  · rcases exists_of_bind_eq_ok ran with ⟨columns, _, ran⟩
    rcases exists_of_bind_eq_ok ran with ⟨batch, broadcast, ran⟩
    rcases exists_of_bind_eq_ok ran with ⟨slots, found, made⟩
    cases made
    have length := (mapM_eq_ok.1 found).length_eq
    rw [List.length_range] at length
    exact ⟨batch, broadcast, by simp [Tensor.stack, Tensor.ofFn, length]⟩

section Called

variable
  [ExactArithmetic Number]
  {algebra : Algebra}
  {entities : List (Entity Number)}

/-- An entity that has been computed shows that there was a common batch and room for it. -/
theorem World.Faithful.exists_room
    {function : Function}
    {callers : Set Limits}
    {world : World Number}
    {arguments : Function.Arguments}
    {expression : Expr}
    {between : Workspace}
    (faithful : Faithful function callers world)
    (closed : function.IsClosed Number)
    (captured : function.body.Within (.existing world.graph))
    (identified : Identified entities)
    (full : ∀ entity ∈ entities, entity.IsFull expression.algebra)
    (returned :
      Build.outcome (function.tree entities) world.context.workspace =
        (.ok (arguments, expression), between))
    (wellFormed : expression.WellFormed)
    {settings : Config}
    {result : Entity Number}
    (computed :
      (outcome (computeWith settings function entities) world.context).1 = .ok result) :
    ∃ batch, Tensor.commonShape (entities.map Entity.batchShape) = .ok batch ∧
      ∀ value, expression.evaluate = .ok value →
        Tensor.isRepresentable world.context.limits.capacity (batch ++ [value.blades.length]) =
          true := by
  have leads :=
    (compiled_outcome settings function entities world.context).leads faithful.sound captured
  have cases :=
    faithful.compiled_cases closed captured identified full returned wellFormed
      (compiled_outcome settings function entities world.context)
  rw [computeWith, outcome_bind] at computed
  generalize outcome (compileWith settings function entities) world.context = reached
    at cases computed leads
  rcases reached with ⟨handedOut, behind⟩
  cases cases with
  | tooDeep => cases computed
  | @ok program holding =>
      have sameLimits : behind.limits = world.context.limits := leads.extended.limits
      rcases holding with ⟨value, identity, spelling, evaluated, same⟩
      dsimp only at computed
      rw [outcome_execute, sameLimits] at computed
      cases stored :
        program.stored world.context.limits.capacity behind.config.elementType entities with
      | error error =>
          rw [stored] at computed
          cases computed
      | ok found =>
          rcases exists_of_bind_eq_ok stored with ⟨storage, ran, checked⟩
          rcases Program.exists_broadcast ran with ⟨batch, broadcast, shape⟩
          refine ⟨batch, broadcast, fun other otherEvaluated => ?_⟩
          have sameValue : value = other := Except.ok.inj (evaluated.symm.trans otherEvaluated)
          have blades : program.blades = other.blades := sameValue ▸ same.blades
          rw [← blades, ← shape]
          by_contra notRepresentable
          rw [Bool.not_eq_true] at notRepresentable
          rw [notRepresentable] at checked
          cases checked

/-- What a formula of placed entities is reduced to: a canonical multivector with its meaning. -/
structure Formula.ReducesTo
    (metric : Metric)
    (placed : List (Placement Number))
    (formula : Formula)
    (value : Multivector) :
    Prop where
  canonical : IsCanonical value.entries
  valueAt :
    ∀ {Coefficient : Type} [CommRing Coefficient] [Module ℚ Coefficient]
      (assignment : SourceId → Coefficient),
      value.valueAt assignment =
        formula.meaning metric
          (placed.map fun placement => placement.binding.valueAt assignment)

namespace Compute

/-- The entity that a function of the library makes of others. -/
structure Called
    (algebra : Algebra)
    (function : LibraryFunction)
    (entities : List (Entity Number))
    (context : Context Number)
    (result : Entity Number)
    (behind : Context Number) :
    Prop where
  isNew : result.IsNew context behind
  generic : result.layout.kind = .generic
  broadcast : Tensor.commonShape (entities.map Entity.batchShape) = .ok result.batchShape
  represents :
    result.Represents algebra result.batchShape fun index =>
      function.body.meaning algebra.metric (entities.map fun entity => entity.valueAt index)
  blades :
    ∃ value,
      function.body.ReducesTo algebra.metric (argumentPlaces entities) value ∧
        result.layout.elements = value.blades

/-- A call of the library makes an entity that stands for the meaning of the body. -/
theorem ensures_applyLibrary
    {limits : Limits}
    {context : Context Number}
    (ready : context.IsReady limits)
    (identified : Identified entities)
    (full : ∀ entity ∈ entities, entity.IsFull algebra)
    (inRange : ∀ entity ∈ entities, entity.layout.InRange)
    {certain : Prop}
    (room :
      certain →
        ∃ batch, Tensor.commonShape (entities.map Entity.batchShape) = .ok batch ∧
          limits.HasRoomFor algebra batch)
    (function : LibraryFunction)
    (isOver : function.body.IsOver entities.length) :
    (applyLibrary function entities).Ensures limits certain context
      (Called algebra function entities context) := by
  rcases ready with ⟨rfl, graph, faithful⟩
  rcases
      Function.exists_tree identified full (Function.leafOf entities) inRange function.toFunction
        isOver context.workspace with
    ⟨arguments, expression, between, returned, stands⟩
  have isReady : context.IsReady context.limits := ⟨rfl, graph, faithful⟩
  have agree : ∀ entity ∈ entities, entity.IsFull expression.algebra := fun entity member =>
    ⟨(full entity member).agrees.trans stands.agrees.symm, (full entity member).width⟩
  have roomFor {batch : List Nat} (room : context.limits.HasRoomFor algebra batch)
      (value : Multivector) (evaluated : expression.evaluate = .ok value) :
      Tensor.isRepresentable context.limits.capacity (batch ++ [value.blades.length]) = true :=
    room.tensors _
      (stands.agrees.bladeCount_eq ▸ Expr.length_blades_le stands.wellFormed evaluated)
  have computed {batch : List Nat}
      (broadcast : Tensor.commonShape (entities.map Entity.batchShape) = .ok batch)
      (room :
        ∀ value, expression.evaluate = .ok value →
          Tensor.isRepresentable context.limits.capacity (batch ++ [value.blades.length]) =
            true) :=
    (faithful function).computed function.isClosed (function.within graph) identified agree returned
      stands.wellFormed broadcast stands.leaves room context.config
  have low (holds : context.limits.stack.Holds function.body.height) :
      context.limits.stack.Holds (expression.heightAbove between.keeps) :=
    (Nat.add_le_add_right (stands.low between.keeps) _).trans_lt holds
  have isKept := isReady.computed function context.config entities
  refine ⟨?_, ?_, fun isCertain => ?_, fun result isResult => ?_⟩ <;>
    rw [outcome_applyLibrary] at *
  · exact isKept
  · exact (isReady.extends_computed function context.config entities).free
  · rcases room isCertain with ⟨batch, broadcast, hasRoom⟩
    rcases (computed broadcast (roomFor hasRoom)).exists_ok (low (hasRoom.stack function)) with
      ⟨result, isResult, _⟩
    exact ⟨result, isResult⟩
  · rcases
        (faithful function).exists_room function.isClosed (function.within graph) identified agree
          returned stands.wellFormed isResult with
      ⟨batch, broadcast, fits⟩
    have isHeld := computed broadcast fits
    rw [isResult] at isHeld
    replace isHeld := isHeld.of_ok
    have represents := isHeld.represents stands.wellFormed stands.agrees
    have batchShape : result.batchShape = batch := represents.batchShape_eq
    refine
      { isNew := isReady.isNew (Prod.ext isResult rfl)
        generic := isHeld.kind
        broadcast := batchShape.symm ▸ broadcast
        represents := batchShape.symm ▸ represents.congr fun index _ => ?_
        blades := ?_ }
    · rw [stands.interpret index, Function.map_leafOf identified]
      rfl
    · rcases isHeld.elements with ⟨value, evaluated, same⟩
      refine ⟨value, ⟨(Expr.denotes_of_evaluate stands.wellFormed evaluated).canonical, ?_⟩, same⟩
      intro Coefficient _ _ assignment
      rcases
          Function.exists_tree identified full (fun _ => Binding.valueAt assignment) inRange
            function.toFunction isOver context.workspace with
        ⟨_, _, _, again, others⟩
      rw [returned] at again
      cases again
      rw [Expr.valueAt_evaluate stands.wellFormed evaluated stands.agrees]
      exact others.interpret []

/-- Storage for which there is room makes a new entity with the same entries. -/
theorem ensures_wrap
    {limits : Limits}
    {context : Context Number}
    (ready : context.IsReady limits)
    {layout : Layout}
    {storage : Tensor Number}
    (width : storage.shape.getLast? = some layout.width)
    {certain : Prop}
    (room : certain → Tensor.isRepresentable limits.capacity storage.shape = true) :
    (wrap layout storage).Ensures limits certain context fun result behind =>
      result.IsNew context behind ∧ result.layout = layout ∧
        result.storage.shape = storage.shape ∧
        ∀ index, result.storage.get index = storage.get index := by
  rw [← ready.limits_eq] at room
  by_cases representable :
    Tensor.isRepresentable context.limits.capacity storage.shape = true
  · rcases Entity.exists_checkStorage width representable context.config.elementType with
      ⟨checked, passed, shape, get⟩
    have reached :
        outcome (wrap layout storage) context =
          (.ok ⟨context.workspace.free, layout, checked⟩,
            { context with workspace := context.workspace.advanced }) := by
      rw [outcome_wrap]
      simp [representable, passed]
    have floating :=
      Entity.isFloating_of_checkStorage context.config.isFloating_elementType passed
    refine ⟨?_, ?_, fun _ => ?_, fun result isResult => ?_⟩ <;> rw [reached] at *
    · exact ready.advanced
    · exact Nat.le_succ _
    · exact ⟨_, rfl⟩
    · cases isResult
      exact ⟨⟨le_rfl, Nat.lt_succ_self _, floating⟩, rfl, shape, get⟩
  · have reached :
        outcome (wrap layout storage) context = (.error .incompatibleShapes, context) := by
      rw [outcome_wrap]
      simp [representable]
      rfl
    refine ⟨?_, ?_, fun isCertain => absurd (room isCertain) representable, ?_⟩ <;> rw [reached]
    · exact ready
    · exact nofun

end Compute

end Called

end Versor

end

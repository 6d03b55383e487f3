import Versor.Proofs.Engine.Transparency
import Versor.Proofs.Expression.Soundness
import Versor.Proofs.Program.Meaning

/-!
# What an engine computes

In exact arithmetic an entity that an engine computes holds the meaning of the
expression which the function returns (`World.Faithful.computed`), whether its
program was kept or has just been built.  The one thing that can come in
between is a stack that does not hold the operations inside one another.
-/

noncomputable section

namespace Versor

variable {Number : Type} [CommRing Number] [Module ℚ Number] [Arithmetic Number]

/-- A result that is as it should be, or a refusal for a height that the stack does not hold. -/
inductive UnlessTooDeep
    {Result : Type}
    (stack : Stack)
    (height : Nat)
    (holds : Result → Prop) :
    Except Error Result → Prop
  | ok
    {result : Result}
    (holding : holds result) :
    UnlessTooDeep stack height holds (.ok result)
  | tooDeep
    (higher : ¬stack.Holds height) :
    UnlessTooDeep stack height holds (.error .nestedTooDeeply)

namespace UnlessTooDeep

variable
  {Result : Type}
  {stack : Stack}
  {height : Nat}
  {holds : Result → Prop}
  {outcome : Except Error Result}

theorem mono
    {weaker : Result → Prop}
    (reached : UnlessTooDeep stack height holds outcome)
    (weakens : ∀ result, holds result → weaker result) :
    UnlessTooDeep stack height weaker outcome := by
  cases reached with
  | ok holding => exact .ok (weakens _ holding)
  | tooDeep higher => exact .tooDeep higher

/-- Where the stack holds the height there is a result. -/
theorem exists_ok
    (reached : UnlessTooDeep stack height holds outcome)
    (low : stack.Holds height) :
    ∃ result, outcome = .ok result ∧ holds result := by
  cases reached with
  | ok holding => exact ⟨_, rfl, holding⟩
  | tooDeep higher => exact absurd low higher

/-- A result that is there is as it should be. -/
theorem of_ok
    {result : Result}
    (reached : UnlessTooDeep stack height holds (.ok result)) :
    holds result := by
  cases reached with
  | ok holding => exact holding

end UnlessTooDeep

/-! ## Arguments with all their slots -/

section Arguments

omit [CommRing Number] [Module ℚ Number] [Arithmetic Number]

/-- Entities of an algebra with storage of the width of their layout. -/
structure Entity.IsFull
    (algebra : Algebra)
    (entity : Entity Number) :
    Prop where
  agrees : entity.algebra.Agrees algebra
  width : entity.storage.shape.getLast? = some entity.layout.width

/-- The structure of an entity with storage of the width of its layout. -/
def Entity.fullSignature
    (entity : Entity Number) :
    Signature :=
  ⟨entity.layout, entity.layout.width⟩

/-- Where the entities are placed that a function is called with. -/
def argumentPlaces
    (entities : List (Entity Number)) :
    List (Placement Number) :=
  placements 0 (entities.zip (entities.map Entity.fullSignature))

variable {algebra : Algebra} {entities : List (Entity Number)}

theorem map_entity_argumentPlaces :
    (argumentPlaces entities).map Placement.entity = entities := by
  rw [argumentPlaces, map_entity_placements, List.map_fst_zip (by simp)]

theorem mem_argumentPlaces
    {placement : Placement Number}
    (member : placement ∈ argumentPlaces entities) :
    placement.entity ∈ entities ∧ placement.signature = placement.entity.fullSignature := by
  have pair := mem_of_mem_placements placement member
  rw [← List.map_prod_left_eq_zip] at pair
  rcases List.mem_map.1 pair with ⟨entity, inEntities, same⟩
  rcases Prod.mk.inj same with ⟨sameEntity, sameSignature⟩
  rw [← sameEntity, ← sameSignature]
  exact ⟨inEntities, rfl⟩

variable (full : ∀ entity ∈ entities, entity.IsFull algebra)

include full

theorem signed_of_isFull :
    Signed entities (entities.map Entity.fullSignature) := by
  refine List.forall₂_map_right_iff.2 (List.forall₂_same.2 fun entity member => ?_)
  simp [Entity.signature, Entity.width, (full entity member).width, Entity.fullSignature, bind,
    Except.bind]

theorem isOf_argumentPlaces :
    ∀ placement ∈ argumentPlaces entities, placement.IsOf algebra := by
  intro placement member
  rcases mem_argumentPlaces member with ⟨inEntities, signature⟩
  exact ⟨(full _ inEntities).agrees, signature, (full _ inEntities).width⟩

end Arguments

/-! ## Storage in exact arithmetic -/

section Storage

variable [ExactArithmetic Number]

/-- Storage of the width of a layout passes the checks and keeps its entries. -/
theorem Entity.exists_checkStorage
    {layout : Layout}
    {storage : Tensor Number}
    (width : storage.shape.getLast? = some layout.width)
    {capacity : Nat}
    (representable : Tensor.isRepresentable capacity storage.shape = true)
    (standard : ElementType) :
    ∃ checked, Entity.checkStorage capacity standard layout storage = .ok checked ∧
      checked.shape = storage.shape ∧ ∀ index, checked.get index = storage.get index := by
  by_cases floating : storage.type.isFloating = true
  · exact ⟨storage, by simp [checkStorage, floating, width], rfl, fun _ => rfl⟩
  · refine ⟨storage.cast standard, ?_, Tensor.shape_cast .., fun index => Tensor.get_cast ..⟩
    simp [checkStorage, floating, Tensor.shape_cast, representable, width]

/-- The entity that a program computes holds what its storage holds. -/
theorem Program.exists_stored
    {program : Program Number}
    {entities : List (Entity Number)}
    {storage : Tensor Number}
    {standard : ElementType}
    (ran : program.run standard entities = .ok storage)
    {leaf : List Nat → Binding → Reference.Element Number}
    {batch : List Nat}
    {expression : Expr}
    (isHeld : expression.IsHeldBy leaf batch program.layout storage)
    {capacity : Nat}
    (room : Tensor.isRepresentable capacity storage.shape = true) :
    ∃ stored, program.stored capacity standard entities = .ok stored ∧
      expression.IsHeldBy leaf batch program.layout stored := by
  rcases Entity.exists_checkStorage isHeld.width room standard with ⟨stored, checked, shape, get⟩
  refine ⟨stored, ?_, isHeld.congr shape get⟩
  simp [Program.stored, ran, room, checked, bind, Except.bind]

end Storage

/-! ## Building -/

namespace Function

variable
  {function : Function}
  {graph : Set Expr}
  {workspace between : Workspace}
  {entities : List (Entity Number)}
  {signatures : List Signature}
  {arguments : Arguments}
  {expression : Expr}

variable [ExactArithmetic Number]

/-- The program of a function is that of what its expression evaluates to. -/
theorem outcome_build_cases
    (sound : workspace.Sound graph)
    (captured : function.body.Within (.existing graph))
    (identified : Identified entities)
    (signed : Signed entities signatures)
    (returned :
      Build.outcome (function.tree entities) workspace = (.ok (arguments, expression), between))
    (own :
      ∀ binding ∈ expression.leaves, ∃ placement ∈ placements 0 (entities.zip signatures),
        binding = placement.binding)
    (wellFormed : expression.WellFormed)
    (validate : Bool) :
    (∃ value identity spelling behind,
        expression.evaluate = .ok value ∧
          Build.outcome (function.build entities validate) workspace =
            (.ok
                (Program.exactly identity value spelling
                  ((placements 0 (entities.zip signatures)).map Placement.input) :
                  Program Number),
              behind)) ∨
      ¬workspace.limits.stack.Holds (expression.heightAbove between.keeps) ∧
        ∃ behind,
          Build.outcome (function.build entities validate : Build (Program Number)) workspace =
            (.error .nestedTooDeeply, behind) := by
  rcases (tree_grows sound captured signed).of_outcome returned with ⟨larger, grown⟩
  rcases grown.built arguments expression rfl with ⟨sameArguments, member, _⟩
  have built :
      Build.outcome (function.build entities validate : Build (Program Number)) workspace =
        Build.outcome
          (expression.reduceUnchecked >>= fun value =>
            Program.ofReduced expression value
              ((placements 0 (entities.zip signatures)).map Placement.input))
          between := by
    rw [build_eq, Build.outcome_bind, returned, sameArguments]
    dsimp only
    rw [finish_eq function identified signed validate _ own]
  rw [built, Build.outcome_bind, ← grown.limits]
  rcases Expr.outcome_reduceUnchecked_cases grown.sound member wellFormed with
    ⟨value, behind, reduced, evaluated⟩ | ⟨higher, behind, tooDeep⟩
  · refine .inl
      ⟨value, behind.free, expression.spelling behind.results, behind.advanced, evaluated, ?_⟩
    rw [reduced]
    dsimp only
    rw [Program.outcome_ofReduced, Program.ofMultivector_eq_ok]
  · exact .inr ⟨higher, behind, by rw [tooDeep]⟩

end Function

/-! ## Computing -/

namespace World.Faithful

open Compute

variable
  {function : Function}
  {callers : Set Limits}
  {world : World Number}
  {entities : List (Entity Number)}
  {arguments : Function.Arguments}
  {expression : Expr}
  {between : Workspace}
  {leaf : List Nat → Binding → Reference.Element Number}
  {batch : List Nat}

variable [ExactArithmetic Number]

section

variable
  (faithful : Faithful function callers world)
  (closed : function.IsClosed Number)
  (captured : function.body.Within (.existing world.graph))
  (identified : Identified entities)
  (full : ∀ entity ∈ entities, entity.IsFull expression.algebra)
  (returned :
    Build.outcome (function.tree entities) world.context.workspace =
      (.ok (arguments, expression), between))
  (wellFormed : expression.WellFormed)

include faithful closed captured identified full returned wellFormed

/-- What is handed out is the program of what the expression evaluates to, if there is room. -/
theorem compiled_cases
    {settings : Config}
    {result : Except Error (Program Number)}
    {behind : Context Number}
    (compiled : Compiled settings function entities world.context result behind) :
    UnlessTooDeep world.context.limits.stack (expression.heightAbove between.keeps)
      (fun program : Program Number =>
        ∃ value identity spelling,
          expression.evaluate = .ok value ∧
            program.Same
              (.exactly identity value spelling
                ((argumentPlaces entities).map Placement.input)))
      result := by
  have signed := signed_of_isFull full
  have own := closed.placed faithful.sound captured signed returned
  have cases (validate : Bool) :=
    Function.outcome_build_cases faithful.sound captured identified signed returned own
      wellFormed validate
  cases result with
  | ok program =>
      rcases faithful.originates captured compiled with ⟨signatures, alsoSigned, originates⟩
      cases (mapM_eq_ok.2 alsoSigned).symm.trans (mapM_eq_ok.2 signed)
      rcases originates with ⟨_, _, sound, extended, within, earlierSigned, same, built⟩
      rcases
          Function.isMadeOf_of_build sound extended within earlierSigned signed same built
            returned with
        ⟨value, evaluated, remade⟩
      rcases remade 0 (expression.spelling between.results) with ⟨again, made, isSame⟩
      rw [Program.ofMultivector_eq_ok] at made
      cases made
      exact .ok ⟨value, _, _, evaluated, isSame⟩
  | error error =>
      have refusal :
          ∃ last,
            Build.outcome
                (function.build entities settings.checksBindings : Build (Program Number))
                world.context.workspace =
              (.error error, last) := by
        cases compiled with
        | unsigned failed =>
            rw [mapM_eq_ok.2 signed] at failed
            cases failed
        | failed _ _ _ built => exact ⟨_, built⟩
        | unkept _ _ built => exact ⟨_, built⟩
      rcases refusal with ⟨last, refused⟩
      rcases cases settings.checksBindings with
        ⟨_, _, _, _, _, built⟩ | ⟨higher, behind, tooDeep⟩
      · rw [built] at refused
        cases refused
      · rw [tooDeep] at refused
        cases refused
        exact .tooDeep higher

/--
An entity that an engine computes holds the meaning of the expression that the
function returns.
-/
theorem computed
    (broadcast : Tensor.commonShape (entities.map Entity.batchShape) = .ok batch)
    (leaves : expression.AllLeaves fun binding =>
      ∃ placement ∈ argumentPlaces entities, placement.Binds leaf binding)
    (room :
      ∀ value, expression.evaluate = .ok value →
        Tensor.isRepresentable world.context.limits.capacity (batch ++ [value.blades.length]) =
          true)
    (settings : Config) :
    UnlessTooDeep world.context.limits.stack (expression.heightAbove between.keeps)
      (fun result : Entity Number =>
        expression.IsHeldBy leaf batch result.layout result.storage)
      (outcome (computeWith settings function entities) world.context).1 := by
  have compiled := compiled_outcome settings function entities world.context
  have cases :=
    faithful.compiled_cases closed captured identified full returned wellFormed compiled
  have leads := compiled.leads faithful.sound captured
  rw [computeWith, outcome_bind]
  generalize outcome (compileWith settings function entities) world.context = reached
    at compiled cases leads ⊢
  rcases reached with ⟨handedOut, behind⟩
  cases cases with
  | tooDeep higher => exact .tooDeep higher
  | @ok program holding =>
      have sameLimits : behind.limits = world.context.limits := leads.extended.limits
      rcases holding with ⟨value, identity, spelling, evaluated, same⟩
      have shapes :
          (argumentPlaces entities).map (fun placement => placement.entity.batchShape) =
            entities.map Entity.batchShape := by
        rw [← congrArg (List.map Entity.batchShape) (map_entity_argumentPlaces), List.map_map]
        rfl
      rcases
          Expr.exists_run_isHeldBy (isOf_argumentPlaces full) ((placements_pairwise 0 _).imp Or.inl)
            (shapes ▸ broadcast) wellFormed leaves evaluated identity spelling
            world.context.config.elementType with
        ⟨storage, ran, isHeld⟩
      rw [map_entity_argumentPlaces] at ran
      have representable :
          Tensor.isRepresentable world.context.limits.capacity storage.shape = true := by
        rw [isHeld.shape]
        exact room value evaluated
      rcases Program.exists_stored ran isHeld representable with ⟨stored, found, isStored⟩
      dsimp only
      rw [outcome_execute, compiled.config, sameLimits, same.symm.stored found]
      exact .ok (isStored.of_plain same.layout)

end

end World.Faithful

end Versor

end

import Versor.Engine
import Versor.Proofs.Program.Sameness
import Versor.Proofs.Program.Tree

/-!
# Requests to an engine

`Compute.outcome` gives the result of a computation and the context behind
it.  A request to compile comes to one of five things (`Compiled`): a hit, a
miss after which the program is kept as far as there is room, a miss of a
program that cannot be built, a program of a function that cannot be kept,
or a refusal of an entity that has no structure.
-/

namespace Versor

variable {Number : Type}

namespace Compute

variable {Result Next : Type}

/-- The result of a computation and the context behind it. -/
def outcome
    (computation : Compute Number Result)
    (context : Context Number) :
    Except Error Result × Context Number :=
  computation.run.run context

@[simp]
theorem outcome_pure
    (result : Result)
    (context : Context Number) :
    outcome (pure result) context = (.ok result, context) :=
  rfl

@[simp]
theorem outcome_get
    (context : Context Number) :
    outcome (get : Compute Number (Context Number)) context = (.ok context, context) :=
  rfl

@[simp]
theorem outcome_ofExcept
    (result : Except Error Result)
    (context : Context Number) :
    outcome (ofExcept result) context = (result, context) :=
  rfl

@[simp]
theorem outcome_modifyEngine
    (change : Engine Number → Engine Number)
    (context : Context Number) :
    outcome (modifyEngine change) context =
      (.ok ⟨⟩, { context with engine := change context.engine }) :=
  rfl

@[simp]
theorem outcome_build
    (step : Build Result)
    (context : Context Number) :
    outcome (build step) context =
      ((Build.outcome step context.workspace).1,
        { context with workspace := (Build.outcome step context.workspace).2 }) :=
  rfl

/-- The second of two computations takes place behind the first one, unless that fails. -/
theorem outcome_bind
    (computation : Compute Number Result)
    (next : Result → Compute Number Next)
    (context : Context Number) :
    outcome (computation >>= next) context =
      match outcome computation context with
      | (.ok result, behind) => outcome (next result) behind
      | (.error error, behind) => (.error error, behind) := by
  unfold outcome
  rw [ExceptT.run_bind, StateT.run_bind]
  generalize StateT.run (ExceptT.run computation) context = reached
  rcases reached with ⟨result, behind⟩
  cases result <;> rfl

end Compute

/-! ## Kept programs -/

namespace Engine

variable {engine : Engine Number} {key : CacheKey} {program : Program Number}

theorem mem_of_mem_without
    {programs : List (CacheKey × Program Number)}
    {entry : CacheKey × Program Number}
    (member : entry ∈ without key programs) :
    entry ∈ programs :=
  List.mem_of_mem_filter member

theorem mem_of_mem_within
    {bound? : Option Nat}
    {programs : List (CacheKey × Program Number)}
    {entry : CacheKey × Program Number}
    (member : entry ∈ within bound? programs) :
    entry ∈ programs := by
  cases bound? with
  | none => exact member
  | some bound => exact List.mem_of_mem_take member

/-- What is found under a key has been kept under it. -/
theorem mem_of_find?
    (found : engine.find? key = some program) :
    (key, program) ∈ engine.programs := by
  rw [find?] at found
  rcases List.lookup_eq_some_iff.1 found with ⟨before, after, split, _⟩
  rw [split]
  exact List.mem_append_right _ (List.mem_cons_self)

/-- A hit keeps no new program. -/
theorem mem_of_mem_recordHit
    (found : engine.find? key = some program)
    {entry : CacheKey × Program Number}
    (member : entry ∈ (engine.recordHit key program).programs) :
    entry ∈ engine.programs := by
  rcases List.mem_cons.1 member with rfl | other
  · exact mem_of_find? found
  · exact mem_of_mem_without other

/-- Keeping a program keeps no other new one. -/
theorem mem_of_mem_insert
    {settings : Config}
    {entry : CacheKey × Program Number}
    (member : entry ∈ (engine.insert settings key program).programs) :
    entry = (key, program) ∨ entry ∈ engine.programs := by
  rw [insert] at member
  split at member
  · rcases List.mem_cons.1 (mem_of_mem_within member) with same | other
    · exact .inl same
    · exact .inr (mem_of_mem_without other)
  · exact .inr member

end Engine

/-! ## Compiling -/

namespace Compute

variable [Arithmetic Number]

/-- What a request to compile a function for entities comes to. -/
inductive Compiled
    (settings : Config)
    (function : Function)
    (entities : List (Entity Number))
    (context : Context Number) :
    Except Error (Program Number) → Context Number → Prop
  | unsigned
    {error : Error}
    (failed : entities.mapM Entity.signature = .error error) :
    Compiled settings function entities context (.error error) context
  | hit
    {signatures : List Signature}
    {program : Program Number}
    (hashable : function.isHashable = true)
    (signed : Signed entities signatures)
    (found :
      context.engine.find? ⟨function.key, signatures.map Signature.plain⟩ = some program) :
    Compiled settings function entities context (.ok program)
      { context with
        engine :=
          context.engine.recordHit ⟨function.key, signatures.map Signature.plain⟩ program }
  | missed
    {signatures : List Signature}
    {program : Program Number}
    {workspace : Workspace}
    (hashable : function.isHashable = true)
    (signed : Signed entities signatures)
    (absent :
      context.engine.find? ⟨function.key, signatures.map Signature.plain⟩ = none)
    (built :
      Build.outcome (function.build entities settings.checksBindings) context.workspace =
        (.ok program, workspace)) :
    Compiled settings function entities context (.ok program)
      { context with
        engine :=
          context.engine.recordMiss.insert settings
            ⟨function.key, signatures.map Signature.plain⟩ program
        workspace := workspace }
  | failed
    {signatures : List Signature}
    {error : Error}
    {workspace : Workspace}
    (hashable : function.isHashable = true)
    (signed : Signed entities signatures)
    (absent :
      context.engine.find? ⟨function.key, signatures.map Signature.plain⟩ = none)
    (built :
      Build.outcome
          (function.build entities settings.checksBindings : Build (Program Number))
          context.workspace =
        (.error error, workspace)) :
    Compiled settings function entities context (.error error)
      { context with engine := context.engine.recordMiss, workspace := workspace }
  | unkept
    {signatures : List Signature}
    {result : Except Error (Program Number)}
    {workspace : Workspace}
    (unhashable : function.isHashable = false)
    (signed : Signed entities signatures)
    (built :
      Build.outcome (function.build entities settings.checksBindings) context.workspace =
        (result, workspace)) :
    Compiled settings function entities context result
      { context with workspace := workspace }

theorem compiled_outcome
    (settings : Config)
    (function : Function)
    (entities : List (Entity Number))
    (context : Context Number) :
    Compiled settings function entities context
      (outcome (compileWith settings function entities) context).1
      (outcome (compileWith settings function entities) context).2 := by
  unfold compileWith
  rw [outcome_bind, outcome_ofExcept]
  cases signed : entities.mapM Entity.signature with
  | error error => exact .unsigned signed
  | ok signatures =>
      have signed := mapM_eq_ok.1 signed
      dsimp only
      split
      · next hashable =>
        rw [outcome_bind, outcome_get]
        dsimp only
        split
        · next program found => exact .hit hashable signed found
        · next absent =>
          rw [outcome_bind, outcome_modifyEngine]
          dsimp only
          rw [outcome_bind, outcome_build]
          dsimp only
          cases built :
            Build.outcome
              (function.build entities settings.checksBindings : Build (Program Number))
              context.workspace with
          | mk result workspace =>
              cases result with
              | error error => exact .failed hashable signed absent built
              | ok program => exact .missed hashable signed absent built
      · next unhashable => exact .unkept (Bool.eq_false_iff.2 unhashable) signed rfl

/-- A request to compile leaves the configuration as it is. -/
theorem Compiled.config
    {settings : Config}
    {function : Function}
    {entities : List (Entity Number)}
    {context behind : Context Number}
    {result : Except Error (Program Number)}
    (compiled : Compiled settings function entities context result behind) :
    behind.config = context.config := by
  cases compiled <;> rfl

/-- A program that can be built can be compiled. -/
theorem exists_compiled_of_build
    {settings : Config}
    {function : Function}
    {entities : List (Entity Number)}
    {context : Context Number}
    {fresh : Program Number}
    {workspace : Workspace}
    (built :
      Build.outcome (function.build entities settings.checksBindings) context.workspace =
        (.ok fresh, workspace)) :
    ∃ program,
      (outcome (compileWith settings function entities) context).1 = .ok program := by
  have compiled := compiled_outcome settings function entities context
  generalize outcome (compileWith settings function entities) context = reached at compiled ⊢
  rcases reached with ⟨result, behind⟩
  cases compiled with
  | unsigned failed =>
      have treeBuilt := built
      rw [Function.build_eq] at treeBuilt
      rcases Build.exists_of_outcome_bind treeBuilt with ⟨_, _, returned, _⟩
      rcases Function.exists_signed_of_tree returned with ⟨signatures, signed, _⟩
      rw [failed] at signed
      cases signed
  | @hit _ program => exact ⟨program, rfl⟩
  | @missed _ program => exact ⟨program, rfl⟩
  | failed _ _ _ refused =>
      rw [built] at refused
      cases refused
  | unkept _ _ same =>
      rw [built] at same
      cases same
      exact ⟨fresh, rfl⟩

/-! ## Running -/

/-- Compile a function under settings and run it on the entities. -/
def computeWith
    (settings : Config)
    (function : Function)
    (entities : List (Entity Number)) :
    Compute Number (Entity Number) := do
  let program ← compileWith settings function entities
  execute program entities

/-- An entity with storage that passes the checks takes a number. -/
theorem outcome_wrap
    (layout : Layout)
    (storage : Tensor Number)
    (context : Context Number) :
    outcome (wrap layout storage) context =
      match
        (do
          if !Tensor.isRepresentable context.limits.capacity storage.shape then
            throw .incompatibleShapes
          Entity.checkStorage context.limits.capacity context.config.elementType layout storage :
          Except Error (Tensor Number)) with
      | .ok checked =>
          (.ok ⟨context.workspace.free, layout, checked⟩,
            { context with workspace := context.workspace.advanced })
      | .error error => (.error error, context) := by
  have given :
      outcome (wrapGiven layout storage) context =
        match
          Entity.checkStorage context.limits.capacity context.config.elementType layout storage
        with
        | .ok checked =>
            (.ok ⟨context.workspace.free, layout, checked⟩,
              { context with workspace := context.workspace.advanced })
        | .error error => (.error error, context) := by
    unfold wrapGiven
    rw [outcome_bind, outcome_get]
    dsimp only
    rw [outcome_bind, outcome_ofExcept]
    cases Entity.checkStorage context.limits.capacity context.config.elementType layout storage <;>
      rfl
  rw [wrap, outcome_bind, outcome_get]
  dsimp only
  by_cases representable :
    Tensor.isRepresentable context.limits.capacity storage.shape = true
  · simp only [representable]
    exact given
  · simp only [representable]
    rfl

/-- The entity that a program computes takes a number. -/
theorem outcome_execute
    (program : Program Number)
    (entities : List (Entity Number))
    (context : Context Number) :
    outcome (execute program entities) context =
      match program.stored context.limits.capacity context.config.elementType entities with
      | .ok storage =>
          (.ok ⟨context.workspace.free, program.layout, storage⟩,
            { context with workspace := context.workspace.advanced })
      | .error error => (.error error, context) := by
  unfold execute Program.stored
  rw [outcome_bind, outcome_get]
  dsimp only
  rw [outcome_bind, outcome_ofExcept]
  cases program.run context.config.elementType entities with
  | error error => rfl
  | ok storage =>
      dsimp only
      rw [outcome_wrap]
      rfl

end Compute
end Versor

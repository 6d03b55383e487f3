import Versor.Proofs.Engine.Library

/-!
# The algebra of what is computed

What an engine computes from entities is over their algebra, whatever is kept in
it: a program runs on entities of its own algebra only, and the result is over
that algebra (`Compute.of_outcome_apply`).  So nothing can be computed from entities
of different algebras.  A function of the library refuses them for that reason
(`Compute.outcome_applyLibrary_of_differ`), as no program is built for them, nor kept.
-/

namespace Versor

open Compute

variable {Number : Type}

/-! ## Building -/

namespace Function

variable [Arithmetic Number]

/-- Entities that a program is built for are of one algebra. -/
theorem agree_of_build
    {function : Function}
    {entities : List (Entity Number)}
    {validate : Bool}
    {workspace behind : Workspace}
    {program : Program Number}
    (built :
      Build.outcome (function.build entities validate) workspace = (.ok program, behind)) :
    ∀ entity ∈ entities, entity.algebra.Agrees (algebraOf entities) := by
  rw [build_eq] at built
  rcases Build.exists_of_outcome_bind built with ⟨tree, between, returned, _⟩
  rcases Build.exists_of_outcome_bind returned with ⟨arguments, bound, binding, _⟩
  have spec := (bindAll_spec (algebraOf entities) 0 entities workspace).of_outcome binding
  intro entity member
  exact (spec.2 arguments rfl entity member).1

/-- No program is built for two entities of different algebras. -/
theorem outcome_build_of_differ
    (function : Function)
    {left right : Entity Number}
    {signature : Signature}
    (signed : left.signature = .ok signature)
    (differ : ¬ right.algebra.Agrees left.algebra)
    (validate : Bool)
    (workspace : Workspace) :
    (Build.outcome (function.build [left, right] validate : Build (Program Number)) workspace).1 =
      .error (.entitiesOfAlgebras left.algebra.metric right.algebra.metric) := by
  have refused :
      Build.outcome (bindAll left.algebra 0 [left, right]) workspace =
        (.error (.entitiesOfAlgebras left.algebra.metric right.algebra.metric),
          workspace.advanced) := by
    rw [bindAll_cons rfl]
    simp only [Build.outcome_bind, Build.outcome_fresh, Build.outcome_ofExcept, signed,
      bindAll_cons_of_not_agrees differ]
    rfl
  have sameAlgebra : algebraOf [left, right] = left.algebra := rfl
  rw [build_eq, Build.outcome_bind, tree, Build.outcome_bind, sameAlgebra, refused]

end Function

/-! ## Running -/

namespace Program

variable [Arithmetic Number] {program : Program Number}

theorem agrees_of_collect
    {columns result : Columns Number}
    {pairs : List (Entity Number × Input)}
    (collected : program.collect columns pairs = .ok result) :
    ∀ pair ∈ pairs, pair.1.algebra.Agrees program.algebra := by
  induction pairs generalizing columns with
  | nil => simp
  | cons pair rest inductionHypothesis =>
      rcases pair with ⟨entity, input⟩
      rw [collect] at collected
      split at collected
      · cases collected
      · next agrees =>
        rcases exists_of_bind_eq_ok collected with ⟨signature, _, collected⟩
        split at collected
        · cases collected
        · exact List.forall_mem_cons.2 ⟨not_not.1 agrees, inductionHypothesis collected⟩

/-- A program runs on entities of its own algebra only. -/
theorem agrees_of_run
    {standard : ElementType}
    {entities : List (Entity Number)}
    {result : Tensor Number}
    (ran : program.run standard entities = .ok result) :
    ∀ entity ∈ entities, entity.algebra.Agrees program.algebra := by
  unfold run at ran
  split at ran
  · cases ran
  · next arity =>
    rcases exists_of_bind_eq_ok ran with ⟨columns, collected, _⟩
    intro entity member
    rw [← List.map_fst_zip (not_not.1 arity).le] at member
    rcases List.mem_map.1 member with ⟨pair, inPairs, rfl⟩
    exact agrees_of_collect collected pair inPairs

end Program

/-! ## Computing -/

namespace Compute

variable [Arithmetic Number] {context behind : Context Number}

/-- What is computed is a generic entity over the algebra of the entities it is computed from. -/
theorem of_outcome_apply
    {function : Function}
    {entities : List (Entity Number)}
    {result : Entity Number}
    (computed : outcome (Compute.apply function entities) context = (.ok result, behind)) :
    result.layout.kind = .generic ∧
      ∀ entity ∈ entities, entity.algebra.Agrees result.algebra := by
  rw [Compute.apply, outcome_bind] at computed
  split at computed
  · next program between _ =>
    rw [outcome_execute] at computed
    cases stored :
      program.stored between.limits.capacity between.config.elementType entities with
    | error error =>
        rw [stored] at computed
        cases computed
    | ok storage =>
        rw [stored] at computed
        cases computed
        rcases exists_of_bind_eq_ok stored with ⟨tensor, ran, _⟩
        exact ⟨rfl, Program.agrees_of_run ran⟩
  · cases computed

/-- A function of the library refuses two entities of different algebras. -/
theorem outcome_applyLibrary_of_differ
    {limits : Limits}
    (ready : context.IsReady limits)
    {left right : Entity Number}
    {signatures : List Signature}
    (signed : Signed [left, right] signatures)
    (differ : ¬ right.algebra.Agrees left.algebra)
    (function : LibraryFunction) :
    (outcome (applyLibrary function [left, right]) context).1 =
      .error (.entitiesOfAlgebras left.algebra.metric right.algebra.metric) := by
  rcases ready.faithful with ⟨graph, faithful⟩
  rcases List.forall₂_cons_left_iff.1 signed with ⟨_, _, leftSigned, _⟩
  have refused (validate : Bool) :=
    Function.outcome_build_of_differ function.toFunction leftSigned differ validate
      context.workspace
  rw [outcome_applyLibrary, computeWith, outcome_bind]
  have compiled :=
    compiled_outcome context.config function.toFunction [left, right] context
  generalize outcome (compileWith context.config function.toFunction [left, right]) context =
    reached at compiled ⊢
  rcases reached with ⟨result, between⟩
  cases compiled with
  | unsigned failed =>
      rw [mapM_eq_ok.2 signed] at failed
      cases failed
  | hit hashable otherSigned found =>
      -- What is kept was built for entities of these structures, so for ones of one algebra.
      have originates := (faithful function).origin _ (Engine.mem_of_find? found) rfl
      rcases originates with ⟨_, _, _, _, _, earlierSigned, same, built⟩
      have alike := layoutsAlike_of_signed earlierSigned otherSigned same
      have agree := alike.agree (Function.agree_of_build built)
      exact absurd (agree right (.tail _ (.head _))) differ
  | missed _ _ _ built =>
      have failed := refused context.config.checksBindings
      rw [built] at failed
      cases failed
  | failed _ _ _ built =>
      have failed := refused context.config.checksBindings
      rw [built] at failed
      cases failed
      rfl
  | unkept _ _ built =>
      have failed := refused context.config.checksBindings
      rw [built] at failed
      cases failed
      rfl

end Compute
end Versor

import Versor.Proofs.Engine.History
import Versor.Proofs.Engine.Transparency

/-!
# Expressions over foreign entities

A function may return an expression over a binding that was made elsewhere, which is
none of those of its arguments.  No program is built of such an expression
(`Function.outcome_build_of_foreign`), but an engine looks for a program before it
builds one: the expression is refused exactly if none is kept for the function and
the structures of the entities (`History.refusesForeign`).
-/

namespace Versor

open Compute

variable {Number : Type}

/-! ## Building -/

namespace Function

/-- A function returns an expression with a leaf that is none of the bound arguments. -/
structure ReturnsForeign
    (function : Function)
    (entities : List (Entity Number))
    (workspace : Workspace)
    (arguments : Arguments)
    (expression : Expr)
    (behind : Workspace) :
    Prop where
  returned :
    Build.outcome (function.tree entities) workspace = (.ok (arguments, expression), behind)
  foreign :
    ∃ leaf ∈ expression.leaves, ∀ binding ∈ arguments.bindings,
      ¬ (leaf.entity = binding.entity ∧ leaf.first.value = binding.first.value)

variable
  {function : Function}
  {entities : List (Entity Number)}
  {workspace behind : Workspace}
  {arguments : Arguments}
  {expression : Expr}

/-- No program is built of an expression over a foreign entity. -/
theorem outcome_build_of_foreign
    [Arithmetic Number]
    (returns : function.ReturnsForeign entities workspace arguments expression behind)
    (validate : Bool) :
    Build.outcome (function.build entities validate : Build (Program Number)) workspace =
      (.error (.foreignBinding function.name), behind) := by
  rcases returns with ⟨returned, leaf, member, beyond⟩
  have isForeign :
      (expression.leaves.any fun leaf =>
        !(arguments.bindings.any (Expr.sameBinding leaf))) = true := by
    refine List.any_eq_true.2 ⟨leaf, member, ?_⟩
    rw [Bool.not_eq_true', List.any_eq_false]
    exact fun binding isBinding same =>
      beyond binding isBinding (Expr.sameBinding_iff.1 same)
  rw [build_eq, Build.outcome_bind, returned]
  dsimp only
  rw [finish, if_pos isForeign]
  rfl

end Function

/-! ## Requests -/

/--
What comes of a request whose function returns an expression over a foreign entity: it is
refused where no program is kept for it, and else what was made for an earlier request is
handed out and computed with.
-/
structure RefusesForeign
    [Arithmetic Number]
    (calls : List Call)
    (settings : Config)
    (function : Function)
    (entities : List (Entity Number))
    (context : Context Number) :
    Prop where
  refused :
    (∀ key ∈ function.cacheKey? entities, key ∉ context.engine.keys) →
      (outcome (compileWith settings function entities) context).1 =
          .error (.foreignBinding function.name) ∧
        (outcome (computeWith settings function entities) context).1 =
          .error (.foreignBinding function.name)
  kept :
    ∀ key ∈ function.cacheKey? entities, key ∈ context.engine.keys →
      key ∈ usedKeys calls ∧
        ∃ program,
          context.engine.find? key = some program ∧
            (outcome (compileWith settings function entities) context).1 = .ok program ∧
            (outcome (computeWith settings function entities) context).1 =
              (outcome (execute program entities)
                (outcome (compileWith settings function entities) context).2).1

/--
At any moment, an expression over a foreign entity is refused exactly if no program is
kept for the function and the structures of the entities.
-/
theorem History.refusesForeign
    [Arithmetic Number]
    {calls : List Call}
    {context : Context Number}
    (history : History calls context)
    {function : Function}
    {entities : List (Entity Number)}
    {arguments : Function.Arguments}
    {expression : Expr}
    {behind : Workspace}
    (returns :
      function.ReturnsForeign entities context.workspace arguments expression behind)
    (settings : Config) :
    RefusesForeign calls settings function entities context := by
  have compiled := compiled_outcome settings function entities context
  rcases Function.exists_signed_of_tree returns.returned with ⟨signatures, _, signed⟩
  constructor
  case refused =>
    intro notKept
    have refused := compiled.of_not_kept signed notKept
    rw [Function.outcome_build_of_foreign returns] at refused
    exact ⟨refused, by rw [outcome_computeWith_of_error refused]⟩
  case kept =>
    intro key asked member
    rcases compiled.of_kept asked member with ⟨program, found, handedOut⟩
    exact
      ⟨history.mem_usedKeys member, program, found, handedOut,
        by rw [outcome_computeWith_of_ok handedOut]⟩

/-- A leaf for the one point, made before anything is compiled. -/
def leafOfOnePoint : Expr :=
  .bind 2 ⟨0, .point, .natural 0⟩

/-- The sum of a point and the one that the leaf stands for. -/
def addOnePoint : Function where
  key := .custom 0
  name := "addOnePoint"
  isHashable := true
  body := .binary .add (.argument 0) (.given (.ok (.expression leafOfOnePoint)))

/-- For two points, the leaf of the one point is foreign. -/
theorem addOnePoint_returnsForeign
    {workspace : Workspace}
    (later : 2 < workspace.free) :
    ∃ arguments expression behind,
      addOnePoint.ReturnsForeign [World.twoPoints] workspace arguments expression behind := by
  refine
    ⟨_,
      .binary (workspace.free + 1) .sum (.bind workspace.free ⟨1, .point, .natural 0⟩)
        leafOfOnePoint,
      _, rfl, ⟨0, .point, .natural 0⟩, ?_, ?_⟩
  · have notLeaf : 2 ≠ workspace.free := later.ne
    have notSum : 2 ≠ workspace.free + 1 := (later.trans (Nat.lt_succ_self _)).ne
    simp [Expr.leaves, Expr.leafNodes, Expr.Traversal.start, Expr.Traversal.run,
      Expr.Traversal.step, Expr.operands, Expr.leaf?, Expr.node, leafOfOnePoint, notLeaf, notSum]
  · intro binding member same
    cases List.mem_singleton.1 member
    cases same.1

/-- What is left where the leaf has been made and a program for the one point behind it. -/
def afterOnePoint : Context ℚ :=
  (outcome (compileWith .default addOnePoint [World.onePoint])
    ⟨.empty, .default, ⟨3, [], .usual⟩⟩).2

theorem afterOnePoint_later :
    2 < afterOnePoint.workspace.free := by
  decide +kernel

/-- The two points are computed with, although the function refers to the one point. -/
theorem foreign_computed :
    ∃ calls arguments expression behind,
      History calls afterOnePoint ∧
        addOnePoint.ReturnsForeign [World.twoPoints] afterOnePoint.workspace arguments expression
          behind ∧
        (outcome (compileWith .default addOnePoint [World.twoPoints]) afterOnePoint).1.isOk ∧
        (outcome (computeWith .default addOnePoint [World.twoPoints]) afterOnePoint).1.isOk := by
  rcases addOnePoint_returnsForeign afterOnePoint_later with
    ⟨arguments, expression, behind, returns⟩
  exact
    ⟨_, arguments, expression, behind, (History.start _ _).compile _ _ _, returns,
      by decide +kernel, by decide +kernel⟩

/-- The two points find the program that was made for the one point. -/
theorem refusesForeign_onePoint :
    ∃ calls arguments expression behind,
      History calls afterOnePoint ∧
        addOnePoint.ReturnsForeign [World.twoPoints] afterOnePoint.workspace arguments expression
          behind ∧
        RefusesForeign calls .default addOnePoint [World.twoPoints] afterOnePoint := by
  rcases addOnePoint_returnsForeign afterOnePoint_later with
    ⟨arguments, expression, behind, returns⟩
  have history :=
    (History.start .default ⟨3, [], .usual⟩).compile .default addOnePoint [World.onePoint]
  exact ⟨_, arguments, expression, behind, history, returns, history.refusesForeign returns _⟩

end Versor

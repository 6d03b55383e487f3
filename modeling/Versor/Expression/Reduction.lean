import Versor.Expression.Bindings
import Versor.Limits

/-!
# Reduction of expressions

`evaluate` is the meaning of a tree in terms of multivectors.  `reduceNode`
computes the same and keeps the result of every node it finishes, so a node
which several others share is reduced once.  A workspace holds the results
kept so far, the supply of numbers for new nodes and entities and the limits
that a caller leaves.  A reduction gets stuck where the stack has no room for
a further call; a node whose result is kept takes a single one.  What has been
finished until then stays kept.
-/

namespace Versor

/-- The first number that is still free, results of nodes, and the limits in force. -/
structure Workspace where
  free : Nat
  results : List (Nat × Multivector)
  limits : Limits

/-- A step that may fail and works in a workspace, which a failure does not undo. -/
abbrev Build := ExceptT Error (StateM Workspace)

namespace Build

/-- A number that no node and no entity has had. -/
def fresh : Build Nat := do
  let workspace ← get
  set { workspace with free := workspace.free + 1 }
  return workspace.free

/-- A result that may be an error, as a step. -/
def ofExcept
    {Result : Type}
    (result : Except Error Result) :
    Build Result :=
  ExceptT.mk (pure result)

end Build

namespace Expr

/-- The multivector that an expression denotes, every node computed anew. -/
def evaluate : Expr → Except Error Multivector
  | .bind _ binding => (Work.bound binding.value).run
  | .constant _ value => (Work.constant value).run
  | .unary _ operation operand => do
      let operand ← operand.evaluate
      (Work.unary operation operand).run
  | .binary _ operation left right => do
      let left ← left.evaluate
      let right ← right.evaluate
      (Work.binary operation left right).run

/-- The result kept for a node, if there is one. -/
def kept?
    (node : Nat) :
    Build (Option Multivector) := do
  return (← get).results.lookup node

/-- Keep the result of a node. -/
def keep
    (node : Nat)
    (result : Multivector) :
    Build Multivector := do
  modify fun workspace =>
    { workspace with results := (node, result) :: workspace.results }
  return result

/-- Do the work at a node, if there is room for it, and keep what it comes to. -/
def finish
    (stack : Stack)
    (room node : Nat)
    (work : Work) :
    Build Multivector := do
  if room < stack.needs work.plain then
    throw .nestedTooDeeply
  let result ← Build.ofExcept work.run
  keep node result

/--
The multivector that an expression denotes, results of nodes being kept.
`room` bounds the calls inside one another that may still be made, this one
among them.
-/
def reduceNode
    (stack : Stack)
    (room : Nat)
    (expression : Expr) :
    Build Multivector :=
  match room with
  | 0 => throw .nestedTooDeeply
  | room + 1 => do
      match ← kept? expression.node with
      | some result => return result
      | none =>
          match expression with
          | .bind node binding => finish stack room node (.bound binding.value)
          | .constant node value => finish stack room node (.constant value)
          | .unary node operation operand =>
              let operand ← reduceNode stack room operand
              finish stack room node (.unary operation operand)
          | .binary node operation left right =>
              let left ← reduceNode stack room left
              let right ← reduceNode stack room right
              finish stack room node (.binary operation left right)
termination_by structural expression

/-- Reduce an expression on the stack that is left. -/
def reduceUnchecked
    (expression : Expr) :
    Build Multivector := do
  let stack := (← get).limits.stack
  expression.reduceNode stack stack.room

/-- Reduce an expression, after a check of its bindings if that is asked for. -/
def reduce
    (widths : Nat → Except Error Nat)
    (validate : Bool)
    (expression : Expr) :
    Build Multivector := do
  if validate then
    Build.ofExcept (expression.checkBindings widths)
  expression.reduceUnchecked

end Expr

end Versor

import Versor.Expression.Perform
import Versor.Number.Power

/-!
# Limits of a run

Trees are reduced by calls inside one another, of which the interpreter allows
some number, and the callers have used up a part of it before.  The entries of a
tensor have to fit into memory.  The library knows neither of these bounds, so
they are given from outside, as what is left when a computation starts.
-/

namespace Versor

/--
What is left of the interpreter's stack.  One call reduces one node: in it the
operands are reduced, and then comes the work at the node itself, which makes
some more calls for as long as it lasts.  How many these are is up to the work,
but not to how its algebras were given.
-/
structure Stack where
  /-- How many calls may still be made inside one another. -/
  room : Nat
  /-- How many calls the work at a node makes inside one another. -/
  needs : Work → Nat
  /-- A bound on these calls, whatever the work is. -/
  margin : Nat
  needs_le : ∀ work, needs work ≤ margin

/-- Whether there is room for some operations inside one another and the work at each of them. -/
def Stack.Holds
    (stack : Stack)
    (height : Nat) :
    Prop :=
  height + stack.margin < stack.room

instance
    (stack : Stack)
    (height : Nat) :
    Decidable (stack.Holds height) :=
  inferInstanceAs (Decidable (height + stack.margin < stack.room))

/-- What the interpreter and the memory leave room for. -/
structure Limits where
  stack : Stack
  /-- How many entries a tensor may have that is asked for by its shape. -/
  capacity : Nat

namespace Limits

/-- The calls that the work at a node makes inside one another, above those of merging. -/
def usualNeeds : Work → Nat
  | .bound _ | .constant _ => 0
  | .unary (.scale _) _ => 1
  | .unary _ _ => 2
  | .binary .difference _ _ | .binary .regressive _ _ => 3
  | .binary _ _ _ => 1

theorem usualNeeds_le
    (work : Work) :
    usualNeeds work ≤ 3 := by
  unfold usualNeeds
  split <;> decide

/-- The limits of a session, whose caller is called by nobody else. -/
def usual : Limits where
  stack := ⟨986, usualNeeds, 3, usualNeeds_le⟩
  capacity := twoTo 32

end Limits

end Versor

import Versor.Literal.Given
import Versor.Multivector.Basic

/-!
# First ids

The slots of an entity have consecutive ids, of which a caller gives the
first.  It is a natural number as a rule, but may also be a truth value,
which counts as a number, or a double.  The ids that follow a double are
sums of doubles, so large ones are rounded and need not be distinct.  No id is
negative, because no first id is.
-/

namespace Versor

/-- The id of the first slot of an entity, as it was given. -/
inductive FirstId
  | natural (number : Nat)
  | truth (value : Bool)
  | real (number : Float)

namespace FirstId

/-- The first id that a literal stands for, which must be a number and not negative. -/
def ofLiteral? : Literal → Option FirstId
  | .integer value => if 0 ≤ value then some (.natural value.toNat) else none
  | .boolean value => some (.truth value)
  | .real value => if value < 0.0 then none else some (.real value)
  | _ => none

/-- The first id as it was given. -/
def given : FirstId → Literal
  | .natural number => .integer number
  | .truth value => .boolean value
  | .real number => .real number

/-- Whether the first id is no double. -/
def isWhole : FirstId → Bool
  | .real _ => false
  | _ => true

/-- The sum of the first id and a number of slots, as it is shown. -/
def following
    (first : FirstId)
    (count : Nat) :
    Literal :=
  match first with
  | .natural number => .integer (number + count : Nat)
  | .truth value => .integer ((if value then 1 else 0) + count : Nat)
  | .real number => .real (number + Float.ofNat count)

/-- The id of a slot. -/
def id
    (first : FirstId)
    (slot : Nat) :
    SourceId :=
  match first with
  | .natural number => ((number + slot : Nat) : SourceId)
  | .truth value => (((if value then 1 else 0) + slot : Nat) : SourceId)
  | .real number =>
      let sum := (ratOfFloat? (number + Float.ofNat slot)).getD 0
      if sum < 0 then 0 else sum

/-- The id of the first slot. -/
def value
    (first : FirstId) :
    SourceId :=
  first.id 0

end FirstId

end Versor

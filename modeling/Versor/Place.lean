import Versor.Error

/-!
# Places

A place in a sequence is counted from its start, or from its end when it is
negative, so `-1` is the last one.
-/

namespace Versor

/-- The position that a place among a number of members stands for. -/
def placeAmong
    (size : Nat)
    (place : Int) :
    Except Error Nat :=
  if 0 ≤ place ∧ place < (size : Int) then .ok place.toNat
  else if place < 0 ∧ -(size : Int) ≤ place then .ok (place + size).toNat
  else .error .indexRange

/-- The member of a list at a place. -/
def memberAt
    {Member : Type}
    (members : List Member)
    (place : Int) :
    Except Error Member := do
  let position ← placeAmong members.length place
  match members[position]? with
  | some found => .ok found
  | none => .error .indexRange

end Versor

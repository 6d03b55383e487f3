import Versor.Projective.Exponential

/-!
# Motions and incidence

A motor moves an entity by the sandwich product, and the result is read back
as an entity of the same type.  The exterior product intersects, the
regressive product spans, and the left contraction followed by a product
projects.
-/

namespace Versor
namespace Compute

variable {Number : Type} [RealArithmetic Number]

/-- An entity moved by a motor, as an entity of its own type. -/
def transform
    (motor entity : Entity Number) :
    Compute Number (Entity Number) := do
  let moved ← applyLibrary .sandwich [motor, entity]
  fromEntity entity.layout.kind moved

/-- The product of motors from left to right; the last one acts first. -/
def compose :
    List (Entity Number) → Compute Number (Entity Number)
  | [] => throw .noMotors
  | first :: rest => do
      let product ← rest.foldlM
        (fun product motor => applyLibrary .product [product, motor]) first
      motorOf product

/-- The reversion of an entity, as an entity of its own type. -/
def reverse
    (entity : Entity Number) :
    Compute Number (Entity Number) := do
  let reversed ← applyLibrary .reverse [entity]
  fromEntity entity.layout.kind reversed

/-- The intersection of two entities. -/
def meet
    (left right : Entity Number) :
    Compute Number (Entity Number) := do
  asPrimitive (← applyLibrary .meet [left, right])

/-- The span of two entities. -/
def join
    (left right : Entity Number) :
    Compute Number (Entity Number) := do
  asPrimitive (← applyLibrary .join [left, right])

/-- The orthogonal projection of an entity onto a plane or a line. -/
def project
    (entity target : Entity Number) :
    Compute Number (Entity Number) := do
  let projected ← applyLibrary .project [entity, target]
  fromEntity entity.layout.kind projected

/-- An entity turned about an axis through the origin, or through a center if one is given. -/
def rotate
    (entity : Entity Number)
    (angle : SlotValue Number)
    (axis : List (SlotValue Number))
    (center? : Option (List (SlotValue Number))) :
    Compute Number (Entity Number) := do
  match axis with
  | [x, y, z] =>
      let turn ← rotor angle x y z
      match center? with
      | none => transform turn entity
      | some [centerX, centerY, centerZ] =>
          let toOrigin ←
            translator (.number (RealArithmetic.ofInt (-1)))
              centerX centerY centerZ
          let fromOrigin ←
            translator (.number (RealArithmetic.ofInt 1)) centerX centerY centerZ
          let product ← applyLibrary .tripleProduct [fromOrigin, turn, toOrigin]
          let motor ← motorOf product
          transform motor entity
      | some _ => throw .centerCount
  | _ => throw .argumentCount

/-- An entity moved by a distance along a direction. -/
def translate
    (entity : Entity Number)
    (distance : SlotValue Number)
    (direction : List (SlotValue Number)) :
    Compute Number (Entity Number) := do
  match direction with
  | [x, y, z] =>
      let shift ← translator distance x y z
      transform shift entity
  | _ => throw .argumentCount

end Compute
end Versor

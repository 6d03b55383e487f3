import Versor.Projective.Conversion
import Versor.Tensor.Cell

/-!
# Named parts and text of entities

The types of projective geometry name some of their slots, or quantities
computed from them.  `normalized` is the storage of a rotor or translator
whose axis or direction has been scaled to unit length.
-/

namespace Versor

/-- A named part of an entity. -/
inductive Part
  | x
  | y
  | z
  | normal
  | distance
  | direction
  | moment
  | angle
  | axis
  | displacement
  | scalar
  | pseudoscalar
  | real
  | ideal
  | value
deriving DecidableEq

namespace Part

/-- All parts. -/
def all : List Part :=
  [.x, .y, .z, .normal, .distance, .direction, .moment, .angle, .axis, .displacement,
    .scalar, .pseudoscalar, .real, .ideal, .value]

/-- Name of a part. -/
def name : Part → String
  | .x => "x"
  | .y => "y"
  | .z => "z"
  | .normal => "normal"
  | .distance => "distance"
  | .direction => "direction"
  | .moment => "moment"
  | .angle => "angle"
  | .axis => "axis"
  | .displacement => "displacement"
  | .scalar => "scalar"
  | .pseudoscalar => "pseudoscalar"
  | .real => "real"
  | .ideal => "ideal"
  | .value => "value"

/-- The part with a given name. -/
def named?
    (name : String) :
    Option Part :=
  all.find? fun part => part.name == name

end Part

namespace Tensor

variable {Number : Type} [Arithmetic Number]

/-- A tensor with the columns from a start on replaced by those of another one. -/
def replaceColumns
    (tensor : Tensor Number)
    (start : Nat)
    (part : Tensor Number) :
    Tensor Number :=
  let count := part.shape.getLast?.getD 0
  ofFn tensor.type tensor.shape fun index =>
    let place := index.getLast?.getD 0
    if start ≤ place ∧ place < start + count then
      Arithmetic.cast tensor.type
        (part.get (index.dropLast ++ [place - start]))
    else tensor.get index

end Tensor

namespace Entity

variable {Number : Type} [RealArithmetic Number]

/-- A named part of an entity, for the types that have it. -/
def part
    (entity : Entity Number)
    (name : Part) :
    Except Error (Tensor Number) :=
  match entity.layout, name with
  | .point, .x => entity.slot 0
  | .point, .y => entity.slot 1
  | .point, .z => entity.slot 2
  | .plane, .normal => entity.slots 1 4
  | .plane, .distance => entity.slot 0
  | .line, .direction => entity.slots 0 3
  | .line, .moment => entity.slots 3 6
  | .rotor, .angle => do
      let sine ← entity.slot 1
      let cosine ← entity.slot 0
      let half ← sine.arctan2 cosine
      .ok (half.scale (RealArithmetic.ofInt 2))
  | .rotor, .axis => entity.slots 2 5
  | .translator, .displacement => do
      let distance ← entity.slots 0 1
      let direction ← entity.slots 1 4
      distance.mul direction
  | .motor, .scalar => entity.slot 0
  | .motor, .pseudoscalar => entity.slot 7
  | .dualNumber, .real => entity.slot 0
  | .dualNumber, .ideal => entity.slot 1
  | .scalar _, .value => entity.slot 0
  | _, _ => .error .missingMember

/-- Storage with the columns of a range scaled to unit length. -/
def normalizeColumns
    (entity : Entity Number)
    (start stop : Nat) :
    Except Error (Tensor Number) := do
  let direction ← entity.slots start stop
  let length ← direction.length
  let scaled ← direction.div length.withLastDimension
  .ok (entity.storage.replaceColumns start scaled)

/-- The storage of a rotor or a translator with an axis or a direction of unit length. -/
def normalized
    (entity : Entity Number) :
    Except Error (Tensor Number) :=
  match entity.layout with
  | .rotor => entity.normalizeColumns 2 5
  | .translator => entity.normalizeColumns 1 4
  | _ => .error .missingMember

/-- The single number that a scalar entity holds. -/
def single
    (entity : Entity Number) :
    Except Error Number :=
  match entity.layout with
  | .scalar _ => do
      let value ← entity.slot 0
      match value.data.toList with
      | [number] => .ok number
      | _ => .error .notSingleValue
  | _ => .error .notNumeric

end Entity

/-- Text of an entity: its blades, or its numbers when it does not list blades. -/
def Entity.render
    (entity : Entity Cell) :
    String :=
  let shape := Error.renderTuple entity.batchShape
  if entity.layout.isBladeList then
    let names := entity.layout.elements.map fun (blade : Blade) =>
      entity.algebra.bladeName (blade : Int)
    "Entity([" ++ ", ".intercalate names ++ "], shape=" ++ shape ++ ")"
  else
    entity.layout.kind.name ++ "(shape=" ++ shape ++ ", data=" ++
      entity.storage.renderEntries ++ ")"

end Versor

import Versor.Projective.Library
import Versor.Tensor.Elementwise

/-!
# Construction of entities from values

A value for a slot is a tensor, or something written down that becomes one
in the element type that is asked of it.  `stackValues` puts values side by
side: what is written down takes the floating point type that the tensors
have together, or the configured one, and all values stretch to a common
shape.
-/

namespace Versor

/-- A value for a slot of an entity. -/
inductive SlotValue (Number : Type)
  | tensor (value : Tensor Number)
  | written (read : ElementType → Except Error (Tensor Number))

namespace SlotValue

variable {Number : Type} [Arithmetic Number]

/-- A plain number as a value. -/
def number
    (entry : Number) :
    SlotValue Number :=
  .written fun type => .ok (Tensor.filled type [] entry)

/-- The element type that a value has of its own. -/
def type? : SlotValue Number → Option ElementType
  | .tensor value => some value.type
  | .written _ => none

/-- A value as a tensor of an element type. -/
def toTensor
    (type : ElementType) :
    SlotValue Number → Except Error (Tensor Number)
  | .tensor value => .ok (value.cast type)
  | .written read => read type

end SlotValue

namespace Tensor

variable {Number : Type} [Arithmetic Number]

/-- The floating point type of values put side by side. -/
def valueType
    (standard : ElementType)
    (values : List (SlotValue Number)) :
    ElementType :=
  match ElementType.promoteAll? (values.filterMap SlotValue.type?) with
  | some type => if type.isFloating then type else standard
  | none => standard

/-- Values side by side along a new last dimension. -/
def stackValues
    (capacity : Nat)
    (standard : ElementType)
    (values : List (SlotValue Number)) :
    Except Error (Tensor Number) := do
  if values.isEmpty then
    throw .noValues
  let type := valueType standard values
  let tensors ← values.mapM (SlotValue.toTensor type)
  let shape ← commonShape (tensors.map Tensor.shape)
  if isRepresentable capacity (shape ++ [values.length]) then
    .ok (stack type shape (tensors.map (stretch shape)))
  else .error .incompatibleShapes

end Tensor

namespace Compute

variable {Number : Type}

/-- The floating point type of new storage. -/
def standardType : Compute Number ElementType := do
  return (← get).config.elementType

/-- Values side by side along a new last dimension. -/
def stackValues
    [Arithmetic Number]
    (values : List (SlotValue Number)) :
    Compute Number (Tensor Number) := do
  ofExcept (Tensor.stackValues (← get).limits.capacity (← standardType) values)

/-- An entity with one value for each slot. -/
def ofValues
    [Arithmetic Number]
    (layout : Layout)
    (values : List (SlotValue Number)) :
    Compute Number (Entity Number) := do
  let storage ← stackValues values
  wrap layout storage

variable [RealArithmetic Number]

/--
The rotor of an angle and an axis, which is used as given; the cosine and the
sine of half the angle are stored.
-/
def rotor
    (angle x y z : SlotValue Number) :
    Compute Number (Entity Number) := do
  let values ← stackValues [angle, x, y, z]
  let half := (values.column 0).half
  let batch := values.shape.dropLast
  wrap .rotor
    (Tensor.stack values.type batch
      [half.cos, half.sin, values.column 1, values.column 2, values.column 3])

/-- The translator of a distance and a direction, which is used as given. -/
def translator
    (distance x y z : SlotValue Number) :
    Compute Number (Entity Number) :=
  ofValues .translator [distance, x, y, z]

/-- The dual number of two tensors. -/
def dualNumber
    (realPart idealPart : Tensor Number) :
    Compute Number (Entity Number) :=
  ofValues .dualNumber [.tensor realPart, .tensor idealPart]

/-- The motor that moves nothing. -/
def identityMotor
    (batch : List Nat)
    (type : ElementType) :
    Compute Number (Entity Number) :=
  wrap .motor
    (Tensor.ofFn type (batch ++ [8]) fun index =>
      Arithmetic.cast type
        (RealArithmetic.ofInt (if index.getLast? = some 0 then 1 else 0)))

end Compute

end Versor

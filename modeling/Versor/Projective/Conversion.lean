import Versor.Projective.Construct

/-!
# Reading entities blade by blade

`select` gives the values of an entity at chosen blades: directly from
storage where slots are coefficients of blades, and by evaluating the
identity function elsewhere.  `fromEntity` rebuilds an entity of a type from
such values.  `asPrimitive` picks the type by the grades that an entity
fills: a grade-three entity without weight is a direction, not a point.
-/

namespace Versor

namespace Entity

variable {Number : Type} [Arithmetic Number]

/-- Values at blades of an entity whose slots are coefficients; absent blades read as zero. -/
def selectSlots
    (entity : Entity Number)
    (blades : List Blade) :
    Except Error (Tensor Number) := do
  let type := entity.storage.type
  let batch := entity.batchShape
  let elements := entity.layout.elements
  let columns ← blades.mapM fun blade =>
    if elements.contains blade then entity.slot (elements.idxOf blade)
    else .ok (Tensor.filled type batch Arithmetic.zero)
  .ok (Tensor.stack type batch columns)

end Entity

namespace Compute

variable {Number : Type}

section

variable [Arithmetic Number]

/-- The generic form of an entity; entities on blade lists are their own. -/
def toEntity
    (entity : Entity Number) :
    Compute Number (Entity Number) :=
  if entity.layout.isBladeList then pure entity
  else applyLibrary .identity [entity]

/-- Values of an entity at literal blades, side by side. -/
def select
    (entity : Entity Number)
    (blades : List Literal) :
    Compute Number (Tensor Number) := do
  let source ← if entity.layout.isBladeMapped then pure entity else toEntity entity
  let blades ← ofExcept (blades.mapM source.algebra.checkBlade)
  ofExcept (source.selectSlots blades)

/-- Values of an entity at blades, side by side. -/
def selectBlades
    (entity : Entity Number)
    (blades : List Blade) :
    Compute Number (Tensor Number) :=
  select entity (blades.map fun (blade : Blade) => .integer (blade : Int))

/-- Values of an entity at one literal blade. -/
def component
    (entity : Entity Number)
    (blade : Literal) :
    Compute Number (Tensor Number) := do
  let values ← select entity [blade]
  return values.column 0

end

variable [RealArithmetic Number]

/-- Columns side by side, as storage of a layout. -/
def wrapColumns
    (layout : Layout)
    (columns : List (Tensor Number)) :
    Compute Number (Entity Number) :=
  let shape := ((columns.head?).map Tensor.shape).getD []
  wrap layout (Tensor.stack (Tensor.commonType columns) shape columns)

/-- A vector divided by its length, or itself where the length is not positive. -/
def directionOf
    (vector length : Tensor Number) :
    Except Error (Tensor Number) := do
  let lengthColumn := length.withLastDimension
  let scaled ← vector.div lengthColumn
  Tensor.choose lengthColumn.isPositive scaled vector

/-- The point with given blade values, divided by the weight. -/
def pointFrom
    (values : Tensor Number) :
    Compute Number (Entity Number) := do
  let weight := values.column 3
  let x ← ofExcept ((values.column 2).neg >>= fun entry => entry.div weight)
  let y ← ofExcept ((values.column 1).div weight)
  let z ← ofExcept ((values.column 0).neg >>= fun entry => entry.div weight)
  wrapColumns .point [x, y, z]

/-- The direction with given blade values. -/
def vectorFrom
    (values : Tensor Number) :
    Compute Number (Entity Number) := do
  let x ← ofExcept (values.column 2).neg
  let z ← ofExcept (values.column 0).neg
  wrapColumns .vector [x, values.column 1, z]

/-- The line with given values at `e23`, `e13`, `e12`, `e01`, `e02` and `e03`. -/
def lineFrom
    (values : Tensor Number) :
    Compute Number (Entity Number) := do
  let second ← ofExcept (values.column 1).neg
  wrapColumns .line
    [values.column 0, second, values.column 2, values.column 3,
      values.column 4, values.column 5]

/--
The rotor with given values at the scalar and `e12`, `e13` and `e23`: the
sine of half the angle is not negative, and a zero axis stays zero.
-/
def rotorFrom
    (values : Tensor Number) :
    Compute Number (Entity Number) := do
  let x ← ofExcept (values.column 3).neg
  let z ← ofExcept (values.column 1).neg
  let batch := values.shape.dropLast
  let scaledAxis := Tensor.stack values.type batch [x, values.column 2, z]
  let sine ← ofExcept scaledAxis.length
  let axis ← ofExcept (directionOf scaledAxis sine)
  wrapColumns .rotor
    [values.column 0, sine, axis.column 0, axis.column 1, axis.column 2]

/-- The translator with given values at the scalar and `e01`, `e02` and `e03`. -/
def translatorFrom
    (values : Tensor Number) :
    Compute Number (Entity Number) := do
  let scaled := (values.columns 1 4).scale (RealArithmetic.ofInt (-2))
  let displacement ← ofExcept (scaled.div (values.columns 0 1))
  let distance ← ofExcept displacement.length
  let direction ← ofExcept (directionOf displacement distance)
  wrapColumns .translator
    [distance, direction.column 0, direction.column 1, direction.column 2]

/-- The line with the bivector part of an entity. -/
def lineOf
    (entity : Entity Number) :
    Compute Number (Entity Number) := do
  lineFrom
    (← selectBlades entity [.e23, .e13, .e12, .e01, .e02, .e03])

/-- The motor with the even part of an entity. -/
def motorOf
    (entity : Entity Number) :
    Compute Number (Entity Number) := do
  wrap .motor (← selectBlades entity Layout.motorElements)

/-- The generic entity with the blades and the storage of an entity. -/
def genericOf
    (entity : Entity Number) :
    Compute Number (Entity Number) :=
  match entity.layout with
  | .generic _ _ _ => pure entity
  | _ => do
      let source ← toEntity entity
      wrap (.generic source.algebra source.layout.elements source.layout.spelling)
        source.storage

/-- The entity of a type with the values that an entity has on its blades. -/
def fromEntity
    (kind : Kind)
    (entity : Entity Number) :
    Compute Number (Entity Number) :=
  match kind with
  | .generic => genericOf entity
  | .scalar => do
      wrap (.scalar entity.algebra) (← selectBlades entity [0])
  | .plane => do
      wrap .plane (← selectBlades entity Layout.plane.elements)
  | .point => do pointFrom (← selectBlades entity Layout.point.elements)
  | .vector => do vectorFrom (← selectBlades entity Layout.vector.elements)
  | .line => lineOf entity
  | .rotor => do rotorFrom (← selectBlades entity Layout.rotor.elements)
  | .translator => do
      translatorFrom (← selectBlades entity Layout.translator.elements)
  | .motor => motorOf entity
  | .dualNumber => do
      wrap .dualNumber (← selectBlades entity Layout.dualNumberElements)

/-- The grade of all blades of an entity, if they have one grade. -/
def singleGrade?
    (entity : Entity Number) :
    Option Nat :=
  match distinctSorted (entity.layout.elements.map Blade.grade) with
  | [grade] => some grade
  | _ => none

/-- The primitive that an entity of a single grade is; any other entity is returned as it is. -/
def asPrimitive
    (entity : Entity Number) :
    Compute Number (Entity Number) :=
  match singleGrade? entity with
  | some 1 => fromEntity .plane entity
  | some 2 => fromEntity .line entity
  | some 3 => do
      let weight ← component entity (.integer (Blade.e123 : Nat))
      if ← ofExcept weight.allZero then fromEntity .vector entity
      else fromEntity .point entity
  | _ => pure entity

end Compute

end Versor

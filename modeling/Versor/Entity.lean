import Versor.Layout
import Versor.Tensor.Basic

/-!
# Entities

An entity is a layout together with storage of its width.  The last
dimension of the storage runs over the slots and the others form the batch.
The identity of an entity tells it from equal ones: two bindings of one
entity may share ids, those of two entities may not.
-/

namespace Versor

/-- A value with a layout. -/
structure Entity (Number : Type) where
  identity : Nat
  layout : Layout
  storage : Tensor Number

namespace Entity

variable {Number : Type} [Arithmetic Number]

/-- The algebra of an entity. -/
def algebra
    (entity : Entity Number) :
    Algebra :=
  entity.layout.algebra

/-- Width of the storage. -/
def width
    (entity : Entity Number) :
    Except Error Nat :=
  match entity.storage.shape.getLast? with
  | some width => .ok width
  | none => .error .indexRange

/-- Shape of the batch. -/
def batchShape
    (entity : Entity Number) :
    List Nat :=
  entity.storage.shape.dropLast

/-- The structure of an entity. -/
def signature
    (entity : Entity Number) :
    Except Error Signature := do
  let width ← entity.width
  .ok ⟨entity.layout, width⟩

/-- Storage for a layout: floating point numbers, with a last dimension of its width. -/
def checkStorage
    (capacity : Nat)
    (standard : ElementType)
    (layout : Layout)
    (tensor : Tensor Number) :
    Except Error (Tensor Number) :=
  let isNew := !tensor.type.isFloating
  let tensor := if isNew then tensor.cast standard else tensor
  if isNew && !Tensor.isRepresentable capacity tensor.shape then .error .incompatibleShapes
  else if tensor.shape.getLast? = some layout.width then .ok tensor
  else .error (.storageShape layout.kind.name layout.width tensor.shape)

/-- The values at one slot. -/
def slot
    (entity : Entity Number)
    (place : Nat) :
    Except Error (Tensor Number) := do
  let width ← entity.width
  if place < width then .ok (entity.storage.column place)
  else .error .indexRange

/-- The values at a range of slots, of which some may be missing. -/
def slots
    (entity : Entity Number)
    (start stop : Nat) :
    Except Error (Tensor Number) := do
  let _ ← entity.width
  .ok (entity.storage.columns start stop)

end Entity

/-- The widths of entities that are found by their identities. -/
def widthsIn
    {Number : Type}
    (find : Nat → Option (Entity Number))
    (identity : Nat) :
    Except Error Nat :=
  match find identity with
  | some entity => entity.width
  | none => .error .unresolvedName

namespace Layout

/-- The layout of a generic entity on a list of literal blades, each of them once. -/
def ofElements
    (algebra : Algebra)
    (elements : List Literal) :
    Except Error Layout := do
  let blades ← elements.mapM algebra.checkBlade
  if (distinctSorted blades).length = blades.length then
    .ok (.generic algebra blades (Literal.spelling elements))
  else
    .error (.duplicateBlades elements)

end Layout

end Versor

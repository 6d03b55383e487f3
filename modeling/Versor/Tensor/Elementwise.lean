import Versor.Tensor.Basic

/-!
# Functions of real analysis on tensors

Each function works entry by entry in the floating point type of its
operands.  Truth values cannot be negated, and a length can only be taken of
floating point numbers.  What gathers entries into one, a length or a test
of all of them, takes fewer dimensions than what works entry by entry.
-/

namespace Versor
namespace Tensor

variable {Number : Type} [RealArithmetic Number]

/-- A function of the entries which keeps their type. -/
def map
    (function : Number → Number)
    (tensor : Tensor Number) :
    Tensor Number :=
  ⟨tensor.type, tensor.shape, tensor.data.map function⟩

/-- Negation, entry by entry. -/
def neg
    (tensor : Tensor Number) :
    Except Error (Tensor Number) :=
  if tensor.type = .boolean then .error .unsupportedElements
  else .ok (tensor.map (RealArithmetic.neg tensor.type))

/-- Absolute value, entry by entry. -/
def abs
    (tensor : Tensor Number) :
    Except Error (Tensor Number) :=
  if tensor.type = .boolean then .error .unsupportedElements
  else .ok (tensor.map (RealArithmetic.abs tensor.type))

/-- A function of one real number, entry by entry. -/
def mapFloating
    (function : ElementType → Number → Number)
    (tensor : Tensor Number) :
    Tensor Number :=
  let type := tensor.type.toFloating
  ⟨type, tensor.shape,
    tensor.data.map fun entry => function type (Arithmetic.cast type entry)⟩

/-- The root, entry by entry. -/
def sqrt : Tensor Number → Tensor Number :=
  mapFloating RealArithmetic.sqrt

/-- The sine, entry by entry. -/
def sin : Tensor Number → Tensor Number :=
  mapFloating RealArithmetic.sin

/-- The cosine, entry by entry. -/
def cos : Tensor Number → Tensor Number :=
  mapFloating RealArithmetic.cos

/-- The reciprocal, entry by entry. -/
def reciprocal : Tensor Number → Tensor Number :=
  mapFloating fun type entry =>
    RealArithmetic.div type
      (Arithmetic.cast type (RealArithmetic.ofInt 1)) entry

/-- Half of a tensor, entry by entry. -/
def half : Tensor Number → Tensor Number :=
  mapFloating fun type entry =>
    RealArithmetic.div type entry
      (Arithmetic.cast type (RealArithmetic.ofInt 2))

/-- Quotient, entry by entry. -/
def div
    (left right : Tensor Number) :
    Except Error (Tensor Number) :=
  let type := (commonType [left, right]).toFloating
  zipWith type type (RealArithmetic.div type) left right

/-- The angle of points given by ordinate and abscissa. -/
def arctan2
    (ordinate abscissa : Tensor Number) :
    Except Error (Tensor Number) :=
  let type := (commonType [ordinate, abscissa]).toFloating
  zipWith type type (RealArithmetic.arctan2 type) ordinate abscissa

/-- Choose entries of one tensor where a condition holds and of another where it does not. -/
def choose
    (condition : Tensor Bool)
    (accepted rejected : Tensor Number) :
    Except Error (Tensor Number) := do
  let type := commonType [accepted, rejected]
  let shape ←
    commonShape [condition.shape, accepted.shape, rejected.shape]
  .ok (ofFn type shape fun index =>
    let place := offset condition.shape (stretchIndex condition.shape index)
    let chosen :=
      if (condition.data[place]?).getD false then
        accepted.get (stretchIndex accepted.shape index)
      else
        rejected.get (stretchIndex rejected.shape index)
    Arithmetic.cast type chosen)

/-- Where the entries satisfy a condition. -/
def test
    (condition : Number → Bool)
    (tensor : Tensor Number) :
    Tensor Bool :=
  ⟨.boolean, tensor.shape, tensor.data.map condition⟩

/-- Where the entries are less than a number, both converted to the type of the comparison. -/
def lessThan
    (tensor : Tensor Number)
    (bound : Number) :
    Tensor Bool :=
  let type := RealArithmetic.boundType tensor.type bound
  let bound := Arithmetic.cast type bound
  tensor.test fun entry => RealArithmetic.less (Arithmetic.cast type entry) bound

/-- Where the entries are positive. -/
def isPositive
    (tensor : Tensor Number) :
    Tensor Bool :=
  tensor.test fun entry => RealArithmetic.less Arithmetic.zero entry

/-- The largest number of dimensions that entries can be gathered over. -/
def maxGatheredDimensions : Nat := 64

/-- Whether all entries are zero. -/
def allZero
    (tensor : Tensor Number) :
    Except Error Bool :=
  if maxGatheredDimensions < tensor.shape.length then .error .tooManyDimensions
  else .ok (tensor.data.all RealArithmetic.isZero)

/-- Euclidean length along the last dimension, the absolute value where that is of size one. -/
def length
    (tensor : Tensor Number) :
    Except Error (Tensor Number) :=
  if tensor.type.isFloating then
    let type := tensor.type
    let width := tensor.shape.getLast?.getD 0
    if width = 1 then .ok ((tensor.column 0).map (RealArithmetic.abs type))
    else if maxGatheredDimensions < tensor.shape.length then
      .error .tooManyDimensions
    else .ok (ofFn type tensor.shape.dropLast fun index =>
      let squares := (List.range width).map fun place =>
        let entry := tensor.get (index ++ [place])
        RealArithmetic.toArithmetic.mul type entry entry
      RealArithmetic.sqrt type
        (squares.foldl (RealArithmetic.toArithmetic.add type) Arithmetic.zero))
  else
    .error .unsupportedElements

end Tensor
end Versor

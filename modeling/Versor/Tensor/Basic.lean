import Versor.Error
import Versor.Tensor.Arithmetic

/-!
# Tensors

A tensor is a table of numbers of one element type.  Its entries are kept in
row-major order, and the view that all operations are defined by is `get`,
the entry at a multi-index, with `ofFn` building a tensor from its entries.
A tensor stretches to a larger shape when its dimensions, counted from the
last one, are equal to those of the shape or are one.
-/

namespace Versor

/-- A table of numbers of one element type. -/
structure Tensor (Number : Type) where
  type : ElementType
  shape : List Nat
  data : Array Number

namespace Tensor

/-- All multi-indices of a shape, the last index running fastest. -/
def indices : List Nat → List (List Nat)
  | [] => [[]]
  | size :: rest =>
      let tails := indices rest
      (List.range size).flatMap fun first => tails.map (first :: ·)

/-- Number of entries of a shape. -/
def entryCount
    (shape : List Nat) :
    Nat :=
  shape.foldr (· * ·) 1

/--
Whether the entries of a shape can be counted in 64 digits, size by size and
up to the first one that is zero.
-/
def isCountable
    (shape : List Nat) :
    Bool :=
  entryCount (shape.takeWhile (· ≠ 0)) < twoTo 64

/--
Whether there is room for a new tensor of a shape where `capacity` entries
fit into memory: its entries are not too many, and even without any of them
its rows can be told apart.
-/
def isRepresentable
    (capacity : Nat)
    (shape : List Nat) :
    Bool :=
  entryCount shape ≤ capacity && isCountable shape &&
    entryCount (shape.tail.map (max 1)) < twoTo 63

/-- Sizes as written down, which have to be machine integers; `-1` may stand for a size. -/
def checkSizes
    (sizes : List Int) :
    Except Error Unit :=
  if sizes.any fun size => size < -(twoTo 63 : Int) ∨ (twoTo 63 : Int) ≤ size then
    .error .notNumeric
  else if sizes.any (· < -1) then .error .incompatibleShapes
  else .ok ()

/-- The shape of a new tensor from sizes as written down. -/
def checkShape
    (capacity : Nat)
    (sizes : List Int) :
    Except Error (List Nat) := do
  checkSizes sizes
  let shape := sizes.map Int.toNat
  if sizes.contains (-1) || !isRepresentable capacity shape then
    throw .incompatibleShapes
  return shape

/-- Position of a multi-index in row-major order. -/
def offset : List Nat → List Nat → Nat
  | _ :: rest, first :: others => first * entryCount rest + offset rest others
  | _, _ => 0

/-- The multi-index that an index of a larger shape falls on. -/
def stretchIndex
    (shape index : List Nat) :
    List Nat :=
  (shape.zip (index.drop (index.length - shape.length))).map fun pair =>
    if pair.1 = 1 then 0 else pair.2

/-- The common shape of two shapes given by their dimensions from the last one on. -/
def stretchReversed? : List Nat → List Nat → Option (List Nat)
  | [], others => some others
  | sizes, [] => some sizes
  | size :: sizes, other :: others => do
      let rest ← stretchReversed? sizes others
      if size = other then some (size :: rest)
      else if size = 1 then some (other :: rest)
      else if other = 1 then some (size :: rest)
      else none

/-- The smallest shape that two shapes stretch to. -/
def stretchShape?
    (left right : List Nat) :
    Option (List Nat) :=
  (stretchReversed? left.reverse right.reverse).map List.reverse

/-- The smallest shape that several shapes stretch to. -/
def commonShape
    (shapes : List (List Nat)) :
    Except Error (List Nat) :=
  match shapes.foldlM stretchShape? [] with
  | some shape => .ok shape
  | none => .error .incompatibleShapes

variable {Number : Type} [Arithmetic Number]

/-- The tensor with given entries; without any of them no size is counted through. -/
def ofFn
    (type : ElementType)
    (shape : List Nat)
    (entry : List Nat → Number) :
    Tensor Number :=
  ⟨type, shape,
    if entryCount shape = 0 then #[] else ((indices shape).map entry).toArray⟩

/-- The entry at a multi-index. -/
def get
    (tensor : Tensor Number)
    (index : List Nat) :
    Number :=
  (tensor.data[offset tensor.shape index]?).getD Arithmetic.zero

/-- Whether a tensor has at least one dimension. -/
def hasDimensions
    (tensor : Tensor Number) :
    Bool :=
  !tensor.shape.isEmpty

/-- A tensor of one repeated entry, converted to the element type. -/
def filled
    (type : ElementType)
    (shape : List Nat)
    (value : Number) :
    Tensor Number :=
  ofFn type shape fun _ => Arithmetic.cast type value

/-- A tensor of one repeated entry, which must fit the element type. -/
def fill
    (type : ElementType)
    (shape : List Nat)
    (value : Number) :
    Except Error (Tensor Number) :=
  if Arithmetic.fits type value then .ok (filled type shape value)
  else .error .entryTooLarge

/-- A tensor converted to an element type. -/
def cast
    (type : ElementType)
    (tensor : Tensor Number) :
    Tensor Number :=
  if tensor.type = type then tensor
  else ⟨type, tensor.shape, tensor.data.map (Arithmetic.cast type)⟩

/-- A tensor stretched to a larger shape. -/
def stretch
    (shape : List Nat)
    (tensor : Tensor Number) :
    Tensor Number :=
  ofFn tensor.type shape fun index => tensor.get (stretchIndex tensor.shape index)

/-- The entries at one place of the last dimension. -/
def column
    (tensor : Tensor Number)
    (place : Nat) :
    Tensor Number :=
  ofFn tensor.type tensor.shape.dropLast fun index => tensor.get (index ++ [place])

/-- The entries at a range of places of the last dimension. -/
def columns
    (tensor : Tensor Number)
    (start stop : Nat) :
    Tensor Number :=
  let width := tensor.shape.getLast?.getD 0
  let last := min stop width
  ofFn tensor.type (tensor.shape.dropLast ++ [last - start]) fun index =>
    tensor.get (index.dropLast ++ [start + index.getLast?.getD 0])

/-- Tensors of one shape side by side along a new last dimension. -/
def stack
    (type : ElementType)
    (shape : List Nat)
    (parts : List (Tensor Number)) :
    Tensor Number :=
  let parts := parts.toArray
  ofFn type (shape ++ [parts.size]) fun index =>
    match parts[index.getLast?.getD 0]? with
    | some part => Arithmetic.cast type (part.get index.dropLast)
    | none => Arithmetic.zero

/-- A tensor with a last dimension of size one added. -/
def withLastDimension
    (tensor : Tensor Number) :
    Tensor Number :=
  ⟨tensor.type, tensor.shape ++ [1], tensor.data⟩

/-- The type in which an operation on tensors is carried out. -/
def commonType
    (tensors : List (Tensor Number)) :
    ElementType :=
  ElementType.resultType
    (tensors.map fun tensor => (tensor.type, tensor.hasDimensions))

/--
An operation on two tensors entry by entry: both are stretched to their
common shape and converted to a type first.
-/
def zipWith
    (type result : ElementType)
    (operation : Number → Number → Number)
    (left right : Tensor Number) :
    Except Error (Tensor Number) := do
  let shape ← commonShape [left.shape, right.shape]
  .ok (ofFn result shape fun index =>
    operation
      (Arithmetic.cast type (left.get (stretchIndex left.shape index)))
      (Arithmetic.cast type (right.get (stretchIndex right.shape index))))

/-- Sum, entry by entry. -/
def add
    (left right : Tensor Number) :
    Except Error (Tensor Number) :=
  let type := commonType [left, right]
  zipWith type type (Arithmetic.add type) left right

/-- Product, entry by entry. -/
def mul
    (left right : Tensor Number) :
    Except Error (Tensor Number) :=
  let type := commonType [left, right]
  zipWith type type (Arithmetic.mul type) left right

/-- Every entry multiplied by a number, which is converted to the type of the tensor first. -/
def scale
    (tensor : Tensor Number)
    (factor : Number) :
    Tensor Number :=
  let type := tensor.type.toFloating
  let factor := Arithmetic.cast type factor
  ⟨type, tensor.shape,
    tensor.data.map fun entry =>
      Arithmetic.mul type (Arithmetic.cast type entry) factor⟩

end Tensor

end Versor

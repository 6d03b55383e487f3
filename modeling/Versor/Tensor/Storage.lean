import Versor.Literal.Rational
import Versor.Tensor.Cell

/-!
# Storage from literals

Nested sequences of literals describe the entries of a tensor: its shape is
read off the first members, and then every member has to have that shape.
Which literals an entry can hold depends on its type, and more strictly so
when an entry is assigned to later: a double written down for an integer is
cut off first, a double assigned to one has to be in range as it is.  A text
counts as a sequence of texts and a table behind other members as one of its
names, so neither ends in a number.
-/

namespace Versor

namespace Cell

/-- The double closest to a rational, which must not be too large. -/
def ofRational
    (value : Rat) :
    Except Error Cell :=
  match Format.binary64.roundRat? value with
  | some rounded => .ok (.real rounded)
  | none => .error .numberTooLarge

/-- An integer that fits into the widest integer type. -/
def ofInteger
    (value : Int) :
    Except Error Cell :=
  if wrap .int64 value = value then .ok (.integer value)
  else .error .integerTooLarge

/-- A truth value as an integer. -/
def ofTruth
    (value : Bool) :
    Cell :=
  .integer (if value then 1 else 0)

/-- The number that an entry of a floating point type takes from a literal. -/
def ofFloatingLiteral : Literal → Except Error Cell
  | .boolean value => .ok (ofTruth value)
  | .integer value => ofRational (value : Rat)
  | .real value => .ok (.real value)
  | .fraction value => ofRational value
  | _ => .error .notNumeric

/-- The number that an entry of an integer type takes from a literal, or of the truth type. -/
def ofIntegralLiteral
    (type : ElementType) :
    Literal → Except Error Cell
  | .boolean value => .ok (ofTruth value)
  | .integer value =>
      if type = .boolean then .ok (.integer value) else ofInteger value
  | .real value => .ok (.real value)
  | _ => .error .notNumeric

/-- The entry of an element type that a literal describes. -/
def ofLiteral
    (type : ElementType)
    (literal : Literal) :
    Except Error Cell := do
  if type.isFloating then
    let cell ← ofFloatingLiteral literal
    .ok (cast type cell)
  else
    let cell ← ofIntegralLiteral type literal
    if fits type cell then .ok (cast type cell)
    else .error .entryTooLarge

/-- The number that may be assigned to entries. -/
def ofAssigned : Literal → Except Error Cell
  | .boolean value => .ok (ofTruth value)
  | .integer value => ofInteger value
  | .real value => .ok (.real value)
  | _ => .error .notNumeric

/-- The number that entries may be compared with, an integer being of at most 64 digits. -/
def ofBound : Literal → Except Error Cell
  | .boolean value => .ok (ofTruth value)
  | .integer value =>
      if -(twoTo 63 : Int) ≤ value ∧ value < (twoTo 64 : Int) then
        .ok (.integer value)
      else .error .numberTooLarge
  | .real value => .ok (.real value)
  | _ => .error .notNumeric

end Cell

namespace Tensor

/-- The largest number of dimensions. -/
def maxDimensions : Nat := 128

/--
The shape of nested sequences, read off their first members.  A text that is
not empty would go on forever.
-/
def literalShape : Literal → Except Error (List Nat)
  | .sequence [] => .ok [0]
  | .sequence (first :: rest) => do
      let inner ← literalShape first
      if inner.length < maxDimensions then .ok ((rest.length + 1) :: inner)
      else .error .raggedData
  | .text value => if value = "" then .ok [0] else .error .raggedData
  | _ => .ok []

/-- What is wrong with a text in place of entries of a given shape. -/
def textFault
    (shape : List Nat)
    (value : String) :
    Error :=
  match shape with
  | [] => .notNumeric
  | size :: rest =>
      if (CodePoint.ofText value).length = size ∧ rest.all (· = 1) then .notNumeric
      else .raggedData

/-- What is wrong with a table in place of entries of a given shape: it holds its names. -/
def tableFault
    (shape : List Nat)
    (members : List (String × Literal)) :
    Error :=
  match shape, members with
  | size :: rest, (name, _) :: _ =>
      if members.length = size then textFault rest name else .raggedData
  | _ :: _, [] => .raggedData
  | [], _ => .notNumeric

mutual

/-- The entries of nested sequences of a given shape, in order. -/
def literalCells
    (type : ElementType)
    (shape : List Nat)
    (literal : Literal) :
    Except Error (List Cell) :=
  match shape, literal with
  | [], literal => do
      let cell ← Cell.ofLiteral type literal
      .ok [cell]
  | size :: rest, .sequence members =>
      if members.length = size then literalRows type rest members
      else .error .raggedData
  | shape, .text value => .error (textFault shape value)
  | shape, .table members => .error (tableFault shape members)
  | _ :: _, _ => .error .notNumeric

/-- The entries of several nested sequences of one shape, in order. -/
def literalRows
    (type : ElementType)
    (shape : List Nat) :
    List Literal → Except Error (List Cell)
  | [] => .ok []
  | first :: rest => do
      let cells ← literalCells type shape first
      let others ← literalRows type shape rest
      .ok (cells ++ others)

end

/--
The tensor of an element type that nested sequences of literals describe.
Without any entries the shape is all that matters.
-/
def ofLiteral
    (type : ElementType)
    (literal : Literal) :
    Except Error (Tensor Cell) :=
  match literal with
  | .text _ => .error .notNumeric
  | literal => do
      let shape ← literalShape literal
      if entryCount shape = 0 then .ok ⟨type, shape, #[]⟩
      else
        let cells ← literalCells type shape literal
        .ok ⟨type, shape, cells.toArray⟩

/-- The product of sizes as it is kept in a signed machine integer. -/
def wrappedCount
    (sizes : List Int) :
    Int :=
  Cell.wrap .int64 (sizes.foldr (· * ·) 1)

/--
The shape that sizes stand for, one of which may be `-1`, the size that is
left over when a number of entries is divided among the others.
-/
def shapeFor
    (count : Nat)
    (sizes : List Int) :
    Except Error (List Nat) := do
  checkSizes sizes
  let known := wrappedCount (sizes.filter (· != -1))
  match sizes.count (-1) with
  | 0 => return sizes.map Int.toNat
  | 1 =>
      if known ≤ 0 ∨ (count : Int) % known ≠ 0 then
        throw .incompatibleShapes
      return sizes.map fun size => (if size = -1 then count / known else size).toNat
  | _ => throw .incompatibleShapes

/-- The same entries in a new shape. -/
def reshape
    (sizes : List Int)
    (tensor : Tensor Cell) :
    Except Error (Tensor Cell) := do
  let shape ← shapeFor tensor.data.size sizes
  if entryCount shape = tensor.data.size && isCountable shape then
    return ⟨tensor.type, shape, tensor.data⟩
  else throw .incompatibleShapes

end Tensor

end Versor

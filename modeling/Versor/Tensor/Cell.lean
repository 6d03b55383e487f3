import Versor.Number.Shortest
import Versor.Tensor.Elementwise

/-!
# Machine numbers

A cell is an entry of stored tensors: an integer, which also stands for
truth values, or a double, which also stands for the values of the narrower
floating point types.  Integers wrap around at the width of their type, and
every floating point operation rounds to its type.  What is stored with half
precision has been rounded to single precision before.
-/

namespace Versor

/-- An entry of a stored tensor. -/
inductive Cell
  | integer (value : Int)
  | real (value : Float)

namespace Cell

/-- The value of a cell as a double. -/
def toFloat : Cell → Float
  | .integer value =>
      (Format.binary64.roundRat? (value : Rat)).getD (1.0 / 0.0)
  | .real value => value

/-- The format of a floating point type. -/
def formatOf : ElementType → Format
  | .float16 => Format.binary16
  | .bfloat16 => Format.bfloat16
  | .float32 => Format.binary32
  | _ => Format.binary64

/-- A double rounded to a floating point type. -/
def roundTo
    (type : ElementType)
    (value : Float) :
    Float :=
  match type with
  | .float16 => Format.binary16.roundFloat value.toFloat32.toFloat
  | .bfloat16 => Format.bfloat16.roundFloat value.toFloat32.toFloat
  | .float32 => value.toFloat32.toFloat
  | _ => value

/-- An integer rounded to a format; too large a one becomes infinite. -/
def roundIntegerTo
    (format : Format)
    (value : Int) :
    Float :=
  match format.roundRat? (value : Rat) with
  | some rounded => rounded
  | none => if value < 0 then -1.0 / 0.0 else 1.0 / 0.0

/-- An integer rounded to a floating point type. -/
def roundInteger
    (type : ElementType)
    (value : Int) :
    Float :=
  match type with
  | .float64 => roundIntegerTo Format.binary64 value
  | type => roundTo type (roundIntegerTo Format.binary32 value)

/-- An integer in the range of an integer type, by wrapping around. -/
def wrap
    (type : ElementType)
    (value : Int) :
    Int :=
  match type with
  | .int32 => Int.bmod value (twoTo 32)
  | .int64 => Int.bmod value (twoTo 64)
  | _ => value

/-- A finite double cut off to an integer. -/
def cutOff?
    (value : Float) :
    Option Int :=
  (ratOfFloat? value).map fun exact => Int.tdiv exact.num exact.den

/-- A double cut off to an integer; what fits no integer type becomes the lowest value. -/
def truncate
    (type : ElementType)
    (value : Float) :
    Int :=
  let lowest : Int := if type = .int32 then -(twoTo 31 : Nat) else -(twoTo 63 : Nat)
  match cutOff? value with
  | some cut => if wrap type cut = cut then cut else lowest
  | none => lowest

/--
Whether a double is at least the lowest value of an integer type and below
the number after its highest, so that it can be cut off to a value of it.
-/
def isWithin
    (type : ElementType)
    (value : Float) :
    Bool :=
  let half : Nat := if type = .int32 then twoTo 31 else twoTo 63
  (ratOfFloat? value).any fun exact =>
    -(half : Rat) ≤ exact ∧ exact < (half : Rat)

/-- Whether an entry of an element type can hold a cell: a finite value must be in its range. -/
def fits
    (type : ElementType)
    (cell : Cell) :
    Bool :=
  match type, cell with
  | .boolean, _ => true
  | .int32, .integer value => wrap .int32 value == value
  | .int64, .integer value => wrap .int64 value == value
  | .int32, .real value => isWithin .int32 value
  | .int64, .real value => isWithin .int64 value
  | type, cell =>
      match FloatValue.ofFloat cell.toFloat with
      | .finite _ magnitude => magnitude.toRat ≤ (formatOf type).largest.toRat
      | _ => true

/-- Conversion to an element type. -/
def cast
    (type : ElementType)
    (cell : Cell) :
    Cell :=
  match type, cell with
  | .boolean, .integer value => .integer (if value = 0 then 0 else 1)
  | .boolean, .real value => .integer (if value == 0.0 then 0 else 1)
  | .int32, .integer value => .integer (wrap .int32 value)
  | .int64, .integer value => .integer (wrap .int64 value)
  | .int32, .real value => .integer (truncate .int32 value)
  | .int64, .real value => .integer (truncate .int64 value)
  | type, .integer value => .real (roundInteger type value)
  | type, .real value => .real (roundTo type value)

/-- An operation on two cells, by integers or by doubles as the type demands. -/
def operate
    (type : ElementType)
    (integers : Int → Int → Int)
    (floats : Float → Float → Float)
    (left right : Cell) :
    Cell :=
  if type.isFloating then
    .real (roundTo type (floats left.toFloat right.toFloat))
  else
    match left, right with
    | .integer first, .integer second =>
        cast type (.integer (integers first second))
    | _, _ => cast type (.real (floats left.toFloat right.toFloat))

/-- A function of one cell, by integers or by doubles as the type demands. -/
def apply
    (type : ElementType)
    (integers : Int → Int)
    (floats : Float → Float)
    (cell : Cell) :
    Cell :=
  if type.isFloating then .real (roundTo type (floats cell.toFloat))
  else
    match cell with
    | .integer value => cast type (.integer (integers value))
    | .real value => cast type (.real (floats value))

/-- A function of real numbers in a floating point type. -/
def applyFloat
    (function : Float → Float)
    (type : ElementType)
    (cell : Cell) :
    Cell :=
  .real (roundTo type (function cell.toFloat))

/-- Whether one cell is less than another. -/
def less
    (left right : Cell) :
    Bool :=
  match left, right with
  | .integer first, .integer second => first < second
  | _, _ => left.toFloat < right.toFloat

/--
The type in which entries are compared with a bound: a double makes the
comparison one of floating point numbers, an integer takes the entries' type.
-/
def boundType
    (type : ElementType)
    (bound : Cell) :
    ElementType :=
  match bound with
  | .integer _ => type
  | .real _ => type.toFloating

/-- Whether a cell is zero. -/
def isZero : Cell → Bool
  | .integer value => value == 0
  | .real value => value == 0.0

instance : RealArithmetic Cell where
  zero := .integer 0
  cast := cast
  add type := operate type (· + ·) (· + ·)
  mul type := operate type (· * ·) (· * ·)
  ofRat? value := (Format.binary64.roundRat? value).map .real
  fits := fits
  isOne cell := cell.toFloat == 1.0
  ofInt value := .integer value
  neg type := apply type (fun value => -value) (fun value => -value)
  abs type :=
    apply type (fun value => if value < 0 then -value else value) Float.abs
  div type left right :=
    .real (roundTo type (left.toFloat / right.toFloat))
  sqrt := applyFloat Float.sqrt
  sin := applyFloat Float.sin
  cos := applyFloat Float.cos
  arctan2 type ordinate abscissa :=
    .real (roundTo type (Float.atan2 ordinate.toFloat abscissa.toFloat))
  boundType := boundType
  less := less
  isZero := isZero

/-- Text of a cell of an element type. -/
def render
    (type : ElementType)
    (cell : Cell) :
    String :=
  match cell with
  | .integer value =>
      if type = .boolean then
        if value = 0 then "False" else "True"
      else toString value
  | .real value => NumberLayout.plain.render value

end Cell

namespace Tensor

/-- Text of the entries below a partial multi-index, as nested lists. -/
def renderFrom
    (tensor : Tensor Cell)
    (start : List Nat) :
    List Nat → String
  | [] => (tensor.get start).render tensor.type
  | size :: rest =>
      let parts := (List.range size).map fun place =>
        renderFrom tensor (start ++ [place]) rest
      "[" ++ ", ".intercalate parts ++ "]"

/-- Text of the entries as nested lists. -/
def renderEntries
    (tensor : Tensor Cell) :
    String :=
  tensor.renderFrom [] tensor.shape

end Tensor

end Versor

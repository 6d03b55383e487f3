/-!
# Element types of tensors

An element type is a kind of number that storage may hold.  The kinds rank
truth values, then integers, then floating point numbers; within the last
two the wider type is the larger one.  `promote` is the smallest type that
holds the values of both of its arguments, and `resultType` is the type in
which an operation on tensors is carried out, where tensors without
dimensions count only when their kind is higher than that of all others.
-/

namespace Versor

/-- A kind of number that storage may hold. -/
inductive ElementType
  | boolean
  | int32
  | int64
  | float16
  | bfloat16
  | float32
  | float64
deriving DecidableEq

/-- The rank of a kind of numbers. -/
inductive Category
  | boolean
  | integer
  | floating
deriving DecidableEq

namespace ElementType

/-- Name of an element type. -/
def name : ElementType → String
  | .boolean => "bool"
  | .int32 => "int32"
  | .int64 => "int64"
  | .float16 => "float16"
  | .bfloat16 => "bfloat16"
  | .float32 => "float32"
  | .float64 => "float64"

/-- All element types. -/
def all : List ElementType :=
  [.boolean, .int32, .int64, .float16, .bfloat16, .float32, .float64]

/-- The element type with a given name. -/
def named?
    (name : String) :
    Option ElementType :=
  all.find? fun type => type.name == name

/-- The kind of an element type. -/
def category : ElementType → Category
  | .boolean => .boolean
  | .int32 => .integer
  | .int64 => .integer
  | _ => .floating

/-- Whether an element type holds floating point numbers. -/
def isFloating
    (type : ElementType) :
    Bool :=
  type.category == .floating

/-- Place of an element type in the order of promotion. -/
def rank : ElementType → Nat
  | .boolean => 0
  | .int32 => 1
  | .int64 => 2
  | .float16 => 3
  | .bfloat16 => 3
  | .float32 => 4
  | .float64 => 5

/-- The smallest type that holds the values of both types. -/
def promote
    (left right : ElementType) :
    ElementType :=
  if left = right then left
  else if left.rank = right.rank then .float32
  else if left.rank < right.rank then right
  else left

/-- The type of several types together, if there are any. -/
def promoteAll? : List ElementType → Option ElementType
  | [] => none
  | first :: rest => some (rest.foldl promote first)

/--
Combine the type of the tensors with dimensions with that of the tensors
without, either of which may be missing.
-/
def combine
    (higher lower : Option ElementType) :
    ElementType :=
  match higher, lower with
  | none, none => .float32
  | some type, none => type
  | none, some type => type
  | some high, some low =>
      if high.isFloating then high
      else if high = .boolean ∨ low.isFloating then high.promote low
      else high

/-- The type of an operation on tensors, given by their types and whether they have dimensions. -/
def resultType
    (operands : List (ElementType × Bool)) :
    ElementType :=
  let withDimensions := (operands.filter Prod.snd).map Prod.fst
  let without := (operands.filter fun operand => !operand.2).map Prod.fst
  combine (promoteAll? withDimensions) (promoteAll? without)

/-- The type of a floating point operation on values of a type. -/
def toFloating
    (type : ElementType) :
    ElementType :=
  if type.isFloating then type else .float32

end ElementType

end Versor

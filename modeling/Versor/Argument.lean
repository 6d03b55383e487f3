import Versor.Literal.Written
import Versor.Projective.Construct
import Versor.Tensor.Storage

/-!
# Values as a caller writes them down

A value is a literal, which becomes a tensor once the element type that is
wanted is known, or a tensor with a type of its own.  In JSON a tensor is an
object: the member `t` has its nested entries, and `dtype` and `shape` may
give a type other than the double and a shape other than that of the nesting.
-/

namespace Versor

/-- A value as a caller writes it down: a literal or a tensor. -/
inductive Argument
  | literal (value : Literal)
  | tensor (value : Tensor Cell)

namespace Argument

/-- An argument as a tensor; literals take the type of new storage. -/
def toTensor
    (standard : ElementType) :
    Argument → Except Error (Tensor Cell)
  | .literal value => Tensor.ofLiteral standard value
  | .tensor value => .ok value

/-- An argument as a value for a slot; a literal is read when its type is known. -/
def toSlotValue : Argument → SlotValue Cell
  | .literal value => .written fun type => Tensor.ofLiteral type value
  | .tensor value => .tensor value

/-- The members of an argument: a text has its characters, a table its names. -/
def members : Argument → Except Error (List Literal)
  | .literal (.sequence values) => .ok values
  | .literal (.text value) =>
      .ok (value.toList.map fun character => .text character.toString)
  | .literal (.table members) => .ok (members.map fun member => .text member.1)
  | _ => .error .notNumeric

/-- Sizes in a list, where truth values count as one and zero unless one comes first. -/
def sizes
    (written : List Json) :
    Except Error (List Int) :=
  match written with
  | .boolean _ :: _ => .error .notNumeric
  | written =>
      written.mapM fun size =>
        match (Literal.ofPlain size).toInt? with
        | some value => .ok value
        | none => .error .notNumeric

/-- A tensor of a type with given nested entries, in a shape of its own if one is given. -/
def tensorOf
    (type : ElementType)
    (nested : Literal)
    (shape? : Option (List Json)) :
    Except Error Argument := do
  let tensor ← Tensor.ofLiteral type nested
  match shape? with
  | some shape => return .tensor (← tensor.reshape (← sizes shape))
  | none => return .tensor tensor

/-- The element type that a tensor is written with. -/
def typeOf
    (value : Json) :
    Except Error ElementType :=
  match value.member? "dtype" with
  | some (.text name) =>
      match ElementType.named? name with
      | some type => .ok type
      | none => .error .missingSlot
  | some _ => .error .missingSlot
  | none => .ok .float64

/-- A value written in JSON. -/
def ofMarked
    (value : Json) :
    Except Error Argument := do
  match value.member? "t" with
  | some nested =>
      let type ← typeOf value
      let nested ← Literal.ofMarked nested
      match value.member? "shape" with
      | some (.array shape) => tensorOf type nested (some shape)
      | some .null | none => tensorOf type nested none
      | some _ => throw .notNumeric
  | none => return .literal (← Literal.ofMarked value)

end Argument

end Versor

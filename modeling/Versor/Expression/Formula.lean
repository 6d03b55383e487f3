import Versor.Literal.Arithmetic
import Versor.Literal.Rational
import Versor.Expression.Reduction
import Versor.Place

/-!
# Formulas

A formula is an expression with open places: it refers to the arguments of a
function and builds an expression from them each time it is instantiated.
Operands are built from left to right, and the first fault ends the
building.  Plain numbers become constants of the algebra of the expression
they meet, except that a factor or a divisor scales instead; among themselves
they are combined as numbers.
-/

namespace Versor

/-- What a formula may be instantiated to. -/
inductive Operand
  | expression (value : Expr)
  | number (value : Literal)
  | element (value : SpelledMultivector)
  /-- Anything else that a caller may refer to, which only has the name of a kind. -/
  | other (kind : String) (reference : Nat)

/-- The name of an operand's kind in messages. -/
def Operand.kind : Operand → String
  | .expression _ => "Expr"
  | .number value => value.kindName
  | .element _ => "Multivector"
  | .other kind _ => kind

/-- Leaves that a formula builds anew. -/
inductive LeafForm
  | bind (entity : Nat) (layout : Layout) (base : Literal)
  | blade (algebra : Algebra) (blade value : Literal)
  | scalar (algebra : Algebra) (value : Literal)
  | constant (value : SpelledMultivector)

/-- Operators on one operand. -/
inductive UnaryOperator
  | plus
  | negate
  /-- The sign of reversion, which inverts the binary digits of integers. -/
  | invert
  | reverse
  | involute
  | conjugate
  | dual
  | undual
  | grade (grade : Literal)

/-- Operators on two operands. -/
inductive BinaryOperator
  | add
  | subtract
  | multiply
  | divide
  | wedge
  | vee
  | contract
  | scalarProduct

/-- A function body. -/
inductive Formula
  | argument (place : Int)
  | number (value : Literal)
  | given (value : Except Error Operand)
  | leaf (form : LeafForm)
  | unary (operator : UnaryOperator) (operand : Formula)
  | binary (operator : BinaryOperator) (left right : Formula)
  | define (value body : Formula)
  | defined (place : Int)

namespace Expr

/-- A leaf for a bound entity. -/
def ofBinding
    (entity : Nat)
    (layout : Layout)
    (base : Literal) :
    Build Expr := do
  if (base.rational?).any (· < 0) then
    throw (.negativeBase base)
  match FirstId.ofLiteral? base with
  | some first =>
      if layout.countsSlots && !first.isWhole then
        throw .notNumeric
      return .bind (← Build.fresh) ⟨entity, layout, first⟩
  | none => throw .notNumeric

/-- A leaf for a multivector without indeterminates. -/
def ofConstant
    (value : SpelledMultivector) :
    Build Expr := do
  if value.value.isConstant then
    return .constant (← Build.fresh) value
  else
    throw .variableConstant

/-- A leaf for a number in an algebra. -/
def ofNumber
    (algebra : Algebra)
    (value : Literal) :
    Build Expr := do
  let value ← Build.ofExcept value.toRational
  ofConstant (.ofValue (.constant algebra value 0))

/-- A leaf for a multiple of a blade. -/
def ofBlade
    (algebra : Algebra)
    (blade value : Literal) :
    Build Expr := do
  let target ← Build.ofExcept (algebra.checkBlade blade)
  let value ← Build.ofExcept value.toRational
  ofConstant ⟨.constant algebra value target, { blades := Literal.spelling [blade] }⟩

/-- A node with one operand. -/
def withUnary
    (operation : UnaryOperation)
    (operand : Expr) :
    Build Expr := do
  return .unary (← Build.fresh) operation operand

/-- A node with two operands, which must have one algebra. -/
def withBinary
    (operation : BinaryOperation)
    (left right : Expr) :
    Build Expr := do
  if left.algebra.Agrees right.algebra then
    return .binary (← Build.fresh) operation left right
  else
    throw (.expressionsOverAlgebras left.algebra.metric right.algebra.metric)

/-- A node which scales its operand by a number. -/
def scaledBy
    (operand : Expr)
    (factor : Literal) :
    Build Expr := do
  let factor ← Build.ofExcept factor.toRational
  withUnary (.scale factor) operand

/-- A node which divides its operand by a number. -/
def dividedBy
    (operand : Expr)
    (divisor : Literal) :
    Build Expr := do
  let divisor ← Build.ofExcept divisor.toRational
  if divisor = 0 then
    throw .divisionByZero
  withUnary (.scale (1 / divisor)) operand

/-- A node which takes the part of one grade, given by a number from zero to the dimension. -/
def gradePart
    (operand : Expr)
    (grade : Literal) :
    Build Expr := do
  if !grade.isNumeric then
    throw .notNumeric
  match grade.rational? with
  | some number =>
      if 0 ≤ number ∧ number ≤ (operand.algebra.dimension : Rat) then
        withUnary (.grade number) operand
      else throw (.grade grade operand.algebra.metric)
  | none => throw (.grade grade operand.algebra.metric)

end Expr

namespace LeafForm

/-- Build a leaf. -/
def build : LeafForm → Build Expr
  | .bind entity layout base => Expr.ofBinding entity layout base
  | .blade algebra target value => Expr.ofBlade algebra target value
  | .scalar algebra value => Expr.ofNumber algebra value
  | .constant value => Expr.ofConstant value

end LeafForm

namespace UnaryOperator

/-- The operator with a given short name. -/
def named? (name : String) : Option UnaryOperator :=
  match name with
  | "neg" => some .negate
  | "pos" => some .plus
  | "rev" => some .invert
  | "reverse" => some .reverse
  | "involute" => some .involute
  | "conjugate" => some .conjugate
  | "dual" => some .dual
  | "undual" => some .undual
  | _ => none

/-- Apply an operator to an expression; a plus sign returns the operand itself. -/
def applyTo
    (operator : UnaryOperator)
    (operand : Expr) :
    Build Expr :=
  match operator with
  | .plus => pure operand
  | .negate => operand.withUnary .negate
  | .invert | .reverse => operand.withUnary .reverse
  | .involute => operand.withUnary .involute
  | .conjugate => operand.withUnary .conjugate
  | .dual => operand.withUnary .dual
  | .undual => operand.withUnary .undual
  | .grade index => operand.gradePart index

/--
Apply an operator to a number, which has its signs and is its own conjugate.
Of what is no number only a sequence can be reversed, and nothing comes out.
-/
def applyToLiteral
    (operator : UnaryOperator)
    (operand : Literal) :
    Except Error Literal :=
  match operator with
  | .plus => operand.plus
  | .negate => operand.negate
  | .invert => operand.invert
  | .conjugate =>
      if operand.isNumeric then operand.plus else .error .missingMember
  | .reverse =>
      match operand with
      | .sequence _ => .ok .nothing
      | _ => .error .missingMember
  | _ => .error .missingMember

/-- Why an operator is not for anything else: only expressions and numbers have operators. -/
def objectFault : UnaryOperator → Error
  | .plus | .negate | .invert => .notNumeric
  | _ => .missingMember

end UnaryOperator

namespace BinaryOperator

/-- The operator with a given short name. -/
def named? (name : String) : Option BinaryOperator :=
  match name with
  | "add" => some .add
  | "sub" => some .subtract
  | "mul" => some .multiply
  | "div" => some .divide
  | "wedge" => some .wedge
  | "vee" => some .vee
  | "lc" => some .contract
  | "sp" => some .scalarProduct
  | _ => none

/-- The operation between two expressions, unless there is none. -/
def operation? : BinaryOperator → Option BinaryOperation
  | .add => some .sum
  | .subtract => some .difference
  | .multiply => some .geometric
  | .divide => none
  | .wedge => some .exterior
  | .vee => some .regressive
  | .contract => some .leftContraction
  | .scalarProduct => some .scalarProduct

/-- Apply an operator to two expressions. -/
def applyTo
    (operator : BinaryOperator)
    (left right : Expr) :
    Build Expr :=
  match operator.operation? with
  | some operation => left.withBinary operation right
  | none => throw .divisionByExpression

/-- Apply an operator to an expression and a number on its right. -/
def applyToNumber
    (operator : BinaryOperator)
    (left : Expr)
    (right : Literal) :
    Build Expr :=
  match operator with
  | .multiply => left.scaledBy right
  | .divide => left.dividedBy right
  | operator => do
      operator.applyTo left (← Expr.ofNumber left.algebra right)

/-- Apply an operator to a number and an expression on its right. -/
def applyFromNumber
    (operator : BinaryOperator)
    (left : Literal)
    (right : Expr) :
    Build Expr :=
  match operator with
  | .multiply => right.scaledBy left
  | .divide => throw .divisionByExpression
  | .scalarProduct => throw .missingMember
  | operator => do
      operator.applyTo (← Expr.ofNumber right.algebra left) right

/-- Apply an operator to two numbers. -/
def applyToLiterals
    (operator : BinaryOperator)
    (left right : Literal) :
    Except Error Literal :=
  match operator with
  | .add => left.add right
  | .subtract => left.subtract right
  | .multiply => left.multiply right
  | .divide => left.divide right
  | .wedge => Literal.bitwise Nat.xor left right
  | .vee => Literal.bitwise Nat.land left right
  | .contract => left.unite right
  | .scalarProduct => .error .missingMember

/-- Why an operator is not for anything else: only expressions and numbers have operators. -/
def objectFault : BinaryOperator → Error
  | .scalarProduct => .missingMember
  | _ => .notNumeric

/--
Why an operator is not for an expression on the right of anything else, of
which the kind is given: there it wants a number, unless it wants none at all.
-/
def objectFaultBefore
    (operator : BinaryOperator)
    (kind : String) :
    Error :=
  match operator with
  | .divide => .divisionByExpression
  | .scalarProduct => .missingMember
  | _ => .notANumber kind

end BinaryOperator

namespace Formula

/-- The multiple of the pseudoscalar of an algebra that is taken as its inverse. -/
def inversePseudoscalar
    (algebra : Algebra) :
    Formula :=
  let (blade, sign) := algebra.pseudoscalarInverse
  .leaf (.blade algebra (.integer (blade : Nat)) (.integer sign))

/-- Apply an operator to what an operand was instantiated to. -/
def unaryOperand
    (operator : UnaryOperator)
    (operand : Operand) :
    Build Operand :=
  match operand with
  | .expression operand => do return .expression (← operator.applyTo operand)
  | .number operand => do
      return .number (← Build.ofExcept (operator.applyToLiteral operand))
  | .element _ | .other _ _ => throw operator.objectFault

/-- Apply an operator to what two operands were instantiated to. -/
def binaryOperand
    (operator : BinaryOperator)
    (left right : Operand) :
    Build Operand :=
  match left, right with
  | .expression left, .expression right => do
      return .expression (← operator.applyTo left right)
  | .expression left, .number right => do
      return .expression (← operator.applyToNumber left right)
  | .number left, .expression right => do
      return .expression (← operator.applyFromNumber left right)
  | .number left, .number right => do
      return .number (← Build.ofExcept (operator.applyToLiterals left right))
  | .expression _, right => throw (.notANumber right.kind)
  | left, .expression _ => throw (operator.objectFaultBefore left.kind)
  | _, _ => throw operator.objectFault

/-- Build what a formula says from arguments and earlier definitions. -/
def instantiate
    (arguments : List Expr)
    (definitions : List Operand) :
    Formula → Build Operand
  | .argument place => do
      return .expression (← Build.ofExcept (memberAt arguments place))
  | .number value => pure (.number value)
  | .given value => Build.ofExcept value
  | .leaf form => do return .expression (← form.build)
  | .unary operator operand => do
      let operand ← instantiate arguments definitions operand
      unaryOperand operator operand
  | .binary operator left right => do
      let left ← instantiate arguments definitions left
      let right ← instantiate arguments definitions right
      binaryOperand operator left right
  | .define value body => do
      let value ← instantiate arguments definitions value
      instantiate arguments (definitions ++ [value]) body
  | .defined place => Build.ofExcept (memberAt definitions place)

end Formula

end Versor

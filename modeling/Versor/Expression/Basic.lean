import Versor.Layout
import Versor.Multivector.Text

/-!
# Expressions

An expression is a tree over bound entities and constant multivectors.  Each
node has a number of its own, so that a node used in several places can be
told from equal nodes built twice: expressions are trees when they are
evaluated and graphs when their nodes are counted.  A constant keeps how its
numbers were given, and a bound entity how its first id was.
-/

namespace Versor

/-- An entity with the first of the ids that its slots have. -/
structure Binding where
  /-- The identity of the bound entity. -/
  entity : Nat
  layout : Layout
  first : FirstId

/-- The multivector that a bound entity stands for. -/
def Binding.value
    (binding : Binding) :
    Multivector :=
  binding.layout.bindIds binding.first.id

/-- Operations on one operand. -/
inductive UnaryOperation
  | negate
  | scale (factor : Rat)
  | reverse
  | involute
  | conjugate
  | dual
  | undual
  | grade (grade : Rat)
deriving DecidableEq

/-- Operations on two operands. -/
inductive BinaryOperation
  | sum
  | difference
  | geometric
  | exterior
  | regressive
  | leftContraction
  | scalarProduct
deriving DecidableEq

/-- An expression; the first field of every node is its number. -/
inductive Expr
  | bind (node : Nat) (binding : Binding)
  | constant (node : Nat) (value : SpelledMultivector)
  | unary (node : Nat) (operation : UnaryOperation) (operand : Expr)
  | binary (node : Nat) (operation : BinaryOperation) (left right : Expr)

namespace UnaryOperation

/-- Name of an operation. -/
def name : UnaryOperation → String
  | .negate => "negate"
  | .scale _ => "scale"
  | .reverse => "reverse"
  | .involute => "involute"
  | .conjugate => "conjugate"
  | .dual => "dual"
  | .undual => "undual"
  | .grade _ => "grade"

/-- What an operation does to a multivector. -/
def apply
    (operation : UnaryOperation)
    (operand : Multivector) :
    Multivector :=
  match operation with
  | .negate => operand.negate
  | .scale factor => operand.scale factor
  | .reverse => operand.reverse
  | .involute => operand.involute
  | .conjugate => operand.conjugate
  | .dual => operand.dual
  | .undual => operand.undual
  | .grade index => operand.gradeSelect index

end UnaryOperation

namespace BinaryOperation

/-- Name of an operation. -/
def name : BinaryOperation → String
  | .sum => "sum"
  | .difference => "difference"
  | .geometric => "geometric"
  | .exterior => "exterior"
  | .regressive => "regressive"
  | .leftContraction => "left_contraction"
  | .scalarProduct => "scalar_product"

/-- What an operation does to two multivectors of one algebra. -/
def apply : BinaryOperation → Multivector → Multivector → Multivector
  | .sum => Multivector.add
  | .difference => Multivector.subtract
  | .geometric => Multivector.geometricProduct
  | .exterior => Multivector.exteriorProduct
  | .regressive => Multivector.regressiveProduct
  | .leftContraction => Multivector.leftContraction
  | .scalarProduct => Multivector.scalarProduct

end BinaryOperation

namespace Expr

/-- The number of the root node. -/
def node : Expr → Nat
  | .bind node _ => node
  | .constant node _ => node
  | .unary node _ _ => node
  | .binary node _ _ _ => node

/-- The operands of the root node. -/
def operands : Expr → List Expr
  | .bind _ _ | .constant _ _ => []
  | .unary _ _ operand => [operand]
  | .binary _ _ left right => [left, right]

/-- The algebra of an expression, which all of its leaves share. -/
def algebra : Expr → Algebra
  | .bind _ binding => binding.layout.algebra
  | .constant _ value => value.value.algebra
  | .unary _ _ operand => operand.algebra
  | .binary _ _ left _ => left.algebra

/-- Name of the root node's kind. -/
def kindName : Expr → String
  | .bind _ _ => "bind"
  | .constant _ _ => "constant"
  | .unary _ operation _ => operation.name
  | .binary _ operation _ _ => operation.name

/-- How many operations inside one another the text of an expression may show. -/
def maxTextDepth : Nat := 330

/-- Text of an expression with at most a number of operations inside one another. -/
def renderWithin
    (depth : Nat) :
    Expr → Except Error String
  | .bind _ binding =>
      .ok
        ("Expr(bind " ++ binding.layout.kind.name ++ " @ " ++
          binding.first.given.render ++ ")")
  | .constant _ value => do
      let text ← value.format
      .ok ("Expr(" ++ text ++ ")")
  | .unary _ operation operand =>
      match depth with
      | 0 => .error .nestedTooDeeply
      | depth + 1 => do
          let operand ← renderWithin depth operand
          .ok ("Expr(" ++ operation.name ++ ": " ++ operand ++ ")")
  | .binary _ operation left right =>
      match depth with
      | 0 => .error .nestedTooDeeply
      | depth + 1 => do
          let left ← renderWithin depth left
          let right ← renderWithin depth right
          .ok ("Expr(" ++ operation.name ++ ": " ++ left ++ ", " ++ right ++ ")")

/-- Text of an expression. -/
def render : Expr → Except Error String :=
  renderWithin maxTextDepth

end Expr

end Versor

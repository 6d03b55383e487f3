import Versor.Expression.Basic
import Versor.Multivector.Draft

/-!
# Operations through the constructor

Operations on multivectors build others on their way: terms before they are
merged, and the operands of the products that they come down to.  Each of
these goes through the constructor, which may refuse it.  `perform` applies an
operation in this way, with its steps in order; `apply` says what comes out.
The work at a node of an expression is one such operation, or it merges what
is at a leaf.
-/

namespace Versor

namespace UnaryOperation

/-- The terms that an operation builds before it merges them. -/
def raw
    (operation : UnaryOperation)
    (operand : Multivector) :
    Multivector :=
  match operation with
  | .negate => operand.rawScale (-1)
  | .scale factor => operand.rawScale factor
  | .reverse => operand.rawMapBlades (Multivector.signedBy Blade.reverseSign)
  | .involute => operand.rawMapBlades (Multivector.signedBy Blade.involutionSign)
  | .conjugate => operand.rawMapBlades (Multivector.signedBy Blade.conjugateSign)
  | .dual => operand.rawMapBlades fun blade => some (operand.algebra.complement blade)
  | .undual => operand.rawMapBlades fun blade => some (operand.algebra.leftComplement blade)
  | .grade index => operand.rawMapBlades (Multivector.ofGrade index)

/-- Apply an operation, which may be refused by the constructor. -/
def perform
    (operation : UnaryOperation)
    (operand : Multivector) :
    Except Error Multivector :=
  (operation.raw operand).merge

end UnaryOperation

namespace BinaryOperation

/-- The steps of an operation on multivectors of one algebra. -/
def performSteps
    (operation : BinaryOperation)
    (left right : Multivector) :
    Except Error Multivector :=
  match operation with
  | .sum => (left.concatenate right).merge
  | .difference => do
      let negated ← UnaryOperation.negate.perform right
      (left.concatenate negated).merge
  | .geometric => (Multivector.rawProduct .geometric left right).merge
  | .exterior => (Multivector.rawProduct .exterior left right).merge
  | .leftContraction => (Multivector.rawProduct .leftContraction left right).merge
  | .scalarProduct => (Multivector.rawProduct .scalar left right).merge
  | .regressive => do
      let first ← UnaryOperation.dual.perform left
      let second ← UnaryOperation.dual.perform right
      let product ← (Multivector.rawProduct .exterior first second).merge
      UnaryOperation.undual.perform product

/-- Apply an operation, which may be refused for its algebras or by the constructor. -/
def perform
    (operation : BinaryOperation)
    (left right : Multivector) :
    Except Error Multivector :=
  if left.algebra.Agrees right.algebra then operation.performSteps left right
  else .error (.elementsOfAlgebras left.algebra.metric right.algebra.metric)

end BinaryOperation

/-- The work at a node of an expression whose operands have been reduced. -/
inductive Work
  | bound (value : Multivector)
  | constant (value : SpelledMultivector)
  | unary (operation : UnaryOperation) (operand : Multivector)
  | binary (operation : BinaryOperation) (left right : Multivector)

namespace Work

/-- What the work at a node comes to. -/
def run : Work → Except Error Multivector
  | .bound value => value.canonicalize.construct
  | .constant value => do
      let canonical ← value.canonicalize
      canonical.value.construct
  | .unary operation operand => operation.perform operand
  | .binary operation left right => operation.perform left right

/-- The same work with algebras given by numbers. -/
def plain : Work → Work
  | .bound value => .bound value.plain
  | .constant value => .constant { value with value := value.value.plain }
  | .unary operation operand => .unary operation operand.plain
  | .binary operation left right => .binary operation left.plain right.plain

end Work

end Versor

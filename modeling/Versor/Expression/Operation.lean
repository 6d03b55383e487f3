import Versor.Expression.Basic

/-!
# Operations on multivectors as they were given

The operations of expressions apply to spelled multivectors, and what they do
to the values is what they do without spellings.  Sums, differences and
changes of signs keep the blades as they were given, products and duals do
not.
-/

namespace Versor

namespace UnaryOperation

/-- The operations that need nothing but their operand. -/
def unparametrized : List UnaryOperation :=
  [.negate, .reverse, .involute, .conjugate, .dual, .undual]

/-- The operation with a given name that needs nothing but its operand. -/
def named?
    (name : String) :
    Option UnaryOperation :=
  unparametrized.find? fun operation => operation.name == name

/-- What an operation does to the blade of an entry. -/
def image
    (operation : UnaryOperation)
    (algebra : Algebra)
    (source : SpelledEntry) :
    SpelledEntry :=
  let moved (blade : Blade) : SpelledEntry :=
    { source with
      entry := { source.entry with blade := blade }
      blade := false }
  match operation with
  | .dual => moved (algebra.complement source.entry.blade).1
  | .undual => moved (algebra.leftComplement source.entry.blade).1
  | _ => source

/-- Apply an operation to a multivector as it was given. -/
def applySpelled
    (operation : UnaryOperation)
    (operand : SpelledMultivector) :
    Except Error SpelledMultivector :=
  match operation with
  | .negate => operand.scale (-1)
  | .scale factor => operand.scale factor
  | .grade index => operand.gradeSelect (.fraction index)
  | operation => do
      let settled ← operand.settled
      let entries ← settled.entries
      .ok (.merged (entries.map (operation.image operand.value.algebra))
        (operation.apply settled.value))

end UnaryOperation

namespace BinaryOperation

/-- Apply an operation to two multivectors of one algebra as they were given. -/
def applySpelled
    (operation : BinaryOperation)
    (left right : SpelledMultivector) :
    Except Error SpelledMultivector :=
  match operation with
  | .sum => do
      let value ← left.concatenate right
      value.canonicalize
  | .difference => do
      let _ ← Multivector.combine (fun left _ => left) left.value right.value
      let value ← left.concatenate (← right.scale (-1))
      value.canonicalize
  | .geometric => SpelledMultivector.product .geometric left right
  | .exterior => SpelledMultivector.product .exterior left right
  | .leftContraction => SpelledMultivector.product .leftContraction left right
  | .scalarProduct => SpelledMultivector.product .scalar left right
  | .regressive => do
      let _ ← Multivector.combine (fun left _ => left) left.value right.value
      let first ← UnaryOperation.dual.applySpelled left
      let second ← UnaryOperation.dual.applySpelled right
      let value ← SpelledMultivector.product .exterior first second
      UnaryOperation.undual.applySpelled value

end BinaryOperation

end Versor

import Versor.Error

/-!
# Exact constants

The coefficients of symbolic elements are rationals.  A double stands for
its exact value, so one tenth written as a double is the binary fraction
closest to it.  Texts of rationals show all of their digits, up to a limit.
-/

namespace Versor

/-- Text of a rational; no integer in it may have too many digits. -/
def renderRat
    (value : Rat) :
    Except Error String :=
  match ratText? value with
  | some text => .ok text
  | none => .error .integerTooLarge

namespace Literal

/-- Text of a literal; no integer in it may have too many digits. -/
def toText
    (literal : Literal) :
    Except Error String :=
  if literal.isPrintable then .ok literal.render else .error .integerTooLarge

/-- The rational that a literal stands for as a scalar constant. -/
def toRational : Literal → Except Error Rat
  | .boolean _ => .error .booleanConstant
  | .fraction value => .ok value
  | .integer value => .ok value
  | .real value =>
      match ratOfFloat? value with
      | some exact => .ok exact
      | none => .error (.nonFiniteConstant value)
  | value => .error (.notANumber value.kindName)

/-- The rational that a literal stands for as a coefficient in a list of entries. -/
def toCoefficient : Literal → Except Error Rat
  | .boolean value => .ok (if value then 1 else 0)
  | .fraction value => .ok value
  | .integer value => .ok value
  | .real value =>
      match FloatValue.ofFloat value with
      | .indefinite => .error .indefiniteCoefficient
      | .infinite _ => .error .infiniteCoefficient
      | .finite negative magnitude =>
          .ok (if negative then -magnitude.toRat else magnitude.toRat)
  | .nothing => .error .notNumeric
  | .text _ => .error .notNumeric
  | .sequence _ => .error .notNumeric
  | .table _ => .error .notNumeric

end Literal
end Versor

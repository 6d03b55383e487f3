import Versor.Engine

/-!
# The compiled functions of projective geometry

Every operation of the projective layer runs one of these functions through
the default engine.  Their bodies are closed: they refer to their arguments
only.
-/

namespace Versor
namespace LibraryFunction

/-- Name of a function. -/
def name : LibraryFunction → String
  | .identity => "identity"
  | .square => "square"
  | .exponential => "exponential"
  | .generator => "generator"
  | .sandwich => "sandwich"
  | .product => "product"
  | .tripleProduct => "tripleProduct"
  | .meet => "meet"
  | .join => "join"
  | .project => "project"
  | .reverse => "reverse"

/-- Body of a function. -/
def body : LibraryFunction → Formula
  | .identity => .argument 0
  | .square => .binary .multiply (.argument 0) (.argument 0)
  | .exponential =>
      .binary .add (.argument 0)
        (.binary .multiply
          (.binary .multiply (.argument 1) (.argument 2)) (.argument 3))
  | .generator =>
      .binary .multiply
        (.binary .multiply (.argument 0) (.argument 1)) (.argument 2)
  | .sandwich =>
      .binary .multiply
        (.binary .multiply (.argument 0) (.argument 1))
        (.unary .reverse (.argument 0))
  | .product => .binary .multiply (.argument 0) (.argument 1)
  | .tripleProduct =>
      .binary .multiply
        (.binary .multiply (.argument 0) (.argument 1)) (.argument 2)
  | .meet => .binary .wedge (.argument 0) (.argument 1)
  | .join => .binary .vee (.argument 0) (.argument 1)
  | .project =>
      .binary .multiply
        (.binary .contract (.argument 1) (.argument 0)) (.argument 1)
  | .reverse => .unary .reverse (.argument 0)

/-- A function of the library as something to compile. -/
def toFunction
    (function : LibraryFunction) :
    Function where
  key := .library function
  name := function.name
  isHashable := true
  body := function.body

end LibraryFunction

namespace Compute

variable {Number : Type} [Arithmetic Number]

/-- Evaluate a function of the library on entities. -/
def applyLibrary
    (function : LibraryFunction)
    (entities : List (Entity Number)) :
    Compute Number (Entity Number) :=
  apply function.toFunction entities

end Compute
end Versor

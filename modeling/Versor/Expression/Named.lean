import Versor.Blade.Named
import Versor.Expression.Reduction

/-!
# Constants of the projective algebra

The blades of the projective algebra, its pseudoscalar and what is taken as
the inverse of it have names.  Every name stands for one node, whose number
no other node gets, so two uses of a name share what has been reduced.
-/

namespace Versor

namespace Expr

/-- The names of constants; the place of a name is the number of its node. -/
def constantNames : List String :=
  ["one", "e0", "e1", "e2", "e3", "e01", "e02", "e03", "e12", "e13", "e23", "e012",
    "e013", "e023", "e123", "e0123", "ps", "ips"]

/-- The multivector that a name stands for. -/
def constantNamed?
    (name : String) :
    Option Multivector :=
  if name = "ips" then
    let (blade, sign) := Algebra.projective.pseudoscalarInverse
    some (.constant .projective (sign : Rat) blade)
  else
    (Blade.named? name).map fun (blade : Blade) => .constant .projective 1 blade

/-- The constant with a given name. -/
def named?
    (name : String) :
    Option Expr :=
  if constantNames.contains name then
    (constantNamed? name).map fun value =>
      .constant (constantNames.idxOf name) (.ofValue value)
  else none

end Expr

/-- The workspace in which only the named constants have numbers. -/
def Workspace.initial
    (limits : Limits) :
    Workspace :=
  ⟨Expr.constantNames.length, [], limits⟩

end Versor

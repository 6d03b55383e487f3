import Versor.Blade
import Versor.Number.Power

/-!
# Blades of the projective algebra

In `G(3,0,1)` the null vector `e0` has digit `0` and the Euclidean vectors
`e1`, `e2` and `e3` follow.  A blade is named by its vectors in ascending
order; the scalar blade is `0`.
-/

namespace Versor
namespace Blade

/-! ## Planes -/

def e0 : Blade := 1

def e1 : Blade := 2

def e2 : Blade := 4

def e3 : Blade := 8

/-! ## Lines -/

def e01 : Blade := 3

def e02 : Blade := 5

def e03 : Blade := 9

def e12 : Blade := 6

def e13 : Blade := 10

def e23 : Blade := 12

/-! ## Points -/

def e012 : Blade := 7

def e013 : Blade := 11

def e023 : Blade := 13

def e123 : Blade := 14

/-! ## The pseudoscalar -/

def e0123 : Blade := 15

/-- The projective blade with a name such as `one`, `e01` or `ps`. -/
def named? (name : String) : Option Blade :=
  match name with
  | "one" => some 0
  | "ps" => some e0123
  | other =>
      match other.toList with
      | 'e' :: digits =>
          some
            (digits.foldr (fun digit blade => twoTo (digit.toNat - 48) + blade) 0)
      | _ => none

end Blade
end Versor

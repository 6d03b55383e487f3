/-!
# Powers of two and of ten

The two families of natural numbers that binary and decimal formats are
made of.
-/

namespace Versor

/-- A power of two. -/
def twoTo
    (exponent : Nat) :
    Nat :=
  Nat.pow 2 exponent

/-- A power of ten. -/
def tenTo
    (exponent : Nat) :
    Nat :=
  Nat.pow 10 exponent

theorem twoTo_pos
    (exponent : Nat) :
    0 < twoTo exponent :=
  Nat.pow_pos (by decide)

end Versor

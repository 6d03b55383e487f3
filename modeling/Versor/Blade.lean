/-!
# Basis blades

A basis blade is a set of basis vectors, kept as the number whose binary
digits mark its members: digit `i` is set when basis vector `i` takes part.
The symmetric difference of two blades is the exclusive or of their numbers.

`reorderingSign` is the sign of the permutation which sorts the basis
vectors of one blade followed by those of another: every vector of the
second blade passes each vector of the first one with a higher index.
-/

namespace Versor

/-- A basis blade: binary digit `i` marks basis vector `i`. -/
abbrev Blade := Nat

namespace Blade

/-- The basis vectors of a blade, in ascending order. -/
def vectors
    (blade : Blade) :
    List Nat :=
  (List.range (Nat.log2 blade + 1)).filter (Nat.testBit blade)

/-- Number of basis vectors of a blade. -/
def grade
    (blade : Blade) :
    Nat :=
  (vectors blade).length

/-- The pairs of a vector of `left` and a lower vector of `right`, counted. -/
def inversions
    (left right : Blade) :
    Nat :=
  let passed := vectors left
  (vectors right).foldr
    (fun vector count => passed.countP (vector < ·) + count) 0

/-- The sign belonging to the parity of a count. -/
def paritySign
    (count : Nat) :
    Int :=
  if count % 2 = 0 then 1 else -1

/-- Sign of the permutation sorting the vectors of `left` followed by `right`. -/
def reorderingSign
    (left right : Blade) :
    Int :=
  paritySign (inversions left right)

/-- Sign of writing the vectors of a blade backwards. -/
def reverseSign
    (blade : Blade) :
    Int :=
  paritySign (grade blade * (grade blade - 1) / 2)

/-- Sign of negating every basis vector of a blade. -/
def involutionSign
    (blade : Blade) :
    Int :=
  paritySign (grade blade)

/-- Sign of negating every basis vector and writing them backwards. -/
def conjugateSign
    (blade : Blade) :
    Int :=
  reverseSign blade * involutionSign blade

end Blade

end Versor

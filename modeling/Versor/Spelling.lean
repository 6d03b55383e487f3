/-!
# Integers given as truth values

Where an integer is wanted, a truth value counts as one or as zero.  What a
caller gave is shown again as it was given, though, so a list of integers may
come with its spelling: the places of those that were given as truth values.
Computations carry a spelling along and never look at it.
-/

namespace Versor

/-- The places in a list of integers which were given as truth values. -/
abbrev Spelling := List Nat

namespace Spelling

/-- The text of an integer at a place, as what it was given. -/
def renderAt
    (spelling : Spelling)
    (place value : Nat) :
    String :=
  if spelling.contains place then
    if value = 0 then "False" else "True"
  else toString value

/-- The places at which flags are set. -/
def ofFlags
    (flags : List Bool) :
    Spelling :=
  (flags.zipIdx.filter Prod.fst).map Prod.snd

/-- The spelling of a list followed by another one, given the length of the first. -/
def append
    (spelling : Spelling)
    (length : Nat)
    (other : Spelling) :
    Spelling :=
  spelling ++ other.map (length + ·)

end Spelling

end Versor

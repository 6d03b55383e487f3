import Versor.Number.Power
import Versor.Spelling

/-!
# Metrics

A metric counts the basis vectors of a geometric algebra by their squares:
some square to `+1`, some to `-1` and some to `0`.  The null vectors come
first in the order of the basis, then the positive ones, then the negative
ones, so the projective origin of `G(3,0,1)` is basis vector `0`.  A metric
is shown with its counts as they were given, which makes no difference to
the algebra: `plain` forgets how they were.
-/

namespace Versor

/-- No algebra has more basis vectors than this. -/
def maxDimension : Nat := 8

/-- The signature of the basis vectors of an algebra. -/
structure Metric where
  /-- Number of basis vectors squaring to `+1`. -/
  positive : Nat
  /-- Number of basis vectors squaring to `-1`. -/
  negative : Nat
  /-- Number of basis vectors squaring to `0`. -/
  null : Nat
  /-- How the three counts were given. -/
  spelling : Spelling
  /-- The algebra stays small enough to tabulate. -/
  dimension_le : positive + negative + null ≤ maxDimension
deriving DecidableEq

namespace Metric

/-- The same metric with all of its counts given as numbers. -/
def plain
    (metric : Metric) :
    Metric :=
  { metric with spelling := [] }

/-- Number of basis vectors. -/
def dimension
    (metric : Metric) :
    Nat :=
  metric.positive + metric.negative + metric.null

/-- Square of a basis vector: null vectors first, then positive, then negative. -/
def square
    (metric : Metric)
    (vector : Nat) :
    Int :=
  if vector < metric.null then 0
  else if vector < metric.null + metric.positive then 1
  else -1

/-- The blade of all null basis vectors. -/
def nullMask
    (metric : Metric) :
    Nat :=
  twoTo metric.null - 1

/-- The blade of all basis vectors squaring to `-1`. -/
def negativeMask
    (metric : Metric) :
    Nat :=
  (twoTo metric.negative - 1) * twoTo (metric.null + metric.positive)

/-- The written form of a metric. -/
def render
    (metric : Metric) :
    String :=
  "Metric(p=" ++ metric.spelling.renderAt 0 metric.positive ++
    ", q=" ++ metric.spelling.renderAt 1 metric.negative ++
    ", r=" ++ metric.spelling.renderAt 2 metric.null ++ ")"

end Metric

end Versor

import Versor.Expression.Basic

/-!
# Bindings of an expression

`leafNodes` lists the nodes at which entities are bound from left to right.  It keeps the
expressions that are still to be entered on a stack and enters each node once, so a
shared leaf is listed once.  `checkBindings` orders the ranges of ids of the distinct
bindings by their ends and refuses an expression in which one range starts before its
predecessor stops.
-/

namespace Versor
namespace Expr

/-- A node at which an entity is bound. -/
structure Leaf where
  node : Nat
  binding : Binding

/-- The leaf that an expression is, unless it is something else. -/
def leaf? : Expr → Option Leaf
  | .bind node binding => some ⟨node, binding⟩
  | _ => none

/--
A traversal on its way: the expressions that are still to be entered, the next one first,
and the nodes entered so far and the leaves found there, the latest first.
-/
structure Traversal where
  pending : List Expr
  entered : List Nat
  found : List Leaf

/-- A list gets smaller where the operands of an expression are in its place. -/
theorem sizeOf_operands_append
    (expression : Expr)
    (others : List Expr) :
    sizeOf (expression.operands ++ others) < sizeOf (expression :: others) := by
  cases expression with
  | bind | constant =>
      simp only [operands, List.nil_append, List.cons.sizeOf_spec]
      omega
  | unary node operation operand =>
      simp only [operands, List.cons_append, List.nil_append, List.cons.sizeOf_spec,
        unary.sizeOf_spec]
      omega
  | binary node operation left right =>
      have positive : 0 < sizeOf operation := by cases operation <;> simp
      simp only [operands, List.cons_append, List.nil_append, List.cons.sizeOf_spec,
        binary.sizeOf_spec]
      omega

namespace Traversal

/-- The traversal of an expression before its first step. -/
def start
    (expression : Expr) :
    Traversal :=
  ⟨[expression], [], []⟩

/-- Take the next expression and enter its node, unless that has happened before. -/
def step
    (traversal : Traversal) :
    Traversal :=
  match traversal.pending with
  | [] => traversal
  | next :: rest =>
      if traversal.entered.contains next.node then { traversal with pending := rest }
      else
        ⟨next.operands ++ rest, next.node :: traversal.entered,
          next.leaf?.toList ++ traversal.found⟩

/-- With each step the list of what is pending gets smaller. -/
theorem sizeOf_pending_step
    {traversal : Traversal}
    (goesOn : ¬ traversal.pending.isEmpty = true) :
    sizeOf traversal.step.pending < sizeOf traversal.pending := by
  rcases traversal with ⟨pending, entered, found⟩
  cases pending with
  | nil => exact absurd rfl goesOn
  | cons next rest =>
      unfold step
      dsimp only
      split
      · simp only [List.cons.sizeOf_spec]
        omega
      · exact sizeOf_operands_append next rest

/-- Go on with a traversal until nothing is pending. -/
def run
    (traversal : Traversal) :
    Traversal :=
  if traversal.pending.isEmpty then traversal else run traversal.step
termination_by sizeOf traversal.pending
decreasing_by exact sizeOf_pending_step ‹_›

end Traversal

/-- The nodes at which entities are bound, from left to right, each node entered once. -/
def leafNodes
    (expression : Expr) :
    List Leaf :=
  (Traversal.start expression).run.found.reverse

/-- The bindings at the leaves, from left to right. -/
def leaves
    (expression : Expr) :
    List Binding :=
  expression.leafNodes.map Leaf.binding

/-- Whether two bindings bind the same entity at the same id. -/
def sameBinding
    (left right : Binding) :
    Bool :=
  left.entity == right.entity && left.first.value == right.first.value

/-- The bindings without those that occurred before. -/
def distinctBindings
    (bindings : List Binding) :
    List Binding :=
  (bindings.foldl
    (fun kept binding =>
      if kept.any (sameBinding binding) then kept else binding :: kept) []).reverse

/-- The half-open range of ids of a binding. -/
structure IdRange where
  start : SourceId
  stop : SourceId
  /-- The first id as it was given. -/
  givenStart : Literal
  /-- The sum of the first id and the number of slots, as it is shown. -/
  givenStop : Literal

/-- The range of ids of a number of slots. -/
def idRange
    (first : FirstId)
    (width : Nat) :
    IdRange :=
  ⟨first.value, first.id width, first.given, first.following width⟩

/-- Order of ranges: by start, then by stop. -/
def IdRange.precedes
    (left right : IdRange) :
    Bool :=
  left.start < right.start || (left.start == right.start && left.stop ≤ right.stop)

/-- Insert a range into an ordered list of ranges. -/
def insertRange
    (range : IdRange) :
    List IdRange → List IdRange
  | [] => [range]
  | other :: rest =>
      if range.precedes other then range :: other :: rest
      else other :: insertRange range rest

/-- The first neighbours in a list of ranges of which the second starts too early. -/
def findOverlap? : List IdRange → Option (IdRange × IdRange)
  | first :: second :: rest =>
      if second.start < first.stop then some (first, second)
      else findOverlap? (second :: rest)
  | _ => none

/--
The ranges of the distinct bindings, in order, each as the last of its
bindings was given; `widths` gives the slot count of an entity, if its
storage has slots at all.
-/
def idRanges
    (widths : Nat → Except Error Nat)
    (expression : Expr) :
    Except Error (List IdRange) := do
  let bindings := expression.leaves
  let ranges ← (distinctBindings bindings).mapM fun binding => do
    let width ← widths binding.entity
    let last := (bindings.reverse.find? (sameBinding binding)).getD binding
    .ok (idRange last.first width)
  .ok (ranges.foldr insertRange [])

/-- Refuse an expression in which distinct bindings share ids. -/
def checkBindings
    (widths : Nat → Except Error Nat)
    (expression : Expr) :
    Except Error Unit := do
  let ranges ← expression.idRanges widths
  match findOverlap? ranges with
  | some (first, second) =>
      .error
        (.bindingOverlap first.givenStart first.givenStop second.givenStart
          second.givenStop)
  | none => .ok ()

end Expr
end Versor

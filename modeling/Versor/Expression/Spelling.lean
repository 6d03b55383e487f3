import Versor.Expression.Operation

/-!
# Spellings of reduced expressions

The blades of an entity and of a constant may have been given as truth
values, and the first id of an entity as a truth value or a double.  `spell`
goes through the nodes of an expression that has been reduced, each node
once, and finds the spellings of their results.
-/

namespace Versor

namespace Layout

/-- The contributions of slots as they were given. -/
def spelledEntries
    (layout : Layout)
    (first : FirstId) :
    List SpelledEntry :=
  let givenId (slot : Nat) : Literal :=
    if slot = 0 && layout.keepsFirst then first.given else first.following slot
  layout.slotTerms.mapIdx fun place term =>
    ⟨⟨term.blade, term.coefficient, term.slots.map first.id⟩,
      layout.spelling.contains place, term.slots.map givenId, none⟩

/-- The ids of the slots in the order of their terms, as sums with a first id. -/
def sumsWith
    (layout : Layout)
    (base : Literal) :
    Except Error (List Literal) :=
  (layout.slotTerms.flatMap SlotTerm.slots).mapM fun (slot : Nat) =>
    if slot = 0 && layout.keepsFirst && base.isNumeric then .ok base
    else base.add (.integer slot)

/-- The bound multivector for a first id that may be negative, which no id of a slot may be. -/
def bindSpelled
    (layout : Layout)
    (base : Literal) :
    Except Error SpelledMultivector := do
  if layout.countsSlots && base.toInt?.isNone then
    throw .notNumeric
  let ids ← layout.sumsWith base
  match ids.find? fun id => (id.rational?).any (· < 0), FirstId.ofLiteral? base with
  | some id, _ => throw (.negativeSource id)
  | none, some first =>
      return .merged (layout.spelledEntries first) (layout.bindIds first.id)
  | none, none => return .ofValue (layout.bind 0)

end Layout

namespace Expr

/-- The results of nodes and, for some nodes, the spellings of these. -/
structure Spelled where
  results : List (Nat × Multivector)
  spellings : List (Nat × ElementSpelling)

namespace Spelled

/-- The spelling found for a node. -/
def spellingAt
    (state : Spelled)
    (node : Nat) :
    ElementSpelling :=
  (state.spellings.lookup node).getD {}

/-- The result of a node. -/
def resultAt
    (state : Spelled)
    (node : Nat) :
    Option SpelledMultivector :=
  (state.results.lookup node).map fun result => ⟨result, state.spellingAt node⟩

/-- Whether the result of a node was given by numbers. -/
def isPlainAt
    (state : Spelled)
    (node : Nat) :
    Bool :=
  (state.spellingAt node).isPlain

/-- Add the spelling of a node. -/
def add
    (state : Spelled)
    (node : Nat)
    (spelling : ElementSpelling) :
    Spelled :=
  { state with spellings := (node, spelling) :: state.spellings }

/-- The spelling of a result; where there is none, nothing was spelled. -/
def spellingOf
    (result : Except Error SpelledMultivector) :
    ElementSpelling :=
  match result with
  | .ok value => value.spelling
  | .error _ => {}

/-- The spelling of what an operation makes of the result of a node. -/
def unary
    (state : Spelled)
    (operation : UnaryOperation)
    (operand : Nat) :
    ElementSpelling :=
  if state.isPlainAt operand then {}
  else
    match state.resultAt operand with
    | some operand => spellingOf (operation.applySpelled operand)
    | none => {}

/-- The spelling of what an operation makes of the results of two nodes. -/
def binary
    (state : Spelled)
    (operation : BinaryOperation)
    (left right : Nat) :
    ElementSpelling :=
  if state.isPlainAt left && state.isPlainAt right then {}
  else
    match state.resultAt left, state.resultAt right with
    | some left, some right => spellingOf (operation.applySpelled left right)
    | _, _ => {}

end Spelled

/-- Find the spellings of all nodes of an expression. -/
def spell
    (state : Spelled)
    (expression : Expr) :
    Spelled :=
  if (state.spellings.lookup expression.node).isSome then state
  else
    match expression with
    | .bind node binding =>
        let sources := binding.layout.spelledEntries binding.first
        state.add node (binding.value.mergedSpelling sources)
    | .constant node value => state.add node (Spelled.spellingOf value.canonicalize)
    | .unary node operation operand =>
        let state := spell state operand
        state.add node (state.unary operation operand.node)
    | .binary node operation left right =>
        let state := spell (spell state left) right
        state.add node (state.binary operation left.node right.node)

/-- The spelling of a reduced expression, given the results of its nodes. -/
def spelling
    (results : List (Nat × Multivector))
    (expression : Expr) :
    ElementSpelling :=
  (spell ⟨results, []⟩ expression).spellingAt expression.node

end Expr

end Versor

import Versor.Entity
import Versor.Expression.Formula
import Versor.Expression.Spelling

/-!
# Programs

A program is a canonical multivector flattened into steps: each step
multiplies storage slots and a coefficient and adds the product to the
output slot of its blade.  It runs on any entities of the structure it was
made for.  Their batch shapes are stretched to a common one, the terms of a
slot are added in order in the types that tensor arithmetic gives them, and
every slot is converted to the common type of all entities at the end.

`Function.build` makes a program out of a function: the entities are bound at
consecutive ranges of ids, the body is instantiated on the bound leaves, and
the resulting expression is reduced.
-/

namespace Versor

/-- A product of slots and a coefficient, added to an output slot. -/
structure Step (Number : Type) where
  slot : Nat
  coefficient : Number
  ids : List SourceId

/-- An entity that a program reads: its structure and the id of its first slot. -/
structure Input where
  signature : Signature
  first : FirstId

/-- A reduced expression flattened into steps. -/
structure Program (Number : Type) where
  /-- Tells a program from equal ones that were built at other times. -/
  identity : Nat
  value : Multivector
  blades : List Blade
  /-- How the blades and the ids were given. -/
  spelling : ElementSpelling
  steps : List (Step Number)
  inputs : List Input

/-- The functions that the library itself compiles. -/
inductive LibraryFunction
  | identity
  | square
  | exponential
  | generator
  | sandwich
  | product
  | tripleProduct
  | meet
  | join
  | project
  | reverse
deriving DecidableEq

/-- What tells functions apart in a cache. -/
inductive FunctionKey
  | library (function : LibraryFunction)
  | custom (serial : Nat)
deriving DecidableEq

/-- A function on expressions. -/
structure Function where
  key : FunctionKey
  name : String
  /-- Whether programs of the function may be kept in a cache. -/
  isHashable : Bool
  body : Formula

namespace Program

variable {Number : Type} [Arithmetic Number]

/-- The algebra of a program. -/
def algebra
    (program : Program Number) :
    Algebra :=
  program.value.algebra

/-- The layout of what a program computes. -/
def layout
    (program : Program Number) :
    Layout :=
  .generic program.algebra program.blades
    (Literal.spelling (program.value.givenBlades program.spelling))

/-- The ids of the steps as they were given. -/
def givenIds
    (program : Program Number) :
    List (List Literal) :=
  (program.value.spelledEntries program.spelling).map SpelledEntry.ids

/-- The program that computes a canonical multivector. -/
def ofMultivector
    (identity : Nat)
    (value : Multivector)
    (spelling : ElementSpelling)
    (inputs : List Input) :
    Except Error (Program Number) := do
  let blades := value.blades
  let steps ← value.entries.mapM fun entry =>
    match Arithmetic.ofRat? entry.value with
    | some coefficient =>
        Except.ok ⟨blades.idxOf entry.blade, coefficient, entry.ids⟩
    | none => .error .numberTooLarge
  .ok ⟨identity, value, blades, spelling, steps, inputs⟩

/-- The program that computes a reduced expression. -/
def ofReduced
    (expression : Expr)
    (value : Multivector)
    (inputs : List Input) :
    Build (Program Number) := do
  let spelling := expression.spelling (← get).results
  Build.ofExcept (ofMultivector (← Build.fresh) value spelling inputs)

/-- Text of a program. -/
def render
    (program : Program Number) :
    String :=
  "Program(blades=[" ++
    ", ".intercalate (program.blades.map fun (blade : Blade) =>
      program.algebra.bladeName (blade : Int)) ++
    "], terms=" ++ toString program.steps.length ++ ")"

/-- The slots of entities by id, the latest first. -/
abbrev Columns (Number : Type) := List (SourceId × Tensor Number)

/-- The slots of an entity whose first one has a given id. -/
def columnsOf
    (entity : Entity Number)
    (first : FirstId)
    (width : Nat) :
    Columns Number :=
  (List.range width).reverse.map fun slot => (first.id slot, entity.storage.column slot)

/-- Check entities against the inputs of a program and collect their slots. -/
def collect
    (program : Program Number)
    (columns : Columns Number) :
    List (Entity Number × Input) → Except Error (Columns Number)
  | [] => .ok columns
  | (entity, input) :: rest => do
      if ¬ entity.algebra.Agrees program.algebra then
        throw (.programOfAlgebra program.algebra.metric entity.algebra.metric)
      let signature ← entity.signature
      if signature.plain ≠ input.signature.plain then
        throw (.programStructure entity.layout.kind.name)
      collect program (columnsOf entity input.first signature.width ++ columns) rest

/-- The floating point type of results computed from entities. -/
def outputType
    (standard : ElementType)
    (entities : List (Entity Number)) :
    ElementType :=
  match ElementType.promoteAll? (entities.map fun entity => entity.storage.type) with
  | some type => if type.isFloating then type else standard
  | none => standard

/-- The slot with a given id. -/
def column
    (columns : Columns Number)
    (id : SourceId) :
    Except Error (Tensor Number) :=
  match columns.lookup id with
  | some found => .ok found
  | none => .error .missingSlot

/-- The product of slots, from left to right. -/
def multiplySlots
    (columns : Columns Number)
    (product : Tensor Number) :
    List SourceId → Except Error (Tensor Number)
  | [] => .ok product
  | id :: rest => do
      let factor ← column columns id
      let product ← product.mul factor
      multiplySlots columns product rest

/-- The contribution of one step. -/
def stepValue
    (columns : Columns Number)
    (type : ElementType)
    (batch : List Nat)
    (step : Step Number) :
    Except Error (Tensor Number) :=
  match step.ids with
  | [] => Tensor.fill type batch step.coefficient
  | first :: rest => do
      let start ← column columns first
      let product ← multiplySlots columns start rest
      if Arithmetic.isOne step.coefficient then .ok product
      else .ok (product.scale step.coefficient)

/-- The sum of the contributions of several steps, from left to right. -/
def sumSteps
    (columns : Columns Number)
    (type : ElementType)
    (batch : List Nat)
    (total : Tensor Number) :
    List (Step Number) → Except Error (Tensor Number)
  | [] => .ok total
  | step :: rest => do
      let value ← stepValue columns type batch step
      let total ← total.add value
      sumSteps columns type batch total rest

/-- The values of one output slot. -/
def slotValue
    (columns : Columns Number)
    (type : ElementType)
    (batch : List Nat)
    (steps : List (Step Number)) :
    Except Error (Tensor Number) :=
  match steps with
  | [] => .error .missingSlot
  | first :: rest => do
      let start ← stepValue columns type batch first
      let total ← sumSteps columns type batch start rest
      .ok ((total.cast type).stretch batch)

/-- Run a program on entities; the result is storage for the program's blades. -/
def run
    (standard : ElementType)
    (program : Program Number)
    (entities : List (Entity Number)) :
    Except Error (Tensor Number) := do
  if entities.length ≠ program.inputs.length then
    throw (.programArity program.inputs.length entities.length)
  let columns ← collect program [] (entities.zip program.inputs)
  let batch ← Tensor.commonShape (entities.map Entity.batchShape)
  let type := outputType standard entities
  let slots ← (List.range program.blades.length).mapM fun slot =>
    slotValue columns type batch
      (program.steps.filter fun step => step.slot == slot)
  .ok (Tensor.stack type batch slots)

end Program

namespace Function

variable {Number : Type} [Arithmetic Number]

/-- Entities bound at consecutive ranges of ids. -/
structure Arguments where
  leaves : List Expr
  bindings : List Binding
  inputs : List Input

/-- Bind entities of an algebra one after the other, from an id on. -/
def bindAll
    (algebra : Algebra)
    (base : Nat) :
    List (Entity Number) → Build Arguments
  | [] => pure ⟨[], [], []⟩
  | entity :: rest => do
      if ¬ entity.algebra.Agrees algebra then
        throw (.entitiesOfAlgebras algebra.metric entity.algebra.metric)
      let leaf ← Expr.ofBinding entity.identity entity.layout (.integer base)
      let signature ← Build.ofExcept entity.signature
      let others ← bindAll algebra (base + signature.width) rest
      return ⟨leaf :: others.leaves,
        ⟨entity.identity, entity.layout, .natural base⟩ :: others.bindings,
        ⟨signature, .natural base⟩ :: others.inputs⟩

/-- The expression that the result of a function stands for. -/
def resultExpr
    (algebra? : Option Algebra) :
    Operand → Build Expr
  | .expression value => pure value
  | .element value => Expr.ofConstant value
  | .number value =>
      match algebra? with
      | some algebra => Expr.ofNumber algebra value
      | none => throw .noAlgebra
  | .other kind _ =>
      match algebra? with
      | some _ => throw (.notANumber kind)
      | none => throw .noAlgebra

/-- The widths of entities by identity. -/
def widthsOf
    (entities : List (Entity Number)) :
    Nat → Except Error Nat :=
  widthsIn fun identity => entities.find? fun entity => entity.identity == identity

/-- Compile a function for the structure of entities. -/
def build
    (function : Function)
    (entities : List (Entity Number))
    (validate : Bool) :
    Build (Program Number) := do
  let algebra? := entities.head?.map Entity.algebra
  let arguments ← bindAll (algebra?.getD .projective) 0 entities
  let result ← function.body.instantiate arguments.leaves []
  let expression ← resultExpr algebra? result
  if expression.leaves.any fun leaf =>
      !(arguments.bindings.any (Expr.sameBinding leaf)) then
    throw (.foreignBinding function.name)
  let value ← expression.reduce (widthsOf entities) validate
  Program.ofReduced expression value arguments.inputs

end Function

namespace Expr

variable {Number : Type} [Arithmetic Number]

/--
Evaluate an expression over entities bound by hand; `find` gives the current
state of an entity by its identity.  Each binding is an input once.
-/
def compute
    (standard : ElementType)
    (find : Nat → Option (Entity Number))
    (widths : Nat → Except Error Nat)
    (validate : Bool)
    (expression : Expr) :
    Build (Layout × Tensor Number) := do
  let bindings := distinctBindings expression.leaves
  let entities ← bindings.mapM fun binding =>
    match find binding.entity with
    | some entity => pure (entity, binding.first)
    | none => throw Error.unresolvedName
  let inputs ← entities.mapM fun entity => do
    let signature ← Build.ofExcept entity.1.signature
    return Input.mk signature entity.2
  let value ← expression.reduce widths validate
  let program : Program Number ← Program.ofReduced expression value inputs
  let storage ← Build.ofExcept (program.run standard (entities.map Prod.fst))
  return (program.layout, storage)

end Expr

end Versor

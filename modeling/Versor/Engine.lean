import Versor.Config
import Versor.Program

/-!
# Engines

An engine keeps the programs it has compiled, the most recently used one
first, under the function and the structures of the entities.  A request for
a kept program is a hit and moves it to the front.  Every other request of a
function that may be kept is a miss, counted before the program is built;
the program is kept if it can be built and programs are kept at all, and then
the least recently used programs are dropped while there are too many.
-/

namespace Versor

/-- What a program is kept under. -/
structure CacheKey where
  function : FunctionKey
  signatures : List Signature
deriving DecidableEq

/-- Kept programs, the most recently used first, and the counters of requests. -/
structure Engine (Number : Type) where
  programs : List (CacheKey × Program Number)
  hits : Nat
  misses : Nat

/-- The counters of an engine, the bound on its programs and their number. -/
structure CacheInfo where
  hits : Nat
  misses : Nat
  limit : Quantity
  size : Nat

namespace Engine

variable {Number : Type}

/-- An engine that has compiled nothing. -/
def empty : Engine Number :=
  ⟨[], 0, 0⟩

/-- The programs without the one kept under a key. -/
def without
    (key : CacheKey)
    (programs : List (CacheKey × Program Number)) :
    List (CacheKey × Program Number) :=
  programs.filter fun kept => kept.1 ≠ key

/-- The program kept under a key. -/
def find?
    (engine : Engine Number)
    (key : CacheKey) :
    Option (Program Number) :=
  engine.programs.lookup key

/-- Count a hit and move its program to the front. -/
def recordHit
    (engine : Engine Number)
    (key : CacheKey)
    (program : Program Number) :
    Engine Number :=
  { engine with
    programs := (key, program) :: without key engine.programs
    hits := engine.hits + 1 }

/-- Count a miss. -/
def recordMiss
    (engine : Engine Number) :
    Engine Number :=
  { engine with misses := engine.misses + 1 }

/-- The first programs, as many as a bound allows. -/
def within
    (bound? : Option Nat)
    (programs : List (CacheKey × Program Number)) :
    List (CacheKey × Program Number) :=
  match bound? with
  | some bound => programs.take bound
  | none => programs

/-- Keep a program, as far as a configuration allows. -/
def insert
    (engine : Engine Number)
    (config : Config)
    (key : CacheKey)
    (program : Program Number) :
    Engine Number :=
  if config.keepsPrograms then
    { engine with
      programs :=
        within config.programBound?
          ((key, program) :: without key engine.programs) }
  else engine

/-- Forget all programs and counters. -/
def clear
    (_ : Engine Number) :
    Engine Number :=
  empty

/-- The counters of an engine under a configuration. -/
def info
    (engine : Engine Number)
    (config : Config) :
    CacheInfo :=
  ⟨engine.hits, engine.misses, config.cacheSize, engine.programs.length⟩

end Engine

/-- What computations work in: an engine, the configuration in force and a workspace. -/
structure Context (Number : Type) where
  engine : Engine Number
  config : Config
  workspace : Workspace

/-- The limits in force. -/
def Context.limits
    {Number : Type}
    (context : Context Number) :
    Limits :=
  context.workspace.limits

/-- A computation that may fail; a failure does not undo what was done before. -/
abbrev Compute (Number : Type) := ExceptT Error (StateM (Context Number))

namespace Compute

variable {Number : Type}

/-- Run a step of building in the workspace of a context. -/
def build
    {Result : Type}
    (step : Build Result) :
    Compute Number Result :=
  ExceptT.mk fun context =>
    let (result, workspace) := step.run.run context.workspace
    (result, { context with workspace := workspace })

/-- A result that may be an error, as a computation. -/
def ofExcept
    {Result : Type}
    (result : Except Error Result) :
    Compute Number Result :=
  ExceptT.mk (pure result)

/-- Change the engine of a context. -/
def modifyEngine
    (change : Engine Number → Engine Number) :
    Compute Number Unit :=
  modify fun context => { context with engine := change context.engine }

variable [Arithmetic Number]

/-- Storage with a layout, under a new identity. -/
def place
    (layout : Layout)
    (storage : Tensor Number) :
    Compute Number (Entity Number) := do
  return ⟨← build Build.fresh, layout, storage⟩

/-- An entity of a layout with given storage, which is checked first. -/
def wrapGiven
    (layout : Layout)
    (storage : Tensor Number) :
    Compute Number (Entity Number) := do
  let context ← get
  let storage ← ofExcept
    (Entity.checkStorage context.limits.capacity context.config.elementType layout storage)
  place layout storage

/-- An entity of a layout with computed storage, for which there has to be room. -/
def wrap
    (layout : Layout)
    (storage : Tensor Number) :
    Compute Number (Entity Number) := do
  if !Tensor.isRepresentable (← get).limits.capacity storage.shape then
    throw .incompatibleShapes
  wrapGiven layout storage

/-- The program of a function for the structure of entities, kept or built, under settings. -/
def compileWith
    (settings : Config)
    (function : Function)
    (entities : List (Entity Number)) :
    Compute Number (Program Number) := do
  let signatures ← ofExcept (entities.mapM Entity.signature)
  if function.isHashable then
    let key : CacheKey := ⟨function.key, signatures.map Signature.plain⟩
    match (← get).engine.find? key with
    | some program =>
        modifyEngine fun engine => engine.recordHit key program
        return program
    | none =>
        modifyEngine Engine.recordMiss
        let program ← build (function.build entities settings.checksBindings)
        modifyEngine fun engine => engine.insert settings key program
        return program
  else
    build (function.build entities settings.checksBindings)

/-- The program of a function under the configuration in force. -/
def compile
    (function : Function)
    (entities : List (Entity Number)) :
    Compute Number (Program Number) := do
  compileWith (← get).config function entities

/-- Run a program on entities; the result is a generic entity on its blades. -/
def execute
    (program : Program Number)
    (entities : List (Entity Number)) :
    Compute Number (Entity Number) := do
  let standard := (← get).config.elementType
  let storage ← ofExcept (program.run standard entities)
  wrap program.layout storage

/-- Evaluate a function on entities. -/
def apply
    (function : Function)
    (entities : List (Entity Number)) :
    Compute Number (Entity Number) := do
  let program ← compile function entities
  execute program entities

/-- Reduce an expression over entities bound by hand. -/
def reduce
    (find : Nat → Option (Entity Number))
    (validate : Bool)
    (expression : Expr) :
    Compute Number SpelledMultivector := do
  let value ← build (expression.reduce (widthsIn find) validate)
  return ⟨value, expression.spelling (← get).workspace.results⟩

/-- Evaluate an expression over entities bound by hand to an entity. -/
def evaluate
    (find : Nat → Option (Entity Number))
    (widths : Nat → Except Error Nat)
    (validate : Bool)
    (expression : Expr) :
    Compute Number (Entity Number) := do
  let standard := (← get).config.elementType
  let (layout, storage) ← build (expression.compute standard find widths validate)
  wrap layout storage

end Compute

end Versor

import Versor.Argument
import Versor.Expression.Named
import Versor.Expression.Operation
import Versor.Projective.Part
import Versor.Projective.Transform
import Versor.Tensor.Selection

/-!
# Sessions

A session holds the entities, engines and configurations that a caller has
named by their identities.  Storage lives in buffers, because entities may
share it: assigning to the storage of one entity then shows in the others,
while replacing it does not.  Every computation takes a snapshot of the
entities it reads and its result is adopted as a new entity, unless it is
one of the session's entities already.
-/

namespace Versor

/-- An entity of a session: its layout and the buffer of its storage. -/
structure Record where
  layout : Layout
  buffer : Nat

/-- An engine of a session; without settings of its own it follows the default ones. -/
structure NamedEngine where
  engine : Engine Cell
  settings : Option Config

/-- Everything that a caller may refer to. -/
structure Session where
  context : Context Cell
  records : List (Nat × Record)
  buffers : Array (Tensor Cell)
  engines : Array NamedEngine
  configs : Array Config
  /-- The configuration that is the default one. -/
  standard : Nat

/-- An operation of a session; a failure does not undo what was done before. -/
abbrev SessionM := ExceptT Error (StateM Session)

namespace Session

/-- The session in which nothing has happened. -/
def empty : Session where
  context := ⟨Engine.empty, Config.default, Workspace.initial .usual⟩
  records := []
  buffers := #[]
  engines := #[]
  configs := #[Config.default]
  standard := 0

/-- A result that may be an error, as an operation. -/
def ofExcept
    {Result : Type}
    (result : Except Error Result) :
    SessionM Result :=
  ExceptT.mk (pure result)

/-- Run a computation with the default engine. -/
def compute
    {Result : Type}
    (computation : Compute Cell Result) :
    SessionM Result :=
  ExceptT.mk fun session =>
    let (result, context) := computation.run.run session.context
    (result, { session with context := context })

/-- Run a step of building. -/
def build
    {Result : Type}
    (step : Build Result) :
    SessionM Result :=
  compute (Compute.build step)

/-! ## Entities -/

/-- The current state of an entity, if the session has it. -/
def find?
    (session : Session)
    (identity : Nat) :
    Option (Entity Cell) := do
  let record ← session.records.lookup identity
  let storage ← session.buffers[record.buffer]?
  some ⟨identity, record.layout, storage⟩

/-- The current state of an entity. -/
def entity
    (identity : Nat) :
    SessionM (Entity Cell) := do
  match (← get).find? identity with
  | some found => return found
  | none => throw .unresolvedName

/-- The current states of several entities. -/
def entities
    (identities : List Nat) :
    SessionM (List (Entity Cell)) :=
  identities.mapM entity

/-- The current storage widths of the entities. -/
def widths
    (session : Session) :
    Nat → Except Error Nat :=
  widthsIn session.find?

/-- Make a computed entity one of the session, unless it is one already. -/
def adopt
    (computed : Entity Cell) :
    SessionM Nat := do
  let session ← get
  if (session.records.lookup computed.identity).isSome then
    return computed.identity
  set
    { session with
      records :=
        (computed.identity, ⟨computed.layout, session.buffers.size⟩) ::
          session.records
      buffers := session.buffers.push computed.storage }
  return computed.identity

/-- Make an entity that shares the buffer of another one. -/
def shareBuffer
    (layout : Layout)
    (source : Nat) :
    SessionM Nat := do
  let identity ← build Build.fresh
  let session ← get
  match session.records.lookup source with
  | some record =>
      set
        { session with
          records := (identity, ⟨layout, record.buffer⟩) :: session.records }
      return identity
  | none => throw .unresolvedName

/-- Run a computation and adopt its result. -/
def create
    (computation : Compute Cell (Entity Cell)) :
    SessionM Nat := do
  adopt (← compute computation)

/-- The floating point type of new storage. -/
def standardType : SessionM ElementType := do
  return (← get).context.config.elementType

/-- An entity with new storage. -/
def ofTensor
    (layout : Layout)
    (data : Argument) :
    SessionM Nat := do
  let tensor ← ofExcept (data.toTensor (← standardType))
  create (Compute.wrapGiven layout tensor)

/-- A generic entity on literal blades. -/
def newGeneric
    (algebra : Algebra)
    (elements : List Literal)
    (data : Argument) :
    SessionM Nat := do
  let layout ← ofExcept (Layout.ofElements algebra elements)
  ofTensor layout data

/-- An entity with one value for each slot. -/
def ofArguments
    (layout : Layout)
    (arguments : List Argument) :
    SessionM Nat :=
  create (Compute.ofValues layout (arguments.map Argument.toSlotValue))

/-- A rotor with an angle and an axis. -/
def newRotor
    (angle x y z : Argument) :
    SessionM Nat :=
  create
    (Compute.rotor angle.toSlotValue x.toSlotValue y.toSlotValue z.toSlotValue)

/-- The layout of a type whose blades are fixed. -/
def fixedLayout? : Kind → Option Layout
  | .plane => some .plane
  | .point => some .point
  | .vector => some .vector
  | .line => some .line
  | .rotor => some .rotor
  | .translator => some .translator
  | .motor => some .motor
  | .dualNumber => some .dualNumber
  | _ => none

/--
Why storage alone makes no entity of a type without fixed blades: it would
have no slots, and even then it would lack an algebra.
-/
def missingLayout
    (kind : Kind)
    (shape : List Nat) :
    Error :=
  if shape.getLast? = some 0 then .missingMember
  else .storageShape kind.name 0 shape

/-- An entity of a fixed layout with given storage. -/
def ofData
    (kind : Kind)
    (data : Argument) :
    SessionM Nat := do
  match fixedLayout? kind with
  | some layout => ofTensor layout data
  | none =>
      let tensor ← ofExcept (data.toTensor (← standardType))
      throw (missingLayout kind tensor.shape)

/-- A value in the place of an algebra is none, which comes out after the other value is read. -/
def missingAlgebra
    (value : Argument) :
    SessionM Nat := do
  let _ ← compute
    (Compute.ofValues (.scalar .projective) [value.toSlotValue] : Compute Cell (Entity Cell))
  throw .missingMember

/-- A value in the place of an algebra has no blades, so that is all a generic entity may have. -/
def genericWithout
    (elements data : Argument) :
    SessionM Nat := do
  match ← ofExcept elements.members with
  | [] => ofData .generic data
  | _ => throw .missingMember

/-- An entity of a type, from the values that the type takes; only some types take an algebra. -/
def construct
    (kind : Kind)
    (algebra? : Option Algebra)
    (arguments : List Argument) :
    SessionM Nat :=
  match kind, algebra?, arguments with
  | .generic, some algebra, [elements, data] => do
      newGeneric algebra (← ofExcept elements.members) data
  | .generic, none, [_, elements, data] => genericWithout elements data
  | .scalar, some algebra, [value] => ofArguments (.scalar algebra) [value]
  | .scalar, none, [_, value] => missingAlgebra value
  | .plane, none, [_, _, _, _] => ofArguments .plane arguments
  | .point, none, [_, _, _] => ofArguments .point arguments
  | .vector, none, [_, _, _] => ofArguments .vector arguments
  | .line, none, [_, _, _, _, _, _] => ofArguments .line arguments
  | .rotor, none, [angle, x, y, z] => newRotor angle x y z
  | .translator, none, [_, _, _, _] => ofArguments .translator arguments
  | .motor, none, [data] => ofTensor .motor data
  | .dualNumber, none, [_, _] => ofArguments .dualNumber arguments
  | _, _, _ => throw .argumentCount

/-- An entity with the storage of another one, which it shares if it can be used as it is. -/
def shareAs
    (layout : Layout)
    (source : Nat) :
    SessionM Nat := do
  let found ← entity source
  if found.storage.type.isFloating then
    let _ ← ofExcept
      (Entity.checkStorage (← get).context.limits.capacity (← standardType) layout found.storage)
    shareBuffer layout source
  else
    create (Compute.wrapGiven layout found.storage)

/-- An entity of a fixed layout with the storage of another one. -/
def ofSource
    (kind : Kind)
    (source : Nat) :
    SessionM Nat := do
  match fixedLayout? kind with
  | some layout => shareAs layout source
  | none =>
      let found ← entity source
      throw (missingLayout kind found.storage.shape)

/-- The motor that moves nothing. -/
def identityMotor
    (batch : List Int)
    (type? : Option ElementType) :
    SessionM Nat := do
  let shape ← ofExcept (Tensor.checkShape (← get).context.limits.capacity (batch ++ [8]))
  let type := type?.getD (← standardType)
  create (Compute.identityMotor shape.dropLast type)

/-- A generic entity with zeros as its values. -/
def zeros
    (algebra : Algebra)
    (elements : List Literal)
    (batch : List Int)
    (type? : Option ElementType) :
    SessionM Nat := do
  let capacity := (← get).context.limits.capacity
  let shape ← ofExcept (Tensor.checkShape capacity (batch ++ [(elements.length : Int)]))
  let type := type?.getD (← standardType)
  newGeneric algebra elements (.tensor (.filled type shape Arithmetic.zero))

/-- The entity of a type with the values of another entity. -/
def fromEntity
    (kind : Kind)
    (source : Nat) :
    SessionM Nat := do
  let found ← entity source
  if kind = .generic ∧ found.layout.isBladeList then
    if found.layout.kind = .generic then return source
    else
      shareAs
        (.generic found.algebra found.layout.elements found.layout.spelling) source
  else
    create (Compute.fromEntity kind found)

/-- The generic form of an entity. -/
def toEntity
    (source : Nat) :
    SessionM Nat := do
  let found ← entity source
  create (Compute.toEntity found)

/-- An entity with a copy of another one's storage. -/
def clone
    (source : Nat) :
    SessionM Nat := do
  let found ← entity source
  create (Compute.place found.layout found.storage)

/-- An entity of the layout and with the buffer of another one. -/
def shareStorage
    (source : Nat) :
    SessionM Nat := do
  let found ← entity source
  shareBuffer found.layout source

/-- Overwrite the buffer of an entity. -/
def writeBuffer
    (target : Nat)
    (storage : Tensor Cell) :
    SessionM Unit :=
  modify fun session =>
    match session.records.lookup target with
    | some record =>
        { session with
          buffers := session.buffers.setIfInBounds record.buffer storage }
    | none => session

/-- Assign a number to entries of the storage of an entity, up to a place that does not exist. -/
def assign
    (target : Nat)
    (places : List Literal)
    (value : Literal) :
    SessionM Unit := do
  let found ← entity target
  let (storage, outcome) ← ofExcept (found.storage.assign places value)
  writeBuffer target storage
  ofExcept outcome

/-- Scale the axis of a rotor or the direction of a translator to unit length. -/
def normalize
    (target : Nat) :
    SessionM Unit := do
  let found ← entity target
  writeBuffer target (← ofExcept found.normalized)

/-- Give an entity new storage, whatever its type and shape. -/
def replaceStorage
    (target : Nat)
    (data : Argument) :
    SessionM Unit := do
  let storage ← ofExcept (data.toTensor (← standardType))
  modify fun session =>
    { session with
      records := session.records.map fun record =>
        if record.1 = target then
          (record.1, ⟨record.2.layout, session.buffers.size⟩)
        else record
      buffers := session.buffers.push storage }

/-- Values side by side. -/
def stackValues
    (arguments : List Argument) :
    SessionM (Tensor Cell) := do
  compute (Compute.stackValues (arguments.map Argument.toSlotValue))

/-! ## Expressions and programs -/

/-- The canonical multivector of an expression as it was given. -/
def reduce
    (validate : Bool)
    (expression : Expr) :
    SessionM SpelledMultivector := do
  compute (Compute.reduce (← get).find? validate expression)

/-- Refuse an expression whose bindings share ids. -/
def checkBindings
    (expression : Expr) :
    SessionM Unit := do
  ofExcept (expression.checkBindings (← get).widths)

/-- Evaluate an expression over entities bound by hand. -/
def evaluate
    (validate : Bool)
    (expression : Expr) :
    SessionM Nat := do
  let session ← get
  create (Compute.evaluate session.find? session.widths validate expression)

/-- Build a program without keeping it. -/
def buildProgram
    (function : Function)
    (arguments : List Nat)
    (validate : Bool) :
    SessionM (Program Cell) := do
  build (function.build (← entities arguments) validate)

/-- Run a computation with an engine of the session in place of the default one. -/
def withEngine
    {Result : Type}
    (engine? : Option Nat)
    (computation : Config → Compute Cell Result) :
    SessionM Result := do
  let session ← get
  match engine? with
  | none => compute (computation session.context.config)
  | some place =>
      match session.engines[place]? with
      | none => throw .unresolvedName
      | some named =>
          let settings := named.settings.getD session.context.config
          let (result, context) :=
            (computation settings).run.run
              { session.context with engine := named.engine }
          set
            { session with
              context := { context with engine := session.context.engine }
              engines :=
                session.engines.setIfInBounds place
                  { named with engine := context.engine } }
          ofExcept result

/-- Compile a function with an engine. -/
def compile
    (engine? : Option Nat)
    (function : Function)
    (arguments : List Nat) :
    SessionM (Program Cell) := do
  let found ← entities arguments
  withEngine engine? fun settings =>
    Compute.compileWith settings function found

/-- Compile a function with an engine and run it. -/
def apply
    (engine? : Option Nat)
    (function : Function)
    (arguments : List Nat) :
    SessionM Nat := do
  let found ← entities arguments
  let result ← withEngine engine? fun settings => do
    let program ← Compute.compileWith settings function found
    Compute.execute program found
  adopt result

/-- Run a program on entities. -/
def runProgram
    (program : Program Cell)
    (arguments : List Nat) :
    SessionM Nat := do
  create (Compute.execute program (← entities arguments))

/-- The counters of an engine. -/
def cacheInfo
    (engine? : Option Nat) :
    SessionM CacheInfo :=
  withEngine engine? fun settings => do
    return (← get).engine.info settings

/-- Forget what an engine has compiled. -/
def clearCache
    (engine? : Option Nat) :
    SessionM Unit :=
  withEngine engine? fun _ => Compute.modifyEngine Engine.clear

/-- A new engine, with settings of its own or following the default ones. -/
def newEngine
    (settings : Option Config) :
    SessionM Nat := do
  let session ← get
  set { session with engines := session.engines.push ⟨Engine.empty, settings⟩ }
  return session.engines.size

/-! ## Configurations -/

/-- Make a configuration one of the session. -/
def addConfig
    (config : Config) :
    SessionM Nat := do
  let session ← get
  set { session with configs := session.configs.push config }
  return session.configs.size

/-- A configuration of the session. -/
def config
    (identity : Nat) :
    SessionM Config := do
  match (← get).configs[identity]? with
  | some found => return found
  | none => throw .unresolvedName

/-- Make a configuration the default one. -/
def setConfig
    (identity : Nat) :
    SessionM Unit := do
  let found ← config identity
  modify fun session =>
    { session with
      standard := identity
      context := { session.context with config := found } }

/-! ## Projective operations -/

/-- The line which generates a motor, with a given bound or the configured one. -/
def log
    (source : Nat)
    (bound? : Option Literal) :
    SessionM Nat := do
  let found ← entity source
  let bound := bound?.getD (← get).context.config.threshold
  create (Compute.log (Cell.ofBound bound) found)

/-- An entity turned about an axis, through a center if one is given. -/
def rotate
    (source : Nat)
    (angle : Argument)
    (axis : List Argument)
    (center? : Option (List Argument)) :
    SessionM Nat := do
  let found ← entity source
  create
    (Compute.rotate found angle.toSlotValue (axis.map Argument.toSlotValue)
      (center?.map fun center => center.map Argument.toSlotValue))

/-- An entity moved by a distance along a direction. -/
def translate
    (source : Nat)
    (distance : Argument)
    (direction : List Argument) :
    SessionM Nat := do
  let found ← entity source
  create
    (Compute.translate found distance.toSlotValue
      (direction.map Argument.toSlotValue))

end Session

end Versor

import Versor.Place
import Versor.Tensor.Storage

/-!
# Selections of entries

Written places select entries of a tensor, one dimension after the other: a
single place fixes a dimension, and a sequence picks places along it.  True
and nothing take up no dimension and add one of size one, false adds one
without entries.  A sequence of truth values, which may be nested, is a
pattern: it covers as many dimensions as it is nested, and picks the places
at which it is true.

The places that several sequences pick are stretched to a common shape and
go together, so a selection has one dimension for all of them, where they
are next to each other, or else in front.  `steps` lists the distances of
the selected entries from the first entry in row-major order; a place that
does not exist has none.
-/

namespace Versor

/-- A dimension of a tensor: its size, and how far neighbours along it are apart. -/
structure Axis where
  size : Nat
  stride : Nat
deriving DecidableEq

/-- Places picked along a dimension, or a pattern of truth values if its type is that. -/
abbrev Pick := Tensor Cell

/-- The dimensions of selected entries, each with the places picked along it. -/
abbrev Spread := List (Axis × Option Pick)

/-- Entries of a tensor, as selected by places written down so far. -/
structure Selection where
  /-- Distance of the first entry. -/
  start : Nat
  /--
  The dimensions in front of those that no place has been written for, with
  what is picked from them; a pattern stands with all that it covers.
  -/
  done : List (List Axis × Option Pick)
  /-- The dimensions that no place has been written for. -/
  rest : List Axis

namespace Axis

/-- The dimensions of a shape in row-major order. -/
def ofShape : List Nat → List Axis
  | [] => []
  | size :: rest => ⟨size, Tensor.entryCount rest⟩ :: ofShape rest

/-- The steps to all places along a dimension. -/
def steps
    (axis : Axis) :
    List (Option Nat) :=
  (List.range axis.size).map fun place => some (place * axis.stride)

/-- The step to a place, if it exists. -/
def step?
    (axis : Axis) :
    Cell → Option Nat
  | .integer place =>
      (placeAmong axis.size place).toOption.map fun place => place * axis.stride
  | .real _ => none

end Axis

namespace Pick

mutual

/-- Why a literal cannot be part of a sequence of places, if it cannot. -/
def fault? : Literal → Option Error
  | .text _ => some .notNumeric
  | .nothing | .table _ => some .untypedEntry
  | .sequence members => faultAmong? members
  | _ => none

/-- The first reason why literals cannot be parts of a sequence of places. -/
def faultAmong? : List Literal → Option Error
  | [] => none
  | first :: rest => (fault? first).or (faultAmong? rest)

end

mutual

/-- Whether a literal is a truth value, or a sequence of nothing else. -/
def isPattern : Literal → Bool
  | .boolean _ => true
  | .sequence (first :: rest) => isPattern first && arePatterns rest
  | _ => false

/-- Whether literals are truth values, or sequences of nothing else. -/
def arePatterns : List Literal → Bool
  | [] => true
  | first :: rest => isPattern first && arePatterns rest

end

/-- What a written sequence picks. -/
def ofSequence
    (members : List Literal) :
    Except Error Pick :=
  match faultAmong? members with
  | some fault => .error fault
  | none =>
      let type := if isPattern (.sequence members) then .boolean else .int64
      Tensor.ofLiteral type (.sequence members)

/-- What a truth value picks along a dimension of size one. -/
def ofTruth
    (value : Bool) :
    Pick :=
  if value then ⟨.int64, [1], #[.integer 0]⟩ else ⟨.int64, [0], #[]⟩

/-- The places at which a pattern is true, one pick for each of its dimensions. -/
def places
    (pattern : Pick) :
    List Pick :=
  let found := (Tensor.indices pattern.shape).filter fun index =>
    !(pattern.get index).isZero
  (List.range pattern.shape.length).map fun dimension =>
    ⟨.int64, [found.length],
      (found.map fun index =>
        Cell.integer ((index[dimension]?.getD 0 : Nat) : Int)).toArray⟩

/-- The number of dimensions that something is picked from. -/
def depth
    (pick : Pick) :
    Nat :=
  if pick.type = .boolean then pick.shape.length else 1

/-- What is picked from each of several dimensions, which a pattern has to fit. -/
def spread
    (axes : List Axis)
    (pick : Pick) :
    Except Error Spread :=
  if pick.type = .boolean then
    if axes.map Axis.size = pick.shape then .ok (axes.zip (pick.places.map some))
    else .error .indexRange
  else if axes.length = 1 then .ok (axes.map fun axis => (axis, some pick))
  else .error .indexRange

end Pick

/-- One dimension of the entries that are selected, or several that go together. -/
structure Extent where
  shape : List Nat
  steps : List (Option Nat)

namespace Extent

/-- A whole dimension; the steps are left out where there is nothing to select. -/
def ofAxis
    (isEmpty : Bool)
    (axis : Axis) :
    Extent :=
  ⟨[axis.size], if isEmpty then [] else axis.steps⟩

/-- The picks of several dimensions in a common shape. -/
def ofPicks
    (shape : List Nat)
    (picks : List (Axis × Pick)) :
    Extent :=
  ⟨shape,
    (Tensor.indices shape).map fun index =>
      picks.foldl
        (fun total (axis, pick) => do
          let step ← axis.step? (pick.get (Tensor.stretchIndex pick.shape index))
          some ((← total) + step))
        (some 0)⟩

/-- All sums of one step for each of several dimensions, the last one running fastest. -/
def sums : List Extent → List (Option Nat)
  | [] => [some 0]
  | extent :: rest =>
      let others := sums rest
      extent.steps.flatMap fun step =>
        others.map fun other => do some ((← step) + (← other))

end Extent

namespace Selection

/-- Whether a literal takes up a dimension. -/
def takesDimension : Literal → Bool
  | .nothing | .boolean _ => false
  | _ => true

/-- Whether something is picked from more dimensions than there are. -/
def isBeyond
    (selection : Selection) :
    Bool :=
  selection.done.any fun (axes, pick?) =>
    pick?.any fun pick => axes.length < pick.depth

/-- A selection with a dimension of size one, of which something may be picked. -/
def withDimension
    (selection : Selection)
    (pick? : Option Pick) :
    Except Error Selection :=
  if selection.isBeyond then .error .indexRange
  else .ok { selection with done := selection.done ++ [([⟨1, 0⟩], pick?)] }

/-- What is left of a selection by one more written place. -/
def atPlace
    (selection : Selection)
    (literal : Literal) :
    Except Error Selection :=
  match literal with
  | .nothing => selection.withDimension none
  | .boolean value => selection.withDimension (some (Pick.ofTruth value))
  | .integer place => do
      let _ ← Cell.ofInteger place
      match selection.rest with
      | axis :: rest =>
          let position ← placeAmong axis.size place
          .ok ⟨selection.start + position * axis.stride, selection.done, rest⟩
      | [] => .error .indexRange
  | .sequence members => do
      let pick ← Pick.ofSequence members
      let covered := selection.rest.take pick.depth
      .ok
        ⟨selection.start, selection.done ++ [(covered, some pick)],
          selection.rest.drop pick.depth⟩
  | .text _ => .error .notNumeric
  | _ => .error .indexRange

/-- The entries at places written for the first dimensions of a shape. -/
def ofPlaces
    (shape : List Nat)
    (written : List Literal) :
    Except Error Selection :=
  if shape.length < (written.filter takesDimension).length then .error .indexRange
  else written.foldlM atPlace ⟨0, [], Axis.ofShape shape⟩

/-- The entries at a place written for the last dimension of a shape. -/
def ofLastPlace
    (shape : List Nat)
    (written : Literal) :
    Except Error Selection :=
  let count := if takesDimension written then 1 else 0
  if shape.length < count then .error .indexRange
  else
    let axes := Axis.ofShape shape
    let before := axes.take (axes.length - count)
    atPlace ⟨0, before.map fun axis => ([axis], none), axes.drop before.length⟩ written

/-- All dimensions, each with the places picked along it; patterns have to fit. -/
def spread
    (selection : Selection) :
    Except Error Spread := do
  let done ← selection.done.mapM fun (axes, pick?) =>
    match pick? with
    | some pick => pick.spread axes
    | none => .ok (axes.map fun axis => (axis, none))
  .ok (done.flatten ++ selection.rest.map fun axis => (axis, none))

end Selection

namespace Spread

/-- The dimensions that are picked from. -/
def picked
    (spread : Spread) :
    List (Axis × Pick) :=
  spread.filterMap fun (axis, pick?) => pick?.map fun pick => (axis, pick)

/-- The dimensions that are not picked from. -/
def free
    (spread : Spread) :
    List Axis :=
  (spread.filter fun pair => pair.2.isNone).map Prod.fst

/-- Whether what is picked is next to each other. -/
def isAdjacent
    (spread : Spread) :
    Bool :=
  let picks := spread.map Prod.snd
  ((picks.dropWhile Option.isNone).dropWhile Option.isSome).all Option.isNone

/-- The common shape of what is picked. -/
def shape
    (spread : Spread) :
    Except Error (List Nat) :=
  match (spread.picked.map fun pair => pair.2.shape).foldlM Tensor.stretchShape? [] with
  | some shape => .ok shape
  | none => .error .indexRange

/-- Whether places of a dimension without places are picked, the shape of the picks given. -/
def picksFromNothing
    (spread : Spread)
    (shape : List Nat) :
    Bool :=
  Tensor.entryCount shape ≠ 0 && spread.picked.any fun pair => pair.1.size == 0

/-- Whether there is nothing to select from along some dimension that is not picked from. -/
def isVoid
    (spread : Spread) :
    Bool :=
  spread.free.any fun axis => axis.size == 0

/-- The dimensions of the selected entries, the shape of the picks given. -/
def extents
    (spread : Spread)
    (shape : List Nat) :
    List Extent :=
  let isEmpty := spread.isVoid || Tensor.entryCount shape == 0
  let whole := List.map (Extent.ofAxis isEmpty)
  if spread.picked.isEmpty then whole spread.free
  else
    let group := if isEmpty then ⟨shape, []⟩ else Extent.ofPicks shape spread.picked
    let before := spread.takeWhile fun pair => pair.2.isNone
    let front := if spread.isAdjacent then free before else []
    whole front ++ group :: whole (spread.free.drop front.length)

end Spread

namespace Selection

/--
The dimensions of entries that are read.  No place exists along a dimension
without places.
-/
def extents
    (selection : Selection) :
    Except Error (List Extent) := do
  let spread ← selection.spread
  let shape ← spread.shape
  if spread.picksFromNothing shape then
    throw .indexRange
  return spread.extents shape

/--
The dimensions of entries that are assigned to.  What is picked from one
dimension only is not looked at when there are no entries anyway; without
that, entries would have to be made up for places that do not exist.
-/
def targets
    (selection : Selection) :
    Except Error (List Extent) := do
  let spread ← selection.spread
  let shape ← spread.shape
  if spread.picksFromNothing shape then
    if spread.picked.length ≠ 1 then
      throw .indexRange
    if !spread.isVoid then
      throw .incompatibleShapes
  return spread.extents shape

end Selection

namespace Tensor

/-- A number written to entries one after the other, up to the first one that does not exist. -/
def write
    (cell : Cell)
    (data : Array Cell) :
    List (Option Nat) → Array Cell × Except Error Unit
  | [] => (data, .ok ())
  | some step :: rest => write cell (data.setIfInBounds step cell) rest
  | none :: _ => (data, .error .indexRange)

/--
Assign a number to the entries at written places: the number has to be one,
then the places to be well formed, then the number to be in range.  A picked
place that does not exist is found when it is reached, so what was assigned
before stays.
-/
def assign
    (tensor : Tensor Cell)
    (written : List Literal)
    (value : Literal) :
    Except Error (Tensor Cell × Except Error Unit) := do
  let cell ← Cell.ofAssigned value
  let selection ← Selection.ofPlaces tensor.shape written
  let targets ← selection.targets
  if ¬ Cell.fits tensor.type cell then
    throw .entryTooLarge
  let steps := (Extent.sums targets).map fun step => step.map (selection.start + ·)
  let (data, outcome) := write (Cell.cast tensor.type cell) tensor.data steps
  .ok (⟨tensor.type, tensor.shape, data⟩, outcome)

/-- The entries at a place written for the last dimension. -/
def entriesAt
    (tensor : Tensor Cell)
    (written : Literal) :
    Except Error (Tensor Cell) := do
  let selection ← Selection.ofLastPlace tensor.shape written
  let extents ← selection.extents
  let entries ← (Extent.sums extents).mapM fun step =>
    match step with
    | some step =>
        Except.ok ((tensor.data[selection.start + step]?).getD (.integer 0))
    | none => .error .indexRange
  .ok ⟨tensor.type, extents.flatMap Extent.shape, entries.toArray⟩

end Tensor

end Versor

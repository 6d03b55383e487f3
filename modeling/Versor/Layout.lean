import Versor.Blade.Named
import Versor.FirstId
import Versor.Multivector.Canonical

/-!
# Layouts of entities

A layout says what the storage slots of an entity mean: its algebra, the
blades it fills, the width of its storage, and how the slots enter the
multivector that the entity stands for.  Generic entities list their blades;
the types of projective geometry have fixed ones.  A layout and a first id
determine the bound multivector, whatever values the storage holds.  How the
blades of a generic layout were given is kept for showing them only.
-/

namespace Versor

/-- The types of entities. -/
inductive Kind
  | generic
  | scalar
  | plane
  | point
  | vector
  | line
  | rotor
  | translator
  | motor
  | dualNumber
deriving DecidableEq

namespace Kind

/-- All types. -/
def all : List Kind :=
  [.generic, .scalar, .plane, .point, .vector, .line, .rotor, .translator, .motor,
    .dualNumber]

/-- Name of a type. -/
def name : Kind → String
  | .generic => "Entity"
  | .scalar => "Scalar"
  | .plane => "Plane"
  | .point => "Point"
  | .vector => "Vector"
  | .line => "Line"
  | .rotor => "Rotor"
  | .translator => "Translator"
  | .motor => "Motor"
  | .dualNumber => "DualNumber"

/-- The type with a given name. -/
def named?
    (name : String) :
    Option Kind :=
  all.find? fun kind => kind.name == name

end Kind

/-- What the storage slots of an entity mean. -/
inductive Layout
  | generic (algebra : Algebra) (elements : List Blade) (spelling : Spelling)
  | scalar (algebra : Algebra)
  | plane
  | point
  | vector
  | line
  | rotor
  | translator
  | motor
  | dualNumber
deriving DecidableEq

namespace Layout

/-- The type of entities with a layout. -/
def kind : Layout → Kind
  | .generic _ _ _ => .generic
  | .scalar _ => .scalar
  | .plane => .plane
  | .point => .point
  | .vector => .vector
  | .line => .line
  | .rotor => .rotor
  | .translator => .translator
  | .motor => .motor
  | .dualNumber => .dualNumber

/-- The algebra of a layout; all but the first two are projective. -/
def algebra : Layout → Algebra
  | .generic algebra _ _ => algebra
  | .scalar algebra => algebra
  | _ => .projective

/-- The even blades of the projective algebra, in the order of a motor's slots. -/
def motorElements : List Blade :=
  [0, .e01, .e02, .e12, .e03, .e13, .e23, .e0123]

/-- The blades of a dual number. -/
def dualNumberElements : List Blade :=
  [0, .e0123]

/-- The blades that the bound multivector fills, in the order of the layout. -/
def elements : Layout → List Blade
  | .generic _ elements _ => elements
  | .scalar _ => [0]
  | .plane => [.e0, .e1, .e2, .e3]
  | .point => [.e012, .e013, .e023, .e123]
  | .vector => [.e012, .e013, .e023]
  | .line => [.e01, .e02, .e12, .e03, .e13, .e23]
  | .rotor => [0, .e12, .e13, .e23]
  | .translator => [0, .e01, .e02, .e03]
  | .motor => motorElements
  | .dualNumber => dualNumberElements

/-- How the blades were given. -/
def spelling : Layout → Spelling
  | .generic _ _ spelling => spelling
  | _ => []

/-- The same layout with its algebra and its blades given by numbers. -/
def plain : Layout → Layout
  | .generic algebra elements _ => .generic algebra.plain elements []
  | .scalar algebra => .scalar algebra.plain
  | layout => layout

/-- Number of storage slots. -/
def width : Layout → Nat
  | .generic _ elements _ => elements.length
  | .scalar _ => 1
  | .plane => 4
  | .point => 3
  | .vector => 3
  | .line => 6
  | .rotor => 5
  | .translator => 4
  | .motor => 8
  | .dualNumber => 2

/-- Whether slot `i` holds the coefficient of the `i`-th blade. -/
def isBladeMapped : Layout → Bool
  | .point | .vector | .line | .rotor | .translator => false
  | _ => true

/-- Whether entities of the layout list their blades explicitly. -/
def isBladeList : Layout → Bool
  | .generic _ _ _ | .scalar _ | .motor | .dualNumber => true
  | _ => false

/-- What slots contribute to a blade: a coefficient times the product of their values. -/
structure SlotTerm where
  blade : Blade
  coefficient : Rat
  slots : List Nat

/-- One slot for each blade. -/
def mappedTerms
    (elements : List Blade) :
    List SlotTerm :=
  elements.mapIdx fun slot blade => ⟨blade, 1, [slot]⟩

/-- The contributions of the slots to the blades. -/
def slotTerms : Layout → List SlotTerm
  | .point => [⟨.e012, -1, [2]⟩, ⟨.e013, 1, [1]⟩, ⟨.e023, -1, [0]⟩, ⟨.e123, 1, []⟩]
  | .vector => [⟨.e012, -1, [2]⟩, ⟨.e013, 1, [1]⟩, ⟨.e023, -1, [0]⟩]
  | .line =>
      [⟨.e01, 1, [3]⟩, ⟨.e02, 1, [4]⟩, ⟨.e12, 1, [2]⟩, ⟨.e03, 1, [5]⟩, ⟨.e13, -1, [1]⟩,
        ⟨.e23, 1, [0]⟩]
  | .rotor =>
      [⟨0, 1, [0]⟩, ⟨.e12, -1, [1, 4]⟩, ⟨.e13, 1, [1, 3]⟩, ⟨.e23, -1, [1, 2]⟩]
  | .translator =>
      let minusHalf : Rat := mkRat (-1) 2
      [⟨0, 1, []⟩, ⟨.e01, minusHalf, [0, 1]⟩, ⟨.e02, minusHalf, [0, 2]⟩,
        ⟨.e03, minusHalf, [0, 3]⟩]
  | layout => mappedTerms layout.elements

/-- The contributions of slots that have given ids. -/
def bindingEntries
    (layout : Layout)
    (id : Nat → SourceId) :
    List Entry :=
  layout.slotTerms.map fun term => ⟨term.blade, term.coefficient, term.slots.map id⟩

/--
The multivector that an entity stands for, its slots having given ids.  The
contributions to a plane are taken in the order of the layout, all others in
that of the canonical form.
-/
def bindIds
    (layout : Layout)
    (id : Nat → SourceId) :
    Multivector :=
  let listed := Multivector.ofEntries layout.algebra (layout.bindingEntries id)
  match layout with
  | .plane => listed
  | _ => listed.canonicalize

/-- The multivector that an entity stands for, its slots having the ids from `base` on. -/
def bind
    (layout : Layout)
    (base : Nat) :
    Multivector :=
  layout.bindIds (FirstId.natural base).id

/-- Whether the slots are counted from the first id, which has to be a whole number then. -/
def countsSlots : Layout → Bool
  | .rotor | .translator => true
  | _ => false

/-- Whether the first slot has the first id as it was given, and not a sum with it. -/
def keepsFirst : Layout → Bool
  | .point | .vector | .line => true
  | _ => false

end Layout

/-- The structure of an entity: its layout and the width that its storage has. -/
structure Signature where
  layout : Layout
  width : Nat
deriving DecidableEq

/-- The same structure with a layout given by numbers. -/
def Signature.plain
    (signature : Signature) :
    Signature :=
  ⟨signature.layout.plain, signature.width⟩

end Versor

import Versor.Proofs.Multivector.Duality
import Versor.Proofs.Reference.Involution

/-!
# Reversion, grade involution and conjugation of multivectors

The three maps respect the geometric and the exterior product of valid
multivectors, array by array (`Multivector.involutions`): reversion and
conjugation turn a product around, grade involution does not.  The factors may
share vectors of any square, and need not be of one grade.
-/

namespace Versor

namespace Multivector

/--
How reversion, grade involution and conjugation act on the products of two multivectors,
and on each other.  Each law says that two computations succeed with equal arrays.
-/
structure Involutions
    (first second : Multivector) :
    Prop where
  reverse_geometric :
    Concur
      (do return (← combine geometricProduct first second).reverse)
      (combine geometricProduct second.reverse first.reverse)
  conjugate_geometric :
    Concur
      (do return (← combine geometricProduct first second).conjugate)
      (combine geometricProduct second.conjugate first.conjugate)
  involute_geometric :
    Concur
      (do return (← combine geometricProduct first second).involute)
      (combine geometricProduct first.involute second.involute)
  reverse_exterior :
    Concur
      (do return (← combine exteriorProduct first second).reverse)
      (combine exteriorProduct second.reverse first.reverse)
  conjugate_exterior :
    Concur
      (do return (← combine exteriorProduct first second).conjugate)
      (combine exteriorProduct second.conjugate first.conjugate)
  involute_exterior :
    Concur
      (do return (← combine exteriorProduct first second).involute)
      (combine exteriorProduct first.involute second.involute)
  reverse_reverse : Concur (.ok first.reverse.reverse) (.ok first.canonicalize)
  involute_involute : Concur (.ok first.involute.involute) (.ok first.canonicalize)
  conjugate_conjugate : Concur (.ok first.conjugate.conjugate) (.ok first.canonicalize)
  conjugate_eq_reverse_involute : Concur (.ok first.conjugate) (.ok first.involute.reverse)
  conjugate_eq_involute_reverse : Concur (.ok first.conjugate) (.ok first.reverse.involute)

/-- The involutions respect the products of valid multivectors over an algebra. -/
theorem involutions
    {algebra : Algebra}
    {first second : Multivector}
    (firstValid : first.Valid)
    (secondValid : second.Valid)
    (firstOver : first.algebra.Agrees algebra)
    (secondOver : second.algebra.Agrees algebra) :
    Involutions first second := by
  have firstBelongs : BelongsTo algebra first := ⟨firstValid.inRange, firstOver⟩
  have secondBelongs : BelongsTo algebra second := ⟨secondValid.inRange, secondOver⟩
  have firstWithin := fun assignment => firstBelongs.valueAt_mem_within assignment
  have secondWithin := fun assignment => secondBelongs.valueAt_mem_within assignment
  have one := Yields.of_belongsTo firstBelongs
  have two := Yields.of_belongsTo secondBelongs
  have geometricComm (left right : Blade) :
      ProductKind.geometric.keeps left right = ProductKind.geometric.keeps right left :=
    rfl
  have exteriorComm (left right : Blade) :
      ProductKind.exterior.keeps left right = ProductKind.exterior.keeps right left := by
    rw [ProductKind.keeps, ProductKind.keeps, Nat.and_comm]
  constructor
  case reverse_geometric =>
    apply
      ((one.apply .geometric two).yields.unary .reverse).concur
        ((two.unary .reverse).yields.apply .geometric (one.unary .reverse).yields)
    intro assignment
    exact
      Reference.reverse_product (firstWithin assignment) (secondWithin assignment) geometricComm
  case conjugate_geometric =>
    apply
      ((one.apply .geometric two).yields.unary .conjugate).concur
        ((two.unary .conjugate).yields.apply .geometric (one.unary .conjugate).yields)
    intro assignment
    exact
      Reference.conjugate_product (firstWithin assignment) (secondWithin assignment)
        geometricComm
  case involute_geometric =>
    apply
      ((one.apply .geometric two).yields.unary .involute).concur
        ((one.unary .involute).yields.apply .geometric (two.unary .involute).yields)
    intro assignment
    exact Reference.involute_product (firstWithin assignment) (secondWithin assignment)
  case reverse_exterior =>
    apply
      ((one.apply .exterior two).yields.unary .reverse).concur
        ((two.unary .reverse).yields.apply .exterior (one.unary .reverse).yields)
    intro assignment
    exact
      Reference.reverse_product (firstWithin assignment) (secondWithin assignment) exteriorComm
  case conjugate_exterior =>
    apply
      ((one.apply .exterior two).yields.unary .conjugate).concur
        ((two.unary .conjugate).yields.apply .exterior (one.unary .conjugate).yields)
    intro assignment
    exact
      Reference.conjugate_product (firstWithin assignment) (secondWithin assignment)
        exteriorComm
  case involute_exterior =>
    apply
      ((one.apply .exterior two).yields.unary .involute).concur
        ((one.unary .involute).yields.apply .exterior (two.unary .involute).yields)
    intro assignment
    exact Reference.involute_product (firstWithin assignment) (secondWithin assignment)
  case reverse_reverse =>
    apply ((one.unary .reverse).yields.unary .reverse).concur one.canonicalize
    intro assignment
    exact Reference.reverse_reverse (firstWithin assignment)
  case involute_involute =>
    apply ((one.unary .involute).yields.unary .involute).concur one.canonicalize
    intro assignment
    exact Reference.involute_involute (firstWithin assignment)
  case conjugate_conjugate =>
    apply ((one.unary .conjugate).yields.unary .conjugate).concur one.canonicalize
    intro assignment
    exact Reference.conjugate_conjugate (firstWithin assignment)
  case conjugate_eq_reverse_involute =>
    apply (one.unary .conjugate).concur ((one.unary .involute).yields.unary .reverse)
    intro assignment
    rfl
  case conjugate_eq_involute_reverse =>
    apply (one.unary .conjugate).concur ((one.unary .reverse).yields.unary .involute)
    intro assignment
    exact (Reference.involute_reverse (firstWithin assignment)).symm

/-- The involutions at a mixed element and a motor, which share a null vector and others. -/
theorem involutions_projective :
    let mixed : Multivector :=
      ⟨.projective, #[⟨1, 2⟩, ⟨0, 1⟩], #[⟨-1, 3, 2, 0⟩, ⟨1, 1, 1, 1⟩], #[⟨1, 0, 7⟩, ⟨2, 1, 6⟩]⟩
    let motor : Multivector :=
      ⟨.projective, #[⟨1, -1⟩], #[⟨1, 1, 1, 0⟩, ⟨-1, 3, 0, 1⟩], #[⟨1, 0, 0⟩, ⟨1, 1, 3⟩]⟩
    mixed.Valid ∧ motor.Valid ∧ Involutions mixed motor := by
  intro mixed motor
  have mixedValid : mixed.Valid := by unfold Multivector.Valid; cbv
  have motorValid : motor.Valid := by unfold Multivector.Valid; cbv
  have mixedOver : mixed.algebra.Agrees .projective := rfl
  exact ⟨mixedValid, motorValid, involutions mixedValid motorValid mixedOver rfl⟩

end Multivector

end Versor

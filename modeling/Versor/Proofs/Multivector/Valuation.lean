import Versor.Proofs.Multivector.Merge
import Versor.Proofs.Reference.Element

/-!
# Values of multivectors

An assignment gives every id a value in a commutative ring over the
rationals.  The value of a multivector at an assignment is the element of the
geometric algebra which its terms add up to.  It does not depend on how terms
are arranged: canonical forms keep it (`valueAt_canonicalize`).

Rational numbers make it the value that a program computes, and polynomials,
with each id assigned to its own variable, the polynomial on each blade.
-/

noncomputable section

namespace Versor

/-! ## Products of ids -/

section Product

variable {Coefficient : Type*} [CommRing Coefficient]

/-- The product of the values assigned to ids. -/
def productAt
    (assignment : SourceId → Coefficient)
    (ids : List SourceId) :
    Coefficient :=
  (ids.map assignment).prod

theorem productAt_perm
    (assignment : SourceId → Coefficient)
    {first second : List SourceId}
    (permuted : first.Perm second) :
    productAt assignment first = productAt assignment second :=
  (permuted.map assignment).prod_eq

theorem map_productAt
    {Image : Type*}
    [CommRing Image]
    (change : Coefficient →+* Image)
    (assignment : SourceId → Coefficient)
    (ids : List SourceId) :
    change (productAt assignment ids) = productAt (change ∘ assignment) ids := by
  rw [productAt, map_list_prod, List.map_map, productAt]

end Product

variable {Coefficient : Type*} [CommRing Coefficient] [Module ℚ Coefficient]

/-- What a coefficient at a key adds to the value of a multivector. -/
def weighAt
    (assignment : SourceId → Coefficient)
    (key : Blade × List SourceId) :
    ℚ →+ Reference.Element Coefficient :=
  (Finsupp.singleAddHom (Blade.vectors key.1)).comp
    ((smulAddHom ℚ Coefficient).flip (productAt assignment key.2))

theorem weighAt_apply
    (assignment : SourceId → Coefficient)
    (key : Blade × List SourceId)
    (value : ℚ) :
    weighAt assignment key value =
      Finsupp.single (Blade.vectors key.1) (value • productAt assignment key.2) :=
  rfl

/-! ## Summands -/

namespace Summand

/-- The number that a summand stands for. -/
def valueAt
    (assignment : SourceId → Coefficient)
    (summand : Summand) :
    Coefficient :=
  (summand.coefficient * (summand.sign : ℚ) * (summand.count : ℚ)) •
    (summand.factors.map fun factor =>
      factor.multiplier • assignment factor.source).prod

/-- The element that a summand stands for. -/
def elementAt
    (assignment : SourceId → Coefficient)
    (summand : Summand) :
    Reference.Element Coefficient :=
  Finsupp.single (Blade.vectors summand.blade) (summand.valueAt assignment)

/-- The multipliers of the factors of a summand are collected in its coefficient. -/
theorem valueAt_eq
    (assignment : SourceId → Coefficient)
    (summand : Summand) :
    summand.valueAt assignment =
      summand.value •
        productAt assignment (summand.factors.map Indeterminate.source) := by
  have collected (factors : List Indeterminate) (start : ℚ) :
      start •
          (factors.map fun factor =>
            factor.multiplier • assignment factor.source).prod =
        factors.foldl (fun total factor => total * factor.multiplier) start •
          productAt assignment (factors.map Indeterminate.source) := by
    induction factors generalizing start with
    | nil => simp [productAt]
    | cons factor rest inductionHypothesis =>
        rw [List.foldl_cons, List.map_cons, List.map_cons, List.prod_cons,
          smul_mul_assoc, smul_smul, ← mul_smul_comm, inductionHypothesis,
          mul_smul_comm]
        simp [productAt]
  exact collected summand.factors _

theorem elementAt_eq_weighAt
    (assignment : SourceId → Coefficient)
    (summand : Summand) :
    summand.elementAt assignment =
      weighAt assignment summand.entry.key summand.entry.value := by
  have sameProduct :
      productAt assignment (summand.factors.map Indeterminate.source) =
        productAt assignment (sortIds (summand.factors.map Indeterminate.source)) :=
    productAt_perm assignment (sortIds_perm _).symm
  rw [elementAt, valueAt_eq, sameProduct]
  rfl

end Summand

/-! ## Entries -/

theorem weighAt_sorted
    (assignment : SourceId → Coefficient)
    (entry : Entry) :
    weighAt assignment entry.sorted.key entry.sorted.value =
      weighAt assignment entry.key entry.value := by
  rw [weighAt_apply, weighAt_apply]
  exact congrArg (fun product => Finsupp.single _ (entry.value • product))
    (productAt_perm assignment (sortIds_perm entry.ids))

/-- The element that entries add up to. -/
def entriesAt
    (assignment : SourceId → Coefficient)
    (entries : List Entry) :
    Reference.Element Coefficient :=
  totalOf (weighAt assignment) entries

namespace Multivector

/-- The element that a multivector stands for. -/
def valueAt
    (assignment : SourceId → Coefficient)
    (element : Multivector) :
    Reference.Element Coefficient :=
  (element.summands.map (Summand.elementAt assignment)).sum

variable (assignment : SourceId → Coefficient)

theorem valueAt_ofSummands
    (algebra : Algebra)
    (summands : List Summand) :
    (ofSummands algebra summands).valueAt assignment =
      (summands.map (Summand.elementAt assignment)).sum := by
  rw [valueAt, summands_ofSummands]

/-- The entries of a multivector add up to its value. -/
theorem valueAt_eq_entriesAt
    (element : Multivector) :
    element.valueAt assignment = entriesAt assignment element.entries := by
  rw [valueAt, entriesAt, totalOf, entries, List.map_map]
  exact congrArg List.sum
    (List.map_congr_left fun summand _ => summand.elementAt_eq_weighAt assignment)

theorem valueAt_ofEntries
    (algebra : Algebra)
    (entries : List Entry) :
    (ofEntries algebra entries).valueAt assignment = entriesAt assignment entries := by
  rw [valueAt_eq_entriesAt, entries_ofEntries, entriesAt, entriesAt, totalOf, totalOf,
    List.map_map]
  exact congrArg List.sum
    (List.map_congr_left fun entry _ => weighAt_sorted assignment entry)

/-- A multivector and its canonical form have the same value. -/
@[simp]
theorem valueAt_canonicalize
    (element : Multivector) :
    element.canonicalize.valueAt assignment = element.valueAt assignment := by
  rw [canonicalize, valueAt_ofEntries, entriesAt, totalOf_canonicalEntries,
    valueAt_eq_entriesAt, entriesAt]

@[simp]
theorem valueAt_zero
    (algebra : Algebra) :
    (zero algebra).valueAt assignment = 0 :=
  valueAt_ofEntries assignment algebra []

@[simp]
theorem valueAt_plain
    (element : Multivector) :
    element.plain.valueAt assignment = element.valueAt assignment :=
  rfl

end Multivector

/-! ## Change of coefficients -/

/-- A ring homomorphism changes the coefficients of a value as it changes the assignment. -/
theorem map_entriesAt
    {Image : Type*}
    [CommRing Image]
    [Module ℚ Image]
    (change : Coefficient →+* Image)
    (assignment : SourceId → Coefficient)
    (entries : List Entry)
    (word : Word) :
    change (entriesAt assignment entries word) =
      entriesAt (change ∘ assignment) entries word := by
  unfold entriesAt
  induction entries with
  | nil => simp
  | cons entry rest inductionHypothesis =>
      rw [totalOf_cons, totalOf_cons, Finsupp.add_apply, Finsupp.add_apply, map_add,
        inductionHypothesis, weighAt_apply, weighAt_apply, Finsupp.single_apply,
        Finsupp.single_apply]
      congr 1
      split
      · rw [map_rat_smul, map_productAt]
      · exact map_zero change

end Versor

end

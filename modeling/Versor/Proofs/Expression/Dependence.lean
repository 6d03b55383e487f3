import Versor.Proofs.Expression.Interpretation
import Versor.Proofs.Expression.Leaves

/-!
# What the value of an expression depends on

The meaning of an expression depends on what its leaves stand for, and that
depends on the values of the slots of the bound entities.  So no other ids
are left in what a well-formed expression evaluates to
(`mem_ids_of_evaluate`): they would be variables of a polynomial that does
not change when they are replaced by zero.
-/

noncomputable section

namespace Versor

variable {Coefficient : Type*} [CommRing Coefficient] [Module ℚ Coefficient]

namespace Layout

theorem slot_lt_length_of_mem_mappedTerms
    {elements : List Blade} :
    ∀ term ∈ mappedTerms elements, ∀ slot ∈ term.slots, slot < elements.length := by
  intro term member slot isSlot
  rcases List.mem_mapIdx.1 member with ⟨place, inside, rfl⟩
  rw [List.mem_singleton.1 isSlot]
  exact inside

theorem slot_lt_width
    (layout : Layout) :
    ∀ term ∈ layout.slotTerms, ∀ slot ∈ term.slots, slot < layout.width := by
  cases layout with
  | point | vector | line | rotor | translator => decide
  | _ => exact slot_lt_length_of_mem_mappedTerms

/-- What an entity stands for depends on the slots of its storage. -/
theorem valueAt_congr
    (layout : Layout)
    {first second : Nat → Coefficient}
    (same : ∀ slot < layout.width, first slot = second slot) :
    layout.valueAt first = layout.valueAt second := by
  refine congrArg List.sum (List.map_congr_left fun term member => ?_)
  have sameSlots : term.slots.map first = term.slots.map second :=
    List.map_congr_left fun slot isSlot => same slot (layout.slot_lt_width term member slot isSlot)
  rw [sameSlots]

end Layout

namespace Expr

/-- The meaning of an expression depends on what its leaves stand for. -/
theorem interpret_congr
    (metric : Metric)
    {first second : Binding → Reference.Element Coefficient}
    {expression : Expr}
    (same : expression.AllLeaves fun binding => first binding = second binding) :
    expression.interpret metric first = expression.interpret metric second := by
  induction expression with
  | bind node binding => exact same
  | constant node value => rfl
  | unary node operation operand inductionHypothesis =>
      rw [interpret, interpret, inductionHypothesis same]
  | binary node operation left right leftHypothesis rightHypothesis =>
      rw [interpret, interpret, leftHypothesis same.1, rightHypothesis same.2]

end Expr

open MvPolynomial

/-- A polynomial in which other variables are replaced by zero only has the remaining ones. -/
theorem aeval_mem_supported
    {ids : Set SourceId}
    {replaced : SourceId → MvPolynomial SourceId ℚ}
    (remaining : ∀ id, replaced id ∈ supported ℚ ids)
    (polynomial : MvPolynomial SourceId ℚ) :
    aeval replaced polynomial ∈ supported ℚ ids := by
  induction polynomial using MvPolynomial.induction_on with
  | C value =>
      rw [aeval_C]
      exact Subalgebra.algebraMap_mem _ _
  | add left right leftHypothesis rightHypothesis =>
      rw [map_add]
      exact Subalgebra.add_mem _ leftHypothesis rightHypothesis
  | mul_X polynomial id inductionHypothesis =>
      rw [map_mul, aeval_X]
      exact Subalgebra.mul_mem _ inductionHypothesis (remaining id)

/-- The ids of a canonical list are the variables of its polynomials. -/
theorem IsCanonical.mem_vars
    {entries : List Entry}
    (canonical : IsCanonical entries)
    {entry : Entry}
    (member : entry ∈ entries)
    {id : SourceId}
    (isId : id ∈ entry.ids) :
    id ∈
      (entriesAt (X : SourceId → MvPolynomial SourceId ℚ) entries
        (Blade.vectors entry.blade)).vars := by
  have coefficient :=
    coeff_entriesAt canonical.idsAscending entry.blade (canonical.idsAscending entry member)
  have nonzero := canonical.nonzero entry member
  rw [← canonical.coefficient_of_mem member] at nonzero
  refine (mem_vars_iff_mem_support id).2 ⟨exponents entry.ids, ?_, ?_⟩
  · rw [mem_support_iff, coefficient]
    exact nonzero
  · simpa [exponents] using isId

/-- What an expression evaluates to has no other ids than those of its bound entities. -/
theorem Expr.mem_ids_of_evaluate
    {ids : Set SourceId}
    {expression : Expr}
    (wellFormed : expression.WellFormed)
    (leaves :
      expression.AllLeaves fun binding =>
        ∀ slot < binding.layout.width, binding.first.id slot ∈ ids)
    {value : Multivector}
    (evaluated : expression.evaluate = .ok value) :
    ∀ entry ∈ value.entries, ∀ id ∈ entry.ids, id ∈ ids := by
  classical
  intro entry member id isId
  have denotes := denotes_of_evaluate wellFormed evaluated
  let replaced (id : SourceId) : MvPolynomial SourceId ℚ := if id ∈ ids then X id else 0
  have sameLeaves :
      expression.AllLeaves fun binding =>
        binding.valueAt (X : SourceId → MvPolynomial SourceId ℚ) =
          binding.valueAt replaced :=
    leaves.mono fun binding inIds =>
      binding.layout.valueAt_congr fun slot below => (if_pos (inIds slot below)).symm
  have sameValue :
      value.valueAt (X : SourceId → MvPolynomial SourceId ℚ) = value.valueAt replaced := by
    rw [valueAt_evaluate wellFormed evaluated rfl, valueAt_evaluate wellFormed evaluated rfl,
      interpret_congr _ sameLeaves]
  have unchanged :
      entriesAt (X : SourceId → MvPolynomial SourceId ℚ) value.entries
          (Blade.vectors entry.blade) =
        aeval replaced
          (entriesAt (X : SourceId → MvPolynomial SourceId ℚ) value.entries
            (Blade.vectors entry.blade)) := by
    have changed :=
      map_entriesAt (aeval replaced : MvPolynomial SourceId ℚ →ₐ[ℚ] _).toRingHom X
        value.entries (Blade.vectors entry.blade)
    have sameAssignment :
        (aeval replaced : MvPolynomial SourceId ℚ →ₐ[ℚ] _).toRingHom ∘ X = replaced := by
      funext id
      exact aeval_X replaced id
    rw [sameAssignment, ← value.valueAt_eq_entriesAt replaced, ← sameValue,
      value.valueAt_eq_entriesAt] at changed
    exact changed.symm
  have remaining (id : SourceId) : replaced id ∈ supported ℚ ids := by
    by_cases inIds : id ∈ ids
    · simp only [replaced, inIds, if_true]
      exact X_mem_supported.2 inIds
    · simp only [replaced, inIds, if_false]
      exact Subalgebra.zero_mem _
  have supportedPolynomial := unchanged ▸ aeval_mem_supported remaining _
  exact mem_supported.1 supportedPolynomial (denotes.canonical.mem_vars member isId)

end Versor

end

import Versor.Multivector.Draft
import Versor.Proofs.Fallible
import Versor.Proofs.Multivector.Range

/-!
# Valid multivectors are in range

The checks of a draft compare the places and the blades that it refers to with
what is there.  So a multivector whose own draft passes them is in range
(`Multivector.Valid.inRange`).
-/

namespace Versor

/-- A blade passes its check if it belongs to the algebra. -/
theorem Algebra.checkBlade_natCast
    (algebra : Algebra)
    (blade : Blade) :
    algebra.checkBlade (.integer (blade : Int)) =
      if blade < algebra.bladeCount then .ok blade
      else .error (.blade (.integer (blade : Int)) algebra.bladeCount) := by
  by_cases inside : blade < algebra.bladeCount <;>
    simp [checkBlade, blade?, Literal.toInt?, inside]

theorem Algebra.mapM_checkBlade_of_lt
    {algebra : Algebra}
    {blades : List Blade}
    (inside : ∀ blade ∈ blades, blade < algebra.bladeCount) :
    (blades.map fun (blade : Blade) => Literal.integer (blade : Int)).mapM algebra.checkBlade =
      .ok blades := by
  apply mapM_eq_ok.2
  apply List.forall₂_map_left_iff.2
  apply List.forall₂_same.2
  intro blade member
  rw [checkBlade_natCast, if_pos (inside blade member)]

/-- A blade that passes its check belongs to the algebra. -/
theorem Algebra.lt_bladeCount_of_checkBlade
    {algebra : Algebra}
    {literal : Literal}
    {blade : Blade}
    (checked : algebra.checkBlade literal = .ok blade) :
    blade < algebra.bladeCount := by
  unfold checkBlade blade? at checked
  cases found : literal.toInt? with
  | none => simp [found] at checked
  | some value =>
      simp only [found] at checked
      split at checked
      · next chosen same =>
        split at same
        · next inside =>
          cases same
          cases checked
          exact (Int.toNat_lt inside.1).2 inside.2
        · cases same
      · cases checked

namespace Draft

/-- Members of a list that passes pass their checks. -/
theorem forall₂_of_checkAll
    {Written Checked : Type}
    {check : Nat → Written → Except Error Checked}
    {position : Nat}
    {written : List Written}
    {results : List Checked}
    (passed : checkAll check position written = .ok results) :
    List.Forall₂ (fun member result => ∃ place, check place member = .ok result) written
      results := by
  induction written generalizing position results with
  | nil =>
      cases passed
      exact .nil
  | cons member rest inductionHypothesis =>
      rcases exists_of_bind_eq_ok passed with ⟨result, first, collected⟩
      rcases exists_of_bind_eq_ok collected with ⟨others, rest, same⟩
      cases same
      exact .cons ⟨position, first⟩ (inductionHypothesis rest)

/-- The span of a monomial that passes its checks exists. -/
theorem span_of_checkMonomial
    {available position width start : Nat}
    {sign : Literal}
    {coefficient : Rat}
    {monomial : Monomial}
    (passed :
      checkMonomial available position ⟨sign, coefficient, .integer width, .integer start⟩ =
        .ok monomial) :
    start + width ≤ available := by
  have stop :
      Literal.add (.integer start) (.integer width) = .ok (.integer (start + width)) :=
    rfl
  rcases exists_of_bind_eq_ok passed with ⟨accepted, signed, rest⟩
  by_contra tooFar
  have beyond : (available : ℚ) < start + width := by
    exact_mod_cast Nat.lt_of_not_le tooFar
  simp [stop, comparand, Literal.rational?, bind, Except.bind, beyond] at rest
  split at rest <;> cases rest

/-- A term that passes its checks refers to what is there. -/
theorem inside_of_checkTerm
    {algebra : Algebra}
    {available position place : Nat}
    {count blade : Literal}
    {term : Term}
    (passed :
      checkTerm algebra available position ⟨count, .integer place, blade⟩ = .ok term) :
    place < available ∧ term.blade < algebra.bladeCount := by
  rcases exists_of_bind_eq_ok passed with ⟨accepted, counted, rest⟩
  split at rest
  · cases rest
  · rcases exists_of_bind_eq_ok rest with ⟨number, compared, rest⟩
    have same : ((place : Int) : ℚ) = number := Except.ok.inj compared
    split at rest
    · cases rest
    · next inside =>
      rcases exists_of_bind_eq_ok rest with ⟨target, checked, made⟩
      cases made
      rw [not_or, not_le, ← same] at inside
      exact ⟨by exact_mod_cast inside.2, Algebra.lt_bladeCount_of_checkBlade checked⟩

end Draft

namespace Multivector

/-- Valid multivectors refer to what is there, on blades of their algebra. -/
theorem Valid.inRange
    {element : Multivector}
    (valid : element.Valid) :
    element.InRange := by
  rcases exists_of_bind_eq_ok valid with ⟨indeterminates, _, rest⟩
  rcases exists_of_bind_eq_ok rest with ⟨monomials, monomialsPass, rest⟩
  rcases exists_of_bind_eq_ok rest with ⟨terms, termsPass, same⟩
  rcases element with ⟨algebra, sources, products, contributions⟩
  rcases Multivector.mk.inj (Except.ok.inj same) with ⟨_, _, rfl, rfl⟩
  have checkedMonomials :=
    List.forall₂_same.1 (List.forall₂_map_left_iff.1 (Draft.forall₂_of_checkAll monomialsPass))
  have checkedTerms :=
    List.forall₂_same.1 (List.forall₂_map_left_iff.1 (Draft.forall₂_of_checkAll termsPass))
  have places :
      ∀ term ∈ terms, term.monomial < monomials.length ∧ term.blade < algebra.bladeCount := by
    intro term member
    rcases checkedTerms term member with ⟨position, passed⟩
    simpa [draft] using Draft.inside_of_checkTerm passed
  refine
    { spans := fun monomial member => ?_
      places := fun term member => (places term (List.mem_toArray.1 member)).1
      blades := fun entry member => ?_ }
  · rcases checkedMonomials monomial (List.mem_toArray.1 member) with ⟨position, passed⟩
    simpa [draft] using Draft.span_of_checkMonomial passed
  · rcases List.mem_map.1 member with ⟨summand, inSummands, rfl⟩
    rcases List.mem_map.1 inSummands with ⟨term, inTerms, rfl⟩
    exact (blade_summandOf _ term).trans_lt (places term inTerms).2

end Multivector

end Versor

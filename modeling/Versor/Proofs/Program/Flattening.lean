import Versor.Proofs.Multivector.Support
import Versor.Proofs.Program.Execution

/-!
# Multivectors as programs

A program has one step for each entry of a multivector and one output slot
for each of its blades.  In exact arithmetic there is such a program for
every multivector, and the steps of an output slot add up to the value on its
blade (`sum_stepsOf_exactly`).
-/

namespace Versor

/-- The entries on a blade add up to the value there. -/
theorem entriesAt_eq_sum
    {Coefficient : Type*}
    [CommRing Coefficient]
    [Module ℚ Coefficient]
    (assignment : SourceId → Coefficient)
    (entries : List Entry)
    (blade : Blade) :
    entriesAt assignment entries (Blade.vectors blade) =
      ((entries.filter fun entry => entry.blade == blade).map fun entry =>
        entry.value • productAt assignment entry.ids).sum := by
  unfold entriesAt
  induction entries with
  | nil => rfl
  | cons entry rest inductionHypothesis =>
      rw [totalOf_cons, Finsupp.add_apply, inductionHypothesis, weighAt_apply, Entry.key]
      by_cases same : entry.blade = blade
      · rw [same, Finsupp.single_eq_same, List.filter_cons_of_pos (by simp [same])]
        rfl
      · have otherWord : Blade.vectors entry.blade ≠ Blade.vectors blade :=
          fun equal => same (Blade.vectors_injective equal)
        rw [Finsupp.single_eq_of_ne' otherWord, zero_add,
          List.filter_cons_of_neg (by simp [same])]

namespace Program

section Steps

variable {Number : Type} [Arithmetic Number]

/-- The step for an entry of a multivector on given blades. -/
def stepFor
    (blades : List Blade)
    (entry : Entry) :
    Except Error (Step Number) :=
  match Arithmetic.ofRat? entry.value with
  | some coefficient => .ok ⟨blades.idxOf entry.blade, coefficient, entry.ids⟩
  | none => .error .numberTooLarge

theorem ofMultivector_eq
    (identity : Nat)
    (value : Multivector)
    (spelling : ElementSpelling)
    (inputs : List Input) :
    (ofMultivector identity value spelling inputs : Except Error (Program Number)) =
      (value.entries.mapM (stepFor value.blades)).map fun steps =>
        ⟨identity, value, value.blades, spelling, steps, inputs⟩ := by
  unfold ofMultivector
  change (value.entries.mapM (stepFor value.blades) >>= fun steps => _) = _
  cases (value.entries.mapM (stepFor value.blades) : Except Error (List (Step Number))) <;> rfl

end Steps

/-! ## Exact arithmetic -/

variable {Number : Type} [CommRing Number] [Module ℚ Number]

/-- The steps for the entries of a multivector, whose coefficients are exact. -/
def stepsFor
    (value : Multivector) :
    List (Step Number) :=
  value.entries.map fun entry =>
    ⟨value.blades.idxOf entry.blade, entry.value • 1, entry.ids⟩

/-- The program of a multivector in exact arithmetic. -/
def exactly
    (identity : Nat)
    (value : Multivector)
    (spelling : ElementSpelling)
    (inputs : List Input) :
    Program Number :=
  ⟨identity, value, value.blades, spelling, stepsFor value, inputs⟩

theorem ofMultivector_eq_ok
    [Arithmetic Number]
    [ExactArithmetic Number]
    (identity : Nat)
    (value : Multivector)
    (spelling : ElementSpelling)
    (inputs : List Input) :
    ofMultivector identity value spelling inputs =
      .ok (exactly identity value spelling inputs : Program Number) := by
  have flattened :
      value.entries.mapM (stepFor value.blades) = .ok (stepsFor value : List (Step Number)) := by
    refine mapM_eq_ok.2 (List.forall₂_map_right_iff.2 (List.forall₂_same.2 fun entry _ => ?_))
    simp only [stepFor, ExactArithmetic.ofRat?]
  rw [ofMultivector_eq, flattened]
  rfl

variable
  (identity : Nat)
  (value : Multivector)
  (spelling : ElementSpelling)
  (inputs : List Input)
  {slot : Nat}
  (below : slot < value.blades.length)

/-- The steps of a slot are those of the entries on its blade. -/
theorem stepsOf_exactly :
    (exactly identity value spelling inputs : Program Number).stepsOf slot =
      (value.entries.filter fun entry => entry.blade == value.blades[slot]).map
        fun entry => ⟨value.blades.idxOf entry.blade, entry.value • 1, entry.ids⟩ := by
  have distinct : value.blades.Nodup := value.blades_sortedLT.nodup
  have sameEntries :
      ∀ entry ∈ value.entries,
        (value.blades.idxOf entry.blade == slot) = (entry.blade == value.blades[slot]) := by
    intro entry member
    have inBlades : entry.blade ∈ value.blades := Multivector.mem_blades.2 ⟨entry, member, rfl⟩
    rw [Bool.eq_iff_iff, beq_iff_eq, beq_iff_eq]
    constructor
    · rintro rfl
      exact (List.getElem_idxOf _).symm
    · intro same
      rw [same, distinct.idxOf_getElem]
  unfold stepsOf exactly stepsFor
  rw [List.filter_map]
  exact congrArg (List.map _) (List.filter_congr sameEntries)

/-- The steps of a slot add up to the value on its blade. -/
theorem sum_stepsOf_exactly
    (slots : SourceId → Number) :
    (((exactly identity value spelling inputs).stepsOf slot).map fun step =>
        step.valueAt slots).sum =
      value.valueAt slots (Blade.vectors value.blades[slot]) := by
  rw [stepsOf_exactly identity value spelling inputs below, value.valueAt_eq_entriesAt,
    entriesAt_eq_sum, List.map_map]
  refine congrArg List.sum (List.map_congr_left fun entry _ => ?_)
  have multiplied :=
    map_rat_smul (AddMonoidHom.mulRight (productAt slots entry.ids)) entry.value (1 : Number)
  simp only [AddMonoidHom.coe_mulRight, one_mul] at multiplied
  exact multiplied

include below

theorem stepsOf_exactly_ne_nil :
    (exactly identity value spelling inputs : Program Number).stepsOf slot ≠ [] := by
  rcases Multivector.mem_blades.1 (List.getElem_mem below) with ⟨entry, member, same⟩
  rw [stepsOf_exactly identity value spelling inputs below]
  refine mt List.map_eq_nil_iff.1 (List.ne_nil_of_mem (a := entry) ?_)
  exact List.mem_filter.2 ⟨member, beq_iff_eq.2 same⟩

end Program

end Versor

import Versor.Proofs.Expression.Construction
import Versor.Proofs.Multivector.Closure
import Versor.Proofs.Program.Completeness

/-!
# The fewest terms

Distinct monomials are linearly independent, so whatever has the value of a multivector
at every rational assignment has a term for each entry of the canonical form
(`Multivector.isLeast_termCounts`): its own entries can be merged into those, and merging
makes none.

A program has a step for each term of the multivector that it was made of, which is its
own canonical form.  So no list of terms for the same function of the slots is worked
through in fewer steps (`Function.fewestSteps_of_build`).
-/

namespace Versor

/-! ## Canonical lists are short -/

/-- The entries of a canonical list are not alike. -/
theorem IsCanonical.nodup_keys
    {entries : List Entry}
    (canonical : IsCanonical entries) :
    (entries.map Entry.key).Nodup := by
  apply List.pairwise_map.2
  refine canonical.ascending.imp fun {left right} before same => ?_
  exact before.ne (Entry.rank_eq_iff.2 same)

/-- Merging makes no entries: each one that remains is like one that was there. -/
theorem length_canonicalEntries_le
    {entries : List Entry}
    (sorted : ∀ entry ∈ entries, entry.ids.Pairwise (· ≤ ·)) :
    (canonicalEntries entries).length ≤ entries.length := by
  have distinct := (canonicalEntries_canonical sorted).nodup_keys
  have among : (canonicalEntries entries).map Entry.key ⊆ entries.map Entry.key := by
    intro key member
    rcases List.mem_map.1 member with ⟨entry, inCanonical, rfl⟩
    rcases Multivector.exists_of_mem_canonicalEntries sorted inCanonical with
      ⟨source, inside, same⟩
    exact List.mem_map.2 ⟨source, inside, same⟩
  have shorter := (distinct.subperm among).length_le
  rwa [List.length_map, List.length_map] at shorter

namespace Multivector

theorem termCount_eq_length_entries
    (element : Multivector) :
    element.termCount = element.entries.length := by
  simp [termCount, entries, summands]

theorem termCount_canonicalize_le
    (element : Multivector) :
    element.canonicalize.termCount ≤ element.termCount := by
  rw [termCount_eq_length_entries, termCount_eq_length_entries, entries_canonicalize]
  exact length_canonicalEntries_le fun _ => ids_sorted_of_mem_entries

/-- Multivectors of equal value have canonical forms with equally many terms. -/
theorem Equivalent.termCount_canonicalize_eq
    {left right : Multivector}
    (equivalent : left.Equivalent right) :
    left.canonicalize.termCount = right.canonicalize.termCount := by
  have same : left.canonicalize.plain = right.canonicalize.plain :=
    plain_canonicalize_eq_iff.2 ⟨equivalent.agrees, equivalent.values⟩
  have counts :
      left.canonicalize.plain.termCount = right.canonicalize.plain.termCount := by
    rw [same]
  exact counts

/-- The numbers of terms of valid multivectors with the values of a given one. -/
def termCounts
    (element : Multivector) :
    Set Nat :=
  { count | ∃ other : Multivector, other.Valid ∧ other.Equivalent element ∧
      other.termCount = count }

/-- No multivector of equal value has fewer terms than a canonical form. -/
theorem termCount_canonicalize_mem_lowerBounds
    (element : Multivector) :
    element.canonicalize.termCount ∈ lowerBounds element.termCounts := by
  rintro _ ⟨other, _, equivalent, rfl⟩
  calc element.canonicalize.termCount
      = other.canonicalize.termCount := equivalent.termCount_canonicalize_eq.symm
    _ ≤ other.termCount := other.termCount_canonicalize_le

theorem equivalent_canonicalize
    (element : Multivector) :
    element.canonicalize.Equivalent element where
  agrees := rfl
  values assignment := valueAt_canonicalize assignment element

/-- Among all valid multivectors of equal value the canonical form has the fewest terms. -/
theorem isLeast_termCounts
    {element : Multivector}
    (valid : element.Valid) :
    IsLeast element.termCounts element.canonicalize.termCount := by
  have canonicalValid : element.canonicalize.Valid :=
    valid_iff_isProper.2 (valid_iff_isProper.1 valid).canonicalize
  exact
    ⟨⟨_, canonicalValid, element.equivalent_canonicalize, rfl⟩,
      element.termCount_canonicalize_mem_lowerBounds⟩

end Multivector

/-! ## Programs -/

variable {Number : Type} [Arithmetic Number]

/-- A program has a step for each term of what it was made of. -/
theorem Program.length_steps
    {identity : Nat}
    {value : Multivector}
    {spelling : ElementSpelling}
    {inputs : List Input}
    {program : Program Number}
    (made : ofMultivector identity value spelling inputs = .ok program) :
    program.value = value ∧ program.steps.length = value.termCount := by
  rcases exists_of_ofMultivector_eq_ok made with ⟨steps, flattened, rfl⟩
  refine ⟨rfl, ?_⟩
  rw [value.termCount_eq_length_entries]
  exact (mapM_eq_ok.1 flattened).length_eq.symm

/-- A program works through a list of terms, of which there are no fewer for the same values. -/
structure Program.HasFewestSteps
    (program : Program Number) :
    Prop where
  canonical : program.value.canonicalize = program.value
  steps : program.steps.length = program.value.termCount
  fewest : program.steps.length ∈ lowerBounds program.value.termCounts

namespace Function

variable
  {function : Function}
  {entities : List (Entity Number)}
  {graph : Set Expr}
  {workspace : Workspace}

omit [Arithmetic Number] in
/-- What a function returns that refers to built expressions only is built itself. -/
theorem isBuilt_of_tree
    (areSized : AreSized entities)
    (sound : workspace.Sound graph)
    (within : function.body.Within (.built graph))
    {signatures : List Signature}
    (signed : Signed entities signatures) :
    Build.Ensures (function.tree entities) workspace fun result behind =>
      ∃ larger, Grown entities signatures Expr.IsBuilt graph workspace result behind larger := by
  have leaves :
      ∀ placement ∈ placements 0 (entities.zip signatures), ∀ node,
        Expr.IsBuilt (.bind node placement.binding) := by
    intro placement member node
    have inEntities := (areSized.width_of_mem signed member).1
    exact ⟨areSized.inRange _ inEntities, trivial⟩
  exact
    tree_spec Expr.persistent_isBuilt (fun _ inRange _ _ _ => ⟨inRange, trivial⟩)
      (fun _ constant => ⟨constant.1.inRange, constant.2⟩) (fun _ existing => existing) within
      (fun _ _ => trivial) signed leaves sound

theorem hasFewestSteps_of_build
    (areSized : AreSized entities)
    (sound : workspace.Sound graph)
    (within : function.body.Within (.built graph))
    {validate : Bool}
    {program : Program Number}
    {behind : Workspace}
    (built :
      Build.outcome (function.build entities validate) workspace = (.ok program, behind)) :
    program.HasFewestSteps := by
  rw [build_eq] at built
  rcases Build.exists_of_outcome_bind built with
    ⟨⟨arguments, expression⟩, between, returned, finished⟩
  rcases exists_signed_of_tree returned with ⟨signatures, _, signed⟩
  rcases (isBuilt_of_tree areSized sound within signed).of_outcome returned with ⟨larger, grown⟩
  rcases grown.built arguments expression rfl with ⟨_, member, isBuilt⟩
  rcases exists_of_outcome_finish finished with ⟨value, last, reduced, made⟩
  have isReduced := (Expr.reduceUnchecked_spec member grown.sound).of_outcome reduced
  have evaluated : expression.evaluate = .ok value := isReduced.eq_evaluate.symm
  have denotes := Expr.denotes_of_evaluate isBuilt.wellFormed evaluated
  have canonical := denotes.isValidCanonical.canonical
  rcases Program.length_steps made with ⟨rfl, steps⟩
  refine ⟨canonical, steps, ?_⟩
  have fewest := program.value.termCount_canonicalize_mem_lowerBounds
  rwa [canonical, ← steps] at fewest

/--
A canonical form has the fewest terms of all valid multivectors of equal value, and a
program that a function is compiled to works through no more steps than any of them has
terms.
-/
theorem fewestSteps_of_build
    {element : Multivector}
    (valid : element.Valid)
    (areSized : AreSized entities)
    (sound : workspace.Sound graph)
    (within : function.body.Within (.built graph))
    {validate : Bool}
    {program : Program Number}
    {behind : Workspace}
    (built :
      Build.outcome (function.build entities validate) workspace = (.ok program, behind)) :
    IsLeast element.termCounts element.canonicalize.termCount ∧ program.HasFewestSteps :=
  ⟨Multivector.isLeast_termCounts valid, hasFewestSteps_of_build areSized sound within built⟩

end Function

/-- Two vectors in the plane of the first two directions. -/
def planarVectors : List (Entity ℚ) :=
  [⟨0, .generic .projective [2, 4] [], ⟨.float64, [2], #[1, 2]⟩⟩,
    ⟨1, .generic .projective [2, 4] [], ⟨.float64, [2], #[3, 4]⟩⟩]

/-- The geometric product of two arguments. -/
def multiplying : Function :=
  ⟨.custom 0, "multiply", true, .binary .multiply (.argument 0) (.argument 1)⟩

/-- Four terms of which three can be merged away, and the four steps of a product of vectors. -/
theorem fewestSteps_of_build_planarVectors :
    let element : Multivector :=
      ⟨.projective, #[⟨0, 1⟩, ⟨1, 1⟩], #[⟨1, 1, 1, 0⟩, ⟨-1, 1, 1, 0⟩, ⟨1, 3, 1, 1⟩],
        #[⟨1, 0, 1⟩, ⟨1, 2, 3⟩, ⟨1, 1, 1⟩, ⟨2, 2, 3⟩]⟩
    ∃ (program : Program ℚ) (behind : Workspace),
      Build.outcome (multiplying.build planarVectors true) ⟨1, [], .usual⟩ = (.ok program, behind) ∧
        program.steps.length = 4 ∧
        element.termCount = 4 ∧
        element.canonicalize.termCount = 1 ∧
        IsLeast element.termCounts element.canonicalize.termCount ∧
        program.HasFewestSteps := by
  intro element
  have valid : element.Valid := by unfold Multivector.Valid; cbv
  have areSized : Function.AreSized planarVectors := ⟨by decide, by decide⟩
  have within : multiplying.body.Within (.built ∅) := ⟨trivial, trivial⟩
  have counted :
      ((Build.outcome (multiplying.build planarVectors true : Build (Program ℚ))
          ⟨1, [], .usual⟩).1.map fun program => decide (program.steps.length = 4)).toOption =
        some true := by
    decide +kernel
  rcases Build.exists_built counted with ⟨program, behind, built, four⟩
  have fewest :=
    Function.fewestSteps_of_build valid areSized (Workspace.sound_empty 1 .usual) within built
  exact
    ⟨program, behind, built, of_decide_eq_true four, rfl, by decide +kernel, fewest.1, fewest.2⟩

end Versor

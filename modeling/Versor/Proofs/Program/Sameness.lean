import Versor.Proofs.Program.Columns
import Versor.Proofs.Program.Flattening

/-!
# Programs that compute the same

Programs with one multivector, one list of steps and inputs of the same
structures at the same ids compute the same storage for the same entities
(`Program.Same.run`), for which an entity has the same layout
(`Program.Same.layout`).
-/

namespace Versor

variable {Number : Type}

theorem Layout.kind_plain
    (layout : Layout) :
    layout.plain.kind = layout.kind := by
  cases layout <;> rfl

theorem Layout.width_plain
    (layout : Layout) :
    layout.plain.width = layout.width := by
  cases layout <;> rfl

/-- The check of storage does not depend on how a layout was given. -/
theorem Entity.checkStorage_congr
    [Arithmetic Number]
    {left right : Layout}
    (same : left.plain = right.plain)
    (capacity : Nat)
    (standard : ElementType)
    (storage : Tensor Number) :
    Entity.checkStorage capacity standard left storage =
      Entity.checkStorage capacity standard right storage := by
  have sameKind : left.kind = right.kind := by
    rw [← left.kind_plain, same, right.kind_plain]
  have sameWidth : left.width = right.width := by
    rw [← left.width_plain, same, right.width_plain]
  simp only [checkStorage, sameKind, sameWidth]

/-- The same input with a structure given by numbers. -/
def Input.plain
    (input : Input) :
    Input :=
  ⟨input.signature.plain, input.first⟩

namespace Program

/-- Programs of one multivector, for entities of the same structures in the same places. -/
structure Same
    (program other : Program Number) :
    Prop where
  value : program.value.plain = other.value.plain
  blades : program.blades = other.blades
  steps : program.steps = other.steps
  inputs : program.inputs.map Input.plain = other.inputs.map Input.plain

theorem Same.symm
    {program other : Program Number}
    (same : program.Same other) :
    other.Same program :=
  ⟨same.value.symm, same.blades.symm, same.steps.symm, same.inputs.symm⟩

theorem Same.algebra
    {program other : Program Number}
    (same : program.Same other) :
    program.algebra.Agrees other.algebra :=
  congrArg Multivector.algebra same.value

/-- What the programs compute has one layout, apart from how its blades were given. -/
theorem Same.layout
    {program other : Program Number}
    (same : program.Same other) :
    program.layout.plain = other.layout.plain := by
  have algebras := same.algebra
  simp only [Program.layout, Layout.plain, same.blades]
  rw [algebras]

section Running

variable [Arithmetic Number] {program other : Program Number}

/-- The storage of the entity that a program computes. -/
def stored
    (capacity : Nat)
    (standard : ElementType)
    (program : Program Number)
    (entities : List (Entity Number)) :
    Except Error (Tensor Number) := do
  let storage ← program.run standard entities
  if !Tensor.isRepresentable capacity storage.shape then
    throw .incompatibleShapes
  Entity.checkStorage capacity standard program.layout storage

theorem collect_of_agrees
    (agrees : program.algebra.Agrees other.algebra)
    {entities : List (Entity Number)}
    {inputs otherInputs : List Input}
    (same : inputs.map Input.plain = otherInputs.map Input.plain)
    {columns result : Columns Number}
    (collected : program.collect columns (entities.zip inputs) = .ok result) :
    other.collect columns (entities.zip otherInputs) = .ok result := by
  induction entities generalizing inputs otherInputs columns with
  | nil => exact collected
  | cons entity rest inductionHypothesis =>
      cases inputs with
      | nil =>
          cases otherInputs with
          | nil => exact collected
          | cons => cases same
      | cons input inputs =>
          cases otherInputs with
          | nil => cases same
          | cons otherInput otherInputs =>
              rcases List.cons.inj same with ⟨sameInput, sameRest⟩
              rcases Input.mk.inj sameInput with ⟨sameSignature, sameFirst⟩
              rw [List.zip_cons_cons, collect] at collected
              split at collected
              · cases collected
              · next entityAgrees =>
                rcases exists_of_bind_eq_ok collected with ⟨signature, signed, collected⟩
                split at collected
                · cases collected
                · next fits =>
                  have otherAgrees := (not_not.1 entityAgrees).trans agrees
                  have otherFits := (not_not.1 fits).trans sameSignature
                  rw [List.zip_cons_cons, collect_cons otherAgrees signed otherFits, ← sameFirst]
                  exact inductionHypothesis sameRest collected

namespace Same

variable (same : program.Same other)

include same

/-- Storage that one of the programs computes is computed by the other one, too. -/
theorem run
    {standard : ElementType}
    {entities : List (Entity Number)}
    {storage : Tensor Number}
    (ran : program.run standard entities = .ok storage) :
    other.run standard entities = .ok storage := by
  have sameLength : program.inputs.length = other.inputs.length := by
    simpa using congrArg List.length same.inputs
  unfold Program.run at ran ⊢
  rw [← sameLength, ← same.blades, ← same.steps]
  split at ran
  · cases ran
  · next fitting =>
    rcases exists_of_bind_eq_ok ran with ⟨columns, collected, computed⟩
    rw [if_neg fitting, collect_of_agrees same.algebra same.inputs collected]
    exact computed

theorem stored
    {capacity : Nat}
    {standard : ElementType}
    {entities : List (Entity Number)}
    {storage : Tensor Number}
    (found : program.stored capacity standard entities = .ok storage) :
    other.stored capacity standard entities = .ok storage := by
  rcases exists_of_bind_eq_ok found with ⟨computed, ran, checked⟩
  simp only [Entity.checkStorage_congr same.layout] at checked
  unfold Program.stored
  rw [same.run ran]
  exact checked

end Same

/-! ## Programs of one multivector -/

theorem same_of_ofMultivector
    {identity otherIdentity : Nat}
    {value otherValue : Multivector}
    {spelling otherSpelling : ElementSpelling}
    {inputs otherInputs : List Input}
    (made : ofMultivector identity value spelling inputs = .ok program)
    (sameValue : value.plain = otherValue.plain)
    (sameInputs : inputs.map Input.plain = otherInputs.map Input.plain) :
    ∃ again, ofMultivector otherIdentity otherValue otherSpelling otherInputs = .ok again ∧
      program.Same again := by
  have sameEntries : value.entries = otherValue.entries := by
    change value.plain.entries = otherValue.plain.entries
    rw [sameValue]
  have sameBlades : value.blades = otherValue.blades := by
    change value.plain.blades = otherValue.plain.blades
    rw [sameValue]
  rw [ofMultivector_eq, sameEntries, sameBlades] at made
  rw [ofMultivector_eq]
  rcases exists_of_bind_eq_ok made with ⟨steps, flattened, rest⟩
  cases rest
  rw [flattened]
  exact ⟨_, rfl, ⟨sameValue, rfl, rfl, sameInputs⟩⟩

end Running

end Program
end Versor

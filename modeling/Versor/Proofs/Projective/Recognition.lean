import Versor.Proofs.Projective.Transform

/-!
# Recognizing primitives

The result of meeting or joining becomes a primitive by the grade of its
blades, and a direction instead of a point if its weight is zero at all indices
of its batch (`Compute.ensures_asPrimitive`).  So the type of the result depends
on the values of the entities, and on those of the whole batch together.
-/

noncomputable section

namespace Versor
namespace Compute

open Entity Reference

variable {limits : Limits}

/-- Elements without a weight at all indices of a batch. -/
def IsIdeal
    (batch : List Nat)
    (value : List Nat → Element ℝ) :
    Prop :=
  ∀ index, Tensor.IsIndex batch index → value index (Blade.vectors .e123) = 0

open scoped Classical in
/-- The type of the primitives of a grade, ideal ones or others. -/
def primitiveLayout?
    (grade? : Option Nat)
    (ideal : Prop) :
    Option Layout :=
  match grade? with
  | some 1 => some .plane
  | some 2 => some .line
  | some 3 => some (if ideal then .vector else .point)
  | _ => none

variable
  {certain : Prop}
  {context : Context ℝ}
  (ready : context.IsReady limits)
  {source : Entity ℝ}
  {batch : List Nat}
  {value : List Nat → Element ℝ}
  (represents : source.Represents .projective batch value)
  (floating : source.storage.type.isFloating = true)
  (room : certain → limits.HasRoom batch)

include ready represents floating room

/-- An entity is rebuilt as the primitive that it is, or left as it is. -/
theorem ensures_asPrimitive
    (few :
      certain → singleGrade? source = some 3 → batch.length ≤ Tensor.maxGatheredDimensions) :
    (asPrimitive source).Ensures limits certain context fun result behind =>
      match primitiveLayout? (singleGrade? source) (IsIdeal batch value) with
      | some layout =>
          Rebuilt context batch layout (fun index => layout.read (value index)) result behind
      | none => result = source := by
  have rebuild {layout : Layout} (isMoved : layout.IsMoved) {between : Context ℝ}
      (isReady : between.IsReady limits) (free : context.workspace.free ≤ between.workspace.free) :
      (fromEntity layout.kind source).Ensures limits certain between
        (Rebuilt context batch layout fun index => layout.read (value index)) :=
    (ensures_fromEntity isReady represents room floating (.inl isMoved)).mono
      fun _ _ _ rebuilt => rebuilt.of_le free
  rw [asPrimitive]
  generalize singleGrade? source = grade? at few ⊢
  match grade? with
  | some 1 => exact rebuild .plane ready le_rfl
  | some 2 => exact rebuild .line ready le_rfl
  | some 3 =>
      refine (ensures_coefficient ready represents room (by decide : Blade.e123 < 16)).bind
        fun weight between isReady free ⟨_, weights⟩ => ?_
      by_cases isFew : batch.length ≤ Tensor.maxGatheredDimensions
      · rcases weights.exists_allZero isFew with ⟨isZero, tested, isZero_iff⟩
        refine .ofOk_bind tested ?_
        by_cases ideal : IsIdeal batch value
        · simp only [primitiveLayout?, if_pos (isZero_iff.2 ideal), if_pos ideal]
          exact rebuild .vector isReady free
        · simp only [primitiveLayout?, if_neg (mt isZero_iff.1 ideal), if_neg ideal]
          exact rebuild .point isReady free
      · exact
          .ofError_bind isReady (weights.allZero_of_many (not_le.1 isFew))
            fun isCertain => isFew (few isCertain rfl)
  | none => exact .pure ready rfl
  | some 0 => exact .pure ready rfl
  | some (grade + 4) => exact .pure ready rfl

omit floating room in
/-- Over too many dimensions a point cannot be told from a direction. -/
theorem asPrimitive_of_many
    (room : limits.HasRoom batch)
    (isThree : singleGrade? source = some 3)
    (many : Tensor.maxGatheredDimensions < batch.length) :
    (outcome (asPrimitive source) context).1 = .error .tooManyDimensions := by
  rw [asPrimitive, isThree]
  refine (ensures_coefficient ready represents (fun _ => room)
    (by decide : Blade.e123 < 16)).bind_error fun weight between _ _ held => ?_
  rw [held.2.allZero_of_many many]
  exact outcome_bind_of_error rfl

/-- A new entity recognized by a grade from elements at the indices of any batch. -/
structure Recognized
    (context : Context ℝ)
    (grade? : Option Nat)
    (shapes : List (List Nat))
    (value : List Nat → Element ℝ)
    (result : Entity ℝ)
    (behind : Context ℝ) :
    Prop where
  isNew : result.IsNew context behind
  isOperand : result.IsOperand behind
  broadcast : Tensor.commonShape shapes = .ok result.batchShape
  made :
    ∀ layout, primitiveLayout? grade? (IsIdeal result.batchShape value) = some layout →
      Made context layout shapes value result behind
  generic :
    primitiveLayout? grade? (IsIdeal result.batchShape value) = none →
      result.layout.kind = .generic

omit represents floating room in
/-- A call of the library whose result is recognized by the grade of its blades. -/
theorem ensures_recognized
    {entities : List (Entity ℝ)}
    (operands : AreOperands context entities)
    (room : certain → limits.HaveCommonRoom (entities.map Entity.batchShape))
    (function : LibraryFunction)
    (isOver : function.body.IsOver entities.length)
    (few :
      certain →
        ∀ source between, Called .projective function entities context source between →
          singleGrade? source = some 3 →
            source.batchShape.length ≤ Tensor.maxGatheredDimensions) :
    (do
        let source ← applyLibrary function entities
        asPrimitive source : Compute ℝ (Entity ℝ)).Ensures limits
      certain context fun result behind =>
        ∃ source between, Called .projective function entities context source between ∧
          Recognized context (singleGrade? source) (entities.map Entity.batchShape)
            (fun index =>
              function.body.meaning Algebra.projective.metric
                (entities.map fun entity => entity.valueAt index))
            result behind := by
  refine (ensures_call ready operands room function isOver).bind
    fun source between isReady free called => ?_
  have roomForResult (isCertain : certain) : limits.HasRoom source.batchShape :=
    (room isCertain).hasRoom called.broadcast
  have isSource := (called.represents.isOperand called.isNew).represents
  refine (ensures_asPrimitive isReady isSource called.isNew.floating roomForResult
    fun isCertain => few isCertain _ _ called).mono fun result behind more held => ?_
  have sameIdeal :
      IsIdeal source.batchShape source.valueAt =
        IsIdeal source.batchShape fun index =>
          function.body.meaning Algebra.projective.metric
            (entities.map fun entity => entity.valueAt index) :=
    propext (forall₂_congr fun index isIndex => by rw [called.valueAt_eq (.refl _) isIndex])
  rw [sameIdeal] at held
  refine ⟨source, between, called, ?_⟩
  generalize recognized : primitiveLayout? (singleGrade? source) _ = layout? at held
  cases layout? with
  | none =>
      dsimp only at held
      subst held
      exact
        { isNew := ⟨called.isNew.free, called.isNew.taken.trans_le more, called.isNew.floating⟩
          isOperand := (called.represents.isOperand called.isNew).later more
          broadcast := called.broadcast
          made := fun layout found => nomatch recognized.symm.trans found
          generic := fun _ => called.generic }
  | some layout =>
      dsimp only at held
      have made :=
        held.made free called.broadcast fun _ reaches _ isIndex =>
          called.valueAt_eq reaches isIndex
      have sameBatch := made.batchShape_eq called.broadcast
      rw [← sameBatch] at recognized
      exact
        { isNew := made.isNew
          isOperand := made.isOperand
          broadcast := made.broadcast
          made := fun other found => by
            cases recognized.symm.trans found
            exact made
          generic := fun absent => nomatch recognized.symm.trans absent }

end Compute
end Versor

end

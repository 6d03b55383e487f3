import Versor.Proofs.Projective.Carrying

/-!
# Motions commute with meeting and joining

Entities are met or joined and then moved, or moved first and then met or
joined (`Compute.BothWays`).  At each index this is one motion of what they
make, so both ways make one primitive (`Compute.transform_incidence`).  Two
things depend on the batch as a whole: without any index all weights vanish,
and a place that has no weight is a point nonetheless beside places that have one.
-/

noncomputable section

namespace Versor

open Matrix Reference

variable {limits : Limits}

/-! ## Entities that meet or are joined -/

namespace Compute

open Entity

/-- The element that entities make at an index when they meet or are joined. -/
def combinedAt
    (incidence : Incidence)
    (first second : Entity ℝ)
    (index : List Nat) :
    Element ℝ :=
  incidence.combine (first.valueAt index) (second.valueAt index)

/-- A new primitive that is made by two entities. -/
structure Combined
    (context : Context ℝ)
    (incidence : Incidence)
    (grade : Nat)
    (first second result : Entity ℝ)
    (behind : Context ℝ) :
    Prop where
  recognized :
    primitiveLayout? (some grade)
      (IsIdeal result.batchShape (combinedAt incidence first second)) = some result.layout
  made :
    Made context result.layout [first.batchShape, second.batchShape]
      (combinedAt incidence first second) result behind

variable
  {certain : Prop}
  {context : Context ℝ}
  {incidence : Incidence}
  {leftGrade rightGrade grade : Nat}
  {first second : Entity ℝ}

/-- Entities that meet or are joined make a primitive. -/
theorem ensures_combined
    (ready : context.IsReady limits)
    (makes : incidence.Makes leftGrade rightGrade grade)
    (firstHasGrade : first.layout.HasGrade leftGrade)
    (secondHasGrade : second.layout.HasGrade rightGrade)
    (operands : AreOperands context [first, second])
    (room : certain → limits.HaveCommonRoom [first.batchShape, second.batchShape])
    (few :
      certain → grade = 3 →
        ∀ batch, Tensor.commonShape [first.batchShape, second.batchShape] = .ok batch →
          batch.length ≤ Tensor.maxGatheredDimensions) :
    (incidence.compute first second).Ensures limits certain context
      (Combined context incidence grade first second) := by
  rw [incidence.compute_eq]
  refine (ensures_recognized ready operands room incidence.function incidence.isOver
    fun isCertain source between called isThree => ?_).mono
      fun result behind _ ⟨source, between, called, recognized⟩ => ?_
  · rw [makes.singleGrade?_eq firstHasGrade secondHasGrade called] at isThree
    exact few isCertain (Option.some.inj isThree) _ called.broadcast
  · rw [makes.singleGrade?_eq firstHasGrade secondHasGrade called] at recognized
    have found :
        ∃ layout,
          primitiveLayout? (some grade)
            (IsIdeal result.batchShape (combinedAt incidence first second)) = some layout := by
      cases makes <;> exact ⟨_, rfl⟩
    rcases found with ⟨layout, found⟩
    have made := recognized.made layout found
    rw [← made.layout_eq] at found
    exact ⟨found, made.layout_eq ▸ made⟩

/-- Over too many dimensions entities do not meet in a point or a direction. -/
theorem compute_of_many
    {batch : List Nat}
    (ready : context.IsReady limits)
    (makes : incidence.Makes leftGrade rightGrade 3)
    (firstHasGrade : first.layout.HasGrade leftGrade)
    (secondHasGrade : second.layout.HasGrade rightGrade)
    (operands : AreOperands context [first, second])
    (broadcast : Tensor.commonShape [first.batchShape, second.batchShape] = .ok batch)
    (room : limits.HasRoom batch)
    (many : Tensor.maxGatheredDimensions < batch.length) :
    (outcome (incidence.compute first second) context).1 = .error .tooManyDimensions := by
  rw [incidence.compute_eq]
  refine (ensures_call ready operands (fun _ => ⟨batch, broadcast, room⟩) incidence.function
    incidence.isOver).bind_error fun source between isReady _ called => ?_
  have sameBatch : source.batchShape = batch :=
    Except.ok.inj (called.broadcast.symm.trans broadcast)
  exact
    asPrimitive_of_many isReady (called.represents.isOperand called.isNew).represents
      (sameBatch ▸ room) (makes.singleGrade?_eq firstHasGrade secondHasGrade called)
      (sameBatch ▸ many)

/-! ## Moving what is made, and making it of what is moved -/

/-- The weights vanish on a batch if they do on a larger one, which has an index if this one has. -/
theorem isIdeal_stretched_iff
    {batch larger : List Nat}
    (together : Tensor.commonShape [first.batchShape, second.batchShape] = .ok batch)
    (reaches : Tensor.Stretches batch larger)
    (inhabited :
      (∃ index, Tensor.IsIndex batch index) → ∃ index, Tensor.IsIndex larger index) :
    IsIdeal larger (combinedAt incidence first second) ↔
      IsIdeal batch (combinedAt incidence first second) := by
  have stretch := Tensor.stretches_of_commonShape together
  have sameAt {index : List Nat} (isIndex : Tensor.IsIndex larger index) :
      combinedAt incidence first second (Tensor.stretchIndex batch index) =
        combinedAt incidence first second index := by
    rw [combinedAt, combinedAt, valueAt_stretch (stretch _ (.head _)) reaches isIndex,
      valueAt_stretch (stretch _ (.tail _ (.head _))) reaches isIndex]
  constructor
  · intro ideal index isIndex
    rcases inhabited ⟨index, isIndex⟩ with ⟨other, isOther⟩
    rcases Tensor.exists_stretchIndex_eq reaches isIndex isOther with ⟨target, inLarger, rfl⟩
    rw [sameAt inLarger]
    exact ideal target inLarger
  · intro ideal index isIndex
    rw [← sameAt isIndex]
    exact ideal _ (Tensor.isIndex_stretchIndex reaches isIndex)

/-- Meet or join entities and move what they make, and make it of the entities moved. -/
def moveBothWays
    (incidence : Incidence)
    (motor first second : Entity ℝ) :
    Compute ℝ (Entity ℝ × Entity ℝ) := do
  let whole ← incidence.compute first second
  let wholeMoved ← transform motor whole
  let firstMoved ← transform motor first
  let secondMoved ← transform motor second
  let movedWhole ← incidence.compute firstMoved secondMoved
  return (wholeMoved, movedWhole)

/-- What is moved after it is made, and what is made of what is moved. -/
structure BothWays
    (incidence : Incidence)
    (grade : Nat)
    (motor first second : Entity ℝ)
    (smaller batch : List Nat)
    (wholeMoved movedWhole : Entity ℝ) :
    Prop where
  wholeBatch : wholeMoved.batchShape = batch
  movedBatch : movedWhole.batchShape = batch
  wholeRecognized :
    primitiveLayout? (some grade) (IsIdeal smaller (combinedAt incidence first second)) =
      some wholeMoved.layout
  movedRecognized :
    primitiveLayout? (some grade) (IsIdeal batch (combinedAt incidence first second)) =
      some movedWhole.layout
  each :
    ∀ index, Tensor.IsIndex batch index →
      ∀ normalized : (motor.even index).norm = 1,
        (Even.motion normalized).Moves
            (wholeMoved.layout.read (combinedAt incidence first second index))
            (wholeMoved.entryAt index) wholeMoved.layout ∧
          ∃ moved,
            (Even.motion normalized).Carries grade (combinedAt incidence first second index)
                moved ∧
              ∀ slot < movedWhole.layout.width,
                movedWhole.entryAt index slot = movedWhole.layout.read moved slot

namespace BothWays

variable
  {motor wholeMoved movedWhole : Entity ℝ}
  {smaller batch : List Nat}
  (bothWays : BothWays incidence grade motor first second smaller batch wholeMoved movedWhole)
  (together : Tensor.commonShape [first.batchShape, second.batchShape] = .ok smaller)
  (smallerReaches : Tensor.Stretches smaller batch)

include bothWays together smallerReaches

/-- Both ways make one type, if moving leaves an index at which weights can be compared. -/
theorem layout_eq
    (inhabited :
      grade = 3 →
        (∃ index, Tensor.IsIndex smaller index) → ∃ index, Tensor.IsIndex batch index) :
    wholeMoved.layout = movedWhole.layout := by
  have sameRecognized :
      primitiveLayout? (some grade) (IsIdeal batch (combinedAt incidence first second)) =
        primitiveLayout? (some grade) (IsIdeal smaller (combinedAt incidence first second)) :=
    Layout.primitiveLayout?_congr fun isThree =>
      isIdeal_stretched_iff together smallerReaches (inhabited isThree)
  refine Option.some.inj ?_
  rw [← bothWays.wholeRecognized, ← bothWays.movedRecognized, sameRecognized]

/-- Both ways make one entry, but for points without a weight. -/
theorem entryAt_eq
    (isMotor : motor.layout.IsMotor)
    (isUnit : motor.IsUnit)
    (motorReaches : Tensor.Stretches motor.batchShape batch)
    {index : List Nat}
    (isIndex : Tensor.IsIndex batch index)
    (hasWeight :
      wholeMoved.layout = .point →
        combinedAt incidence first second index (Blade.vectors .e123) ≠ 0) :
    ∀ slot < wholeMoved.layout.width,
      wholeMoved.entryAt index slot = movedWhole.entryAt index slot := by
  have recognized :
      primitiveLayout? (some grade)
          (combinedAt incidence first second index (Blade.vectors .e123) = 0) =
        some wholeMoved.layout := by
    rw [← bothWays.wholeRecognized]
    refine Layout.primitiveLayout?_congr fun isThree => ⟨fun zero => ?_, fun ideal => ?_⟩
    · by_contra notIdeal
      have isPoint := bothWays.wholeRecognized
      subst isThree
      rw [primitiveLayout?, if_neg notIdeal] at isPoint
      exact hasWeight (Option.some.inj isPoint).symm zero
    · exact
        (isIdeal_stretched_iff together smallerReaches fun _ => ⟨index, isIndex⟩).2 ideal index
          isIndex
  rcases bothWays.each index isIndex (isUnit.norm_twist isMotor motorReaches isIndex).1 with
    ⟨wholeMoves, moved, carried, entries⟩
  have sameLayout := bothWays.layout_eq together smallerReaches fun _ _ => ⟨index, isIndex⟩
  intro slot below
  rw [entries slot (sameLayout ▸ below), ← sameLayout]
  exact wholeMoves.unique (carried.moves_read recognized) slot below

end BothWays

/-- A new entity that is made by transforming another one. -/
abbrev Transformed
    (context : Context ℝ)
    (motor entity : Entity ℝ) :
    Entity ℝ → Context ℝ → Prop :=
  Made context entity.layout [motor.batchShape, entity.batchShape] fun index =>
    sandwich (motor.even index).element (entity.valueAt index)

section Parts

variable
  {motor whole wholeMoved firstMoved secondMoved movedWhole : Entity ℝ}
  {smaller batch : List Nat}
  {afterWhole beforeMoved afterMoved beforeFirst afterFirst beforeSecond afterSecond beforeLast
    behind : Context ℝ}
  (makes : incidence.Makes leftGrade rightGrade grade)
  (isMotor : motor.layout.IsMotor)
  (isUnit : motor.IsUnit)
  (firstHasGrade : first.layout.HasGrade leftGrade)
  (secondHasGrade : second.layout.HasGrade rightGrade)
  (broadcast :
    Tensor.commonShape [motor.batchShape, first.batchShape, second.batchShape] = .ok batch)
  (firstMade : Transformed beforeFirst motor first firstMoved afterFirst)
  (secondMade : Transformed beforeSecond motor second secondMoved afterSecond)

include makes isMotor isUnit firstHasGrade secondHasGrade broadcast firstMade secondMade

/-- What moved entities make is what the others make, carried by the motion of the motor. -/
theorem combinedAt_carried
    {index : List Nat}
    (isIndex : Tensor.IsIndex batch index)
    (normalized : (motor.even index).norm = 1) :
    (Even.motion normalized).Carries grade (combinedAt incidence first second index)
      (combinedAt incidence firstMoved secondMoved index) := by
  have stretch := Tensor.stretches_of_commonShape broadcast
  have motorReaches := stretch _ (.head _)
  have firstReaches : Tensor.Stretches firstMoved.batchShape batch :=
    Tensor.commonShape_stretches firstMade.broadcast
      (by simp [motorReaches, stretch _ (.tail _ (.head _))])
  have secondReaches : Tensor.Stretches secondMoved.batchShape batch :=
    Tensor.commonShape_stretches secondMade.broadcast
      (by simp [motorReaches, stretch _ (.tail _ (.tail _ (.head _)))])
  have untwisted := (isUnit.norm_twist isMotor motorReaches isIndex).2
  have firstMoves :=
    firstMade.moves firstHasGrade.isPrimitive firstReaches isIndex normalized untwisted
      (valueAt_eq first index)
  have secondMoves :=
    secondMade.moves secondHasGrade.isPrimitive secondReaches isIndex normalized untwisted
      (valueAt_eq second index)
  have carried :=
    makes.carries (.of_moves firstHasGrade firstMoves) (.of_moves secondHasGrade secondMoves)
  rw [combinedAt, combinedAt, valueAt_eq firstMoved, valueAt_eq secondMoved, firstMade.layout_eq,
    secondMade.layout_eq]
  exact carried

variable
  (together : Tensor.commonShape [first.batchShape, second.batchShape] = .ok smaller)
  (combined : Combined context incidence grade first second whole afterWhole)
  (wholeMade : Transformed beforeMoved motor whole wholeMoved afterMoved)
  (movedCombined : Combined beforeLast incidence grade firstMoved secondMoved movedWhole behind)

include together combined wholeMade movedCombined

theorem bothWays_of_made :
    BothWays incidence grade motor first second smaller batch wholeMoved movedWhole := by
  have stretch := Tensor.stretches_of_commonShape broadcast
  have unitAt {index : List Nat} (isIndex : Tensor.IsIndex batch index) :=
    isUnit.norm_twist isMotor (stretch _ (.head _)) isIndex
  have carried {index : List Nat} (isIndex : Tensor.IsIndex batch index)
      (normalized : (motor.even index).norm = 1) :=
    combinedAt_carried makes isMotor isUnit firstHasGrade secondHasGrade broadcast firstMade
      secondMade isIndex normalized
  have wholeShape := combined.made.batchShape_eq together
  have reaches := Tensor.stretches_iff_of_commonShape broadcast
  have wholeBatch : wholeMoved.batchShape = batch := by
    refine Tensor.eq_of_stretches_iff fun target => ?_
    simp [reaches, Tensor.stretches_iff_of_commonShape wholeMade.broadcast,
      Tensor.stretches_iff_of_commonShape combined.made.broadcast]
  have movedBatch : movedWhole.batchShape = batch := by
    refine Tensor.eq_of_stretches_iff fun target => ?_
    simp [reaches, Tensor.stretches_iff_of_commonShape movedCombined.made.broadcast,
      Tensor.stretches_iff_of_commonShape firstMade.broadcast,
      Tensor.stretches_iff_of_commonShape secondMade.broadcast]
    tauto
  have sameIdeal :
      IsIdeal batch (combinedAt incidence firstMoved secondMoved) =
        IsIdeal batch (combinedAt incidence first second) :=
    propext (forall₂_congr fun index isIndex => by
      rw [(carried isIndex (unitAt isIndex).1).weight_eq])
  have wholeHasGrade := Layout.hasGrade_of_primitiveLayout? combined.recognized
  have movedHasGrade := Layout.hasGrade_of_primitiveLayout? movedCombined.recognized
  refine
    { wholeBatch := wholeBatch
      movedBatch := movedBatch
      wholeRecognized := ?_
      movedRecognized := ?_
      each := fun index isIndex normalized => ⟨?_, _, carried isIndex normalized, ?_⟩ }
  · rw [wholeMade.layout_eq, ← wholeShape]
    exact combined.recognized
  · rw [← sameIdeal, ← movedBatch]
    exact movedCombined.recognized
  · rw [wholeMade.layout_eq]
    have wholeReaches : Tensor.Stretches whole.batchShape batch :=
      wholeBatch ▸ Tensor.stretches_of_commonShape wholeMade.broadcast _ (.tail _ (.head _))
    exact
      wholeMade.moves wholeHasGrade.isPrimitive (wholeBatch ▸ .refl _) isIndex normalized
        (unitAt isIndex).2 (combined.made.valueAt_eq batch wholeReaches index isIndex)
  · intro slot below
    exact
      movedCombined.made.entryAt_eq movedHasGrade.isPrimitive.isMoved (movedBatch ▸ .refl _)
        isIndex below

end Parts

/-- Moving what is made and making it of what is moved are two ways of one motion. -/
theorem ensures_both_ways
    {motor : Entity ℝ}
    {smaller batch : List Nat}
    (ready : context.IsReady limits)
    (makes : incidence.Makes leftGrade rightGrade grade)
    (isMotor : motor.layout.IsMotor)
    (isUnit : motor.IsUnit)
    (firstHasGrade : first.layout.HasGrade leftGrade)
    (secondHasGrade : second.layout.HasGrade rightGrade)
    (operands : AreOperands context [motor, first, second])
    (together : Tensor.commonShape [first.batchShape, second.batchShape] = .ok smaller)
    (broadcast :
      Tensor.commonShape [motor.batchShape, first.batchShape, second.batchShape] = .ok batch)
    (room :
      certain →
        limits.HasRoomWithin batch ∧
          (grade = 3 → batch.length ≤ Tensor.maxGatheredDimensions)) :
    (moveBothWays incidence motor first second).Ensures limits certain context
      fun (wholeMoved, movedWhole) _ =>
        BothWays incidence grade motor first second smaller batch wholeMoved movedWhole := by
  have stretch := Tensor.stretches_of_commonShape broadcast
  have motorReaches := stretch _ (.head _)
  have firstReaches := stretch _ (.tail _ (.head _))
  have secondReaches := stretch _ (.tail _ (.tail _ (.head _)))
  have roomFor {shapes : List (List Nat)}
      (reach : ∀ shape ∈ shapes, Tensor.Stretches shape batch) (isCertain : certain) :
      limits.HaveCommonRoom shapes :=
    (room isCertain).1.common reach
  have fewFor {shapes : List (List Nat)}
      (reach : ∀ shape ∈ shapes, Tensor.Stretches shape batch) (isCertain : certain)
      (isThree : grade = 3) (shape : List Nat) (found : Tensor.commonShape shapes = .ok shape) :
      shape.length ≤ Tensor.maxGatheredDimensions :=
    (Tensor.commonShape_stretches found reach).length_le.trans ((room isCertain).2 isThree)
  have pairReaches : ∀ shape ∈ [first.batchShape, second.batchShape],
      Tensor.Stretches shape batch := by
    simp [firstReaches, secondReaches]
  refine (ensures_combined ready makes firstHasGrade secondHasGrade
    (operands.subset (List.subset_cons_self _ _)) (roomFor pairReaches) (fewFor pairReaches)).bind
      fun whole afterWhole isReady wholeFree combined => ?_
  have wholeHasGrade := Layout.hasGrade_of_primitiveLayout? combined.recognized
  have wholeReaches : Tensor.Stretches whole.batchShape batch :=
    Tensor.commonShape_stretches combined.made.broadcast pairReaches
  have withWhole : AreOperands afterWhole [motor, whole] :=
    ((operands.subset (by simp)).cons wholeFree combined.made.isNew
      combined.made.isOperand).subset (List.Perm.swap whole motor []).subset
  refine (ensures_transform isReady isMotor wholeHasGrade.isPrimitive.isMoved withWhole
    (roomFor (by simp [motorReaches, wholeReaches]))).bind
      fun wholeMoved afterMoved isReady movedFree wholeMade => ?_
  have withFirst : AreOperands afterMoved [motor, first] :=
    (operands.subset (by simp)).later (wholeFree.trans movedFree)
  refine (ensures_transform isReady isMotor firstHasGrade.isPrimitive.isMoved withFirst
    (roomFor (by simp [motorReaches, firstReaches]))).bind
      fun firstMoved afterFirst isReady firstFree firstMade => ?_
  have withSecond : AreOperands afterFirst [motor, second] :=
    (operands.subset (by simp)).later ((wholeFree.trans movedFree).trans firstFree)
  refine (ensures_transform isReady isMotor secondHasGrade.isPrimitive.isMoved withSecond
    (roomFor (by simp [motorReaches, secondReaches]))).bind
      fun secondMoved afterSecond isReady secondFree secondMade => ?_
  have movedPair : AreOperands afterSecond [firstMoved, secondMoved] :=
    ((AreOperands.singleton firstMade.isOperand).cons secondFree secondMade.isNew
      secondMade.isOperand).subset (List.Perm.swap secondMoved firstMoved []).subset
  have firstMovedReaches : Tensor.Stretches firstMoved.batchShape batch :=
    Tensor.commonShape_stretches firstMade.broadcast (by simp [motorReaches, firstReaches])
  have secondMovedReaches : Tensor.Stretches secondMoved.batchShape batch :=
    Tensor.commonShape_stretches secondMade.broadcast (by simp [motorReaches, secondReaches])
  have movedReaches : ∀ shape ∈ [firstMoved.batchShape, secondMoved.batchShape],
      Tensor.Stretches shape batch := by
    simp [firstMovedReaches, secondMovedReaches]
  refine (ensures_combined isReady makes (firstMade.layout_eq ▸ firstHasGrade)
    (secondMade.layout_eq ▸ secondHasGrade) movedPair (roomFor movedReaches)
    (fewFor movedReaches)).bind fun movedWhole behind isReady _ movedCombined => .pure isReady ?_
  exact
    bothWays_of_made makes isMotor isUnit firstHasGrade secondHasGrade broadcast firstMade
      secondMade together combined wholeMade movedCombined

/--
Rigid motions commute with meeting and joining: unless a motor has no index at
all, both ways make a primitive of one type, with the same entries wherever a
point has a weight.
-/
theorem transform_incidence
    {context : Context ℝ}
    {incidence : Incidence}
    {leftGrade rightGrade grade : Nat}
    {motor first second : Entity ℝ}
    {batch : List Nat}
    (reached : context.IsReached)
    (isMotor : motor.layout.IsMotor)
    (isUnit : motor.IsUnit)
    (makes : incidence.Makes leftGrade rightGrade grade)
    (firstHasGrade : first.layout.HasGrade leftGrade)
    (secondHasGrade : second.layout.HasGrade rightGrade)
    (operands : AreOperands context [motor, first, second])
    (broadcast :
      Tensor.commonShape [motor.batchShape, first.batchShape, second.batchShape] = .ok batch) :
    (moveBothWays incidence motor first second).Gives
      (context.limits.HasRoomWithin batch ∧
        (grade = 3 → batch.length ≤ Tensor.maxGatheredDimensions))
      context fun (wholeMoved, movedWhole) =>
        (wholeMoved.layout.HasGrade grade ∧ wholeMoved.batchShape = batch) ∧
          (movedWhole.layout.HasGrade grade ∧ movedWhole.batchShape = batch) ∧
            ((grade = 3 → ∃ index, Tensor.IsIndex motor.batchShape index) →
              wholeMoved.layout = movedWhole.layout) ∧
              ∀ index, Tensor.IsIndex batch index →
                (wholeMoved.layout = Layout.point →
                  combinedAt incidence first second index (Blade.vectors .e123) ≠ 0) →
                  ∀ slot < wholeMoved.layout.width,
                    wholeMoved.entryAt index slot = movedWhole.entryAt index slot := by
  have stretch := Tensor.stretches_of_commonShape broadcast
  have pairReaches : ∀ shape ∈ [first.batchShape, second.batchShape],
      Tensor.Stretches shape batch := by
    simp [stretch _ (.tail _ (.head _)), stretch _ (.tail _ (.tail _ (.head _)))]
  rcases Tensor.exists_commonShape pairReaches with ⟨smaller, together, smallerReaches⟩
  refine (ensures_both_ways reached.isReady makes isMotor isUnit firstHasGrade secondHasGrade
    operands together broadcast id).gives fun (wholeMoved, movedWhole) _ bothWays => ?_
  have inhabited (motorInhabited : ∃ index, Tensor.IsIndex motor.batchShape index)
      (pairInhabited : ∃ index, Tensor.IsIndex smaller index) :
      ∃ index, Tensor.IsIndex batch index := by
    rcases pairInhabited with ⟨index, isIndex⟩
    have inPair := Tensor.stretches_of_commonShape together
    refine Tensor.exists_isIndex_of_commonShape broadcast
      (List.forall_mem_cons.2 ⟨motorInhabited, fun shape member => ?_⟩)
    exact ⟨_, Tensor.isIndex_stretchIndex (inPair shape member) isIndex⟩
  exact
    ⟨⟨Layout.hasGrade_of_primitiveLayout? bothWays.wholeRecognized, bothWays.wholeBatch⟩,
      ⟨Layout.hasGrade_of_primitiveLayout? bothWays.movedRecognized, bothWays.movedBatch⟩,
      fun motorInhabited =>
        bothWays.layout_eq together smallerReaches fun isThree =>
          inhabited (motorInhabited isThree),
      fun index isIndex hasWeight =>
        bothWays.entryAt_eq together smallerReaches isMotor isUnit (stretch _ (.head _)) isIndex
          hasWeight⟩

/-! ## A post on the ground -/

/-- The third axis. -/
def post : Entity ℝ :=
  .ofRow 1 .line 0 [0, 0, 1, 0, 0, 0]

theorem areOperands_post :
    AreOperands (.start 3) [screw, ground, post] :=
  .of_nodup (by decide) (by decide)

/-- The weight of the place in which a plane meets a line. -/
theorem weight_meet
    {plane line : Entity ℝ}
    (isPlane : plane.layout = .plane)
    (isLine : line.layout = .line)
    (index : List Nat) :
    combinedAt .meet plane line index (Blade.vectors .e123) =
      coordinates (plane.entryAt index) 1 ⬝ᵥ coordinates (line.entryAt index) 0 := by
  rw [combinedAt, Incidence.combine_meet, valueAt_of_plane isPlane, valueAt_of_line isLine,
    plane_wedge_line, Odd.element_apply _ (by decide)]
  rfl

theorem weight_post
    (index : List Nat) :
    combinedAt .meet ground post index (Blade.vectors .e123) = 1 := by
  rw [weight_meet rfl rfl]
  simp [coordinates, ground, post, entryAt_ofRow, dotProduct, Fin.sum_univ_three]

/-- A screw moves the foot of a post to where it moves the post and the ground. -/
theorem transform_incidence_post :
    (moveBothWays .meet screw ground post).Gives True (.start 3) fun (footMoved, movedFoot) =>
      footMoved.layout = movedFoot.layout ∧
        ∀ slot < footMoved.layout.width,
          footMoved.entryAt [] slot = movedFoot.entryAt [] slot := by
  have isMotor : screw.layout.IsMotor := .motor
  have groundHasGrade : ground.layout.HasGrade 1 := .plane
  have postHasGrade : post.layout.HasGrade 2 := .line
  have moved :=
    transform_incidence (Context.isReached_start 3) isMotor isUnit_screw .planeLine groundHasGrade
      postHasGrade areOperands_post rfl
  have room : Limits.usual.HasRoomWithin [] := Limits.hasRoomWithin_usual (by decide)
  refine ⟨fun _ => moved.succeeds ⟨room, fun _ => by decide⟩, fun results computed => ?_⟩
  rcases moved.holds results computed with ⟨_, _, sameType, sameEntries⟩
  have hasWeight : combinedAt .meet ground post [] (Blade.vectors .e123) ≠ 0 := by
    rw [weight_post]
    exact one_ne_zero
  exact ⟨sameType fun _ => ⟨[], .nil⟩, sameEntries [] .nil fun _ => hasWeight⟩

/-! ## Batches without an index, and points without a weight -/

/-- Motors in a batch that has no index. -/
def noMotors : Entity ℝ :=
  ⟨0, .motor, ⟨.float64, [0, 8], #[]⟩⟩

/-- The post, and a line above the ground and parallel to it. -/
def postAndRail : Entity ℝ :=
  ⟨1, .line, ⟨.float64, [2, 6], #[0, 0, 1, 0, 0, 0, 1, 0, 0, 0, 1, 0]⟩⟩

theorem not_isIndex_noMotors
    (index : List Nat) :
    ¬ Tensor.IsIndex [0] index := by
  rintro ⟨⟩
  next below _ => exact Nat.not_lt_zero _ below

theorem isUnit_noMotors :
    noMotors.IsUnit :=
  fun index isIndex => absurd isIndex (not_isIndex_noMotors index)

theorem areOperands_noMotors :
    AreOperands (.start 3) [noMotors, ground, post] :=
  .of_nodup (by decide) (by decide)

theorem areOperands_postAndRail :
    AreOperands (.start 3) [screw, ground, postAndRail] :=
  .of_nodup (by decide) (by decide)

theorem coordinates_postAndRail :
    coordinates (postAndRail.entryAt [0]) 0 = ![0, 0, 1] ∧
      coordinates (postAndRail.entryAt [1]) 0 = ![1, 0, 0] := by
  constructor <;> rfl

theorem weight_postAndRail :
    combinedAt .meet ground postAndRail [0] (Blade.vectors .e123) = 1 ∧
      combinedAt .meet ground postAndRail [1] (Blade.vectors .e123) = 0 := by
  rw [weight_meet rfl rfl, weight_meet rfl rfl, coordinates_postAndRail.1,
    coordinates_postAndRail.2]
  constructor <;>
    simp [coordinates, ground, entryAt_ofRow, dotProduct, Fin.sum_univ_three]

/-- Without an index all weights vanish. -/
theorem types_noMotors :
    (moveBothWays .meet noMotors ground post).Gives True (.start 3) fun (footMoved, movedFoot) =>
      footMoved.layout = Layout.point ∧ movedFoot.layout = Layout.vector := by
  have ready : (Context.start 3 : Context ℝ).IsReady .usual := (Context.isReached_start 3).isReady
  have makes : Incidence.meet.Makes 1 2 3 := .planeLine
  have isMotor : noMotors.layout.IsMotor := .motor
  have groundHasGrade : ground.layout.HasGrade 1 := .plane
  have postHasGrade : post.layout.HasGrade 2 := .line
  have together : Tensor.commonShape [ground.batchShape, post.batchShape] = .ok [] := rfl
  have broadcast :
      Tensor.commonShape [noMotors.batchShape, ground.batchShape, post.batchShape] = .ok [0] :=
    rfl
  have room : Limits.usual.HasRoomWithin [0] := Limits.hasRoomWithin_usual (by decide)
  refine (ensures_both_ways ready makes isMotor isUnit_noMotors groundHasGrade postHasGrade
    areOperands_noMotors together broadcast fun _ : True => ⟨room, fun _ => by decide⟩).gives
      fun (footMoved, movedFoot) _ bothWays => ?_
  have notIdeal : ¬ IsIdeal [] (combinedAt .meet ground post) := fun ideal =>
    one_ne_zero ((weight_post []).symm.trans (ideal [] .nil))
  have ideal : IsIdeal [0] (combinedAt .meet ground post) := fun index isIndex =>
    absurd isIndex (not_isIndex_noMotors index)
  have whole := bothWays.wholeRecognized
  have moved := bothWays.movedRecognized
  rw [primitiveLayout?, if_neg notIdeal] at whole
  rw [primitiveLayout?, if_pos ideal] at moved
  exact ⟨(Option.some.inj whole).symm, (Option.some.inj moved).symm⟩

/-- Beside a post that stands on the ground a line along it makes a point as well. -/
theorem types_postAndRail :
    (moveBothWays .meet screw ground postAndRail).Gives True (.start 3)
      fun (feetMoved, movedFeet) =>
        feetMoved.layout = Layout.point ∧ movedFeet.layout = Layout.point := by
  have ready : (Context.start 3 : Context ℝ).IsReady .usual := (Context.isReached_start 3).isReady
  have makes : Incidence.meet.Makes 1 2 3 := .planeLine
  have isMotor : screw.layout.IsMotor := .motor
  have groundHasGrade : ground.layout.HasGrade 1 := .plane
  have linesHaveGrade : postAndRail.layout.HasGrade 2 := .line
  have together : Tensor.commonShape [ground.batchShape, postAndRail.batchShape] = .ok [2] := rfl
  have broadcast :
      Tensor.commonShape [screw.batchShape, ground.batchShape, postAndRail.batchShape] =
        .ok [2] :=
    rfl
  have room : Limits.usual.HasRoomWithin [2] := Limits.hasRoomWithin_usual (by decide)
  refine (ensures_both_ways ready makes isMotor isUnit_screw groundHasGrade linesHaveGrade
    areOperands_postAndRail together broadcast fun _ : True => ⟨room, fun _ => by decide⟩).gives
      fun (feetMoved, movedFeet) _ bothWays => ?_
  have notIdeal : ¬ IsIdeal [2] (combinedAt .meet ground postAndRail) := fun ideal =>
    one_ne_zero (weight_postAndRail.1.symm.trans (ideal [0] (.cons (by decide) .nil)))
  have whole := bothWays.wholeRecognized
  have moved := bothWays.movedRecognized
  rw [primitiveLayout?, if_neg notIdeal] at whole moved
  exact ⟨(Option.some.inj whole).symm, (Option.some.inj moved).symm⟩

/--
What entities meet in depends on the whole batch: motors without an index leave no
weight to tell a point from a direction by, and beside a point that has a weight there
may be one that has none, before the motion and after it.
-/
theorem meet_depends_on_batch :
    (noMotors.IsUnit ∧
      (moveBothWays .meet noMotors ground post).Gives True (.start 3)
        fun (footMoved, movedFoot) =>
          footMoved.layout = Layout.point ∧ movedFoot.layout = Layout.vector) ∧
      screw.IsUnit ∧ combinedAt .meet ground postAndRail [1] (Blade.vectors .e123) = 0 ∧
        (moveBothWays .meet screw ground postAndRail).Gives True (.start 3)
          fun (feetMoved, movedFeet) =>
            feetMoved.layout = Layout.point ∧ movedFeet.layout = Layout.point :=
  ⟨⟨isUnit_noMotors, types_noMotors⟩, isUnit_screw, weight_postAndRail.2, types_postAndRail⟩

end Compute

end Versor

end

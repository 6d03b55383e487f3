import Versor.Proofs.Projective.Relabelling

/-!
# Blades as the binding has them

Reading an entity on blades gives the coefficients of its bound multivector at what it stores
(`Compute.select_reads_binding`).  Types whose slots are coefficients are read from storage and the
others through the identity function, so both ways agree where both can be gone.  Either
way a blade outside of the algebra is refused.
-/

noncomputable section

namespace Versor

open Compute Reference

variable {limits : Limits}

/-- The blades of an algebra, among all integers. -/
def Algebra.HasBlade
    (algebra : Algebra)
    (blade : Int) :
    Prop :=
  0 ≤ blade ∧ blade < (algebra.bladeCount : Int)

instance (algebra : Algebra) (blade : Int) : Decidable (algebra.HasBlade blade) :=
  inferInstanceAs (Decidable (_ ∧ _))

theorem Algebra.blade?_eq_none_iff
    (algebra : Algebra)
    (blade : Int) :
    algebra.blade? (.integer blade) = none ↔ ¬ algebra.HasBlade blade := by
  simp [blade?, Literal.toInt?, HasBlade]

namespace Entity

variable {entity : Entity ℝ}

/-! ## Bound multivectors at stored values -/

/-- The ids from a base on have the values of the slots at an index of the batch. -/
def Stores
    (entity : Entity ℝ)
    (index : List Nat)
    (base : Nat)
    (assignment : SourceId → ℝ) :
    Prop :=
  ∀ slot < entity.layout.width,
    assignment ((base + slot : Nat) : SourceId) = entity.storage.get (index ++ [slot])

theorem exists_stores
    (entity : Entity ℝ)
    (index : List Nat)
    (base : Nat) :
    ∃ assignment, entity.Stores index base assignment := by
  refine ⟨fun id => entity.storage.get (index ++ [id.num.toNat - base]), ?_⟩
  intro slot _
  have place : ((base + slot : Nat) : SourceId).num.toNat - base = slot := by
    rw [Rat.num_natCast, Int.toNat_natCast, Nat.add_sub_cancel_left]
  exact congrArg (fun other => entity.storage.get (index ++ [other])) place

/-- At what is stored, the bound multivector has the value that the entity stands for. -/
theorem Stores.valueAt_bind
    {index : List Nat}
    {base : Nat}
    {assignment : SourceId → ℝ}
    (stores : entity.Stores index base assignment)
    (isIndex : Tensor.IsIndex entity.batchShape index) :
    (entity.layout.bind base).valueAt assignment = entity.valueAt index := by
  rw [Layout.bind, Layout.valueAt_bindIds, Entity.valueAt]
  apply Layout.valueAt_congr
  intro slot below
  rw [get_slot isIndex]
  exact stores slot below

/-- Values that are, column by column, the coefficients of the bound multivector on blades. -/
structure HasColumns
    (entity : Entity ℝ)
    (blades : List Int)
    (values : Tensor ℝ) :
    Prop where
  shape_eq : values.shape = entity.batchShape ++ [blades.length]
  get_eq :
    ∀ index, Tensor.IsIndex entity.batchShape index →
      ∀ (base : Nat) (assignment : SourceId → ℝ), entity.Stores index base assignment →
        ∀ (column : Nat) (inside : column < blades.length),
          values.get (index ++ [column]) =
            (entity.layout.bind base).valueAt assignment (Blade.vectors blades[column].toNat)

theorem hasColumns_of_holdsRows
    {blades : List Int}
    {values : Tensor ℝ}
    (rows :
      values.HoldsRows entity.batchShape blades.length
        (coefficients (blades.map Int.toNat) entity.valueAt)) :
    entity.HasColumns blades values := by
  rcases Tensor.holdsRows_iff.1 rows with ⟨shape, get⟩
  constructor
  · exact shape
  · intro index isIndex base assignment stores column inside
    rw [get index isIndex column inside, stores.valueAt_bind isIndex]
    simp [coefficients, inside]

/-- The columns are determined: there is always a way to bind what is stored. -/
theorem HasColumns.get_unique
    {blades : List Int}
    {values others : Tensor ℝ}
    (columns : entity.HasColumns blades values)
    (otherColumns : entity.HasColumns blades others)
    {index : List Nat}
    (isIndex : Tensor.IsIndex entity.batchShape index)
    {column : Nat}
    (inside : column < blades.length) :
    values.get (index ++ [column]) = others.get (index ++ [column]) := by
  rcases entity.exists_stores index 0 with ⟨assignment, stores⟩
  rw [columns.get_eq index isIndex 0 assignment stores column inside,
    otherColumns.get_eq index isIndex 0 assignment stores column inside]

end Entity

namespace Compute

/-! ## Ways to read -/

/-- Values of an entity at blades, through the entity that the identity function makes. -/
def selectExported
    (entity : Entity ℝ)
    (blades : List Literal) :
    Compute ℝ (Tensor ℝ) := do
  let exported ← applyLibrary .identity [entity]
  select exported blades

section Ways

variable {entity : Entity ℝ} (blades : List Literal)

theorem select_of_isBladeMapped
    (mapped : entity.layout.isBladeMapped = true) :
    select entity blades =
      (ofExcept (blades.mapM entity.algebra.checkBlade) >>= fun blades =>
        ofExcept (entity.selectSlots blades)) := by
  rw [select, if_pos mapped, pure_bind]

/-- Types whose slots are no coefficients are types of the projective algebra. -/
theorem select_of_not_isBladeMapped
    (unmapped : ¬ entity.layout.isBladeMapped = true) :
    select entity blades =
      (applyLibrary .identity [entity] >>= fun source =>
        ofExcept (blades.mapM source.algebra.checkBlade) >>= fun blades =>
          ofExcept (source.selectSlots blades)) := by
  have unlisted : ¬ entity.layout.isBladeList = true := by
    generalize entity.layout = layout at unmapped
    cases layout <;> first | exact absurd rfl unmapped | exact Bool.false_ne_true
  rw [select, if_neg unmapped, toEntity, if_neg unlisted]

end Ways

section Reading

variable
  {certain : Prop}
  {context : Context ℝ}
  (ready : context.IsReady limits)
  {algebra : Algebra}
  {entity : Entity ℝ}
  {batch : List Nat}
  {value : List Nat → Element ℝ}
  (represents : entity.Represents algebra batch value)
  {blades : List Int}

include ready represents

theorem ensures_select_of_isBladeMapped
    (mapped : entity.layout.isBladeMapped = true)
    (inside : ∀ blade ∈ blades, algebra.HasBlade blade) :
    (select entity (blades.map Literal.integer)).Ensures limits certain context fun values _ =>
      values.HoldsRows batch blades.length (coefficients (blades.map Int.toNat) value) := by
  lift blades to List Blade using fun blade member => (inside blade member).1
  have below : ∀ blade ∈ blades, blade < algebra.bladeCount := by
    intro blade member
    exact Int.ofNat_lt.1 (inside blade (List.mem_map_of_mem member)).2
  have naturals : (blades.map Nat.cast).map Int.toNat = blades := by
    simp [Function.comp_def]
  rw [select_of_isBladeMapped _ mapped, naturals, List.map_map, List.length_map]
  exact (ensures_selectSlots ready represents mapped below).mono fun _ _ _ read => read.2

omit ready in
/-- A blade outside of the algebra is refused before anything is read. -/
theorem exists_select_refused
    (mapped : entity.layout.isBladeMapped = true)
    (outside : ∃ blade ∈ blades, ¬ algebra.HasBlade blade)
    (context : Context ℝ) :
    ∃ blade ∈ blades, ¬ algebra.HasBlade blade ∧
      (outcome (select entity (blades.map Literal.integer)) context).1 =
        .error (.blade (.integer blade) algebra.bladeCount) := by
  have sameCount : entity.algebra.bladeCount = algebra.bladeCount :=
    represents.full.agrees.bladeCount_eq
  have same (blade : Int) : entity.algebra.HasBlade blade ↔ algebra.HasBlade blade := by
    rw [Algebra.HasBlade, Algebra.HasBlade, sameCount]
  have unnamed :
      ∃ literal ∈ blades.map Literal.integer, entity.algebra.blade? literal = none := by
    rcases outside with ⟨blade, member, isOutside⟩
    have notHere := (entity.algebra.blade?_eq_none_iff blade).2 (mt (same blade).1 isOutside)
    exact ⟨_, List.mem_map_of_mem member, notHere⟩
  rcases Algebra.exists_mapM_checkBlade_of_none unnamed with ⟨literal, isIn, isUnnamed, failed⟩
  rcases List.mem_map.1 isIn with ⟨blade, member, rfl⟩
  have isOutside := mt (same blade).2 ((entity.algebra.blade?_eq_none_iff blade).1 isUnnamed)
  refine ⟨blade, member, isOutside, ?_⟩
  rw [select_of_isBladeMapped _ mapped, failed, sameCount]
  exact outcome_bind_of_error rfl

/-- What is read off the entity that the identity makes is what the given one stands for. -/
theorem ensures_readExported
    (room : certain → limits.HasRoomFor algebra batch)
    (inside : ∀ blade ∈ blades, algebra.HasBlade blade)
    {read : Entity ℝ → Compute ℝ (Tensor ℝ)}
    (reads :
      ∀ source : Entity ℝ, source.layout.isBladeMapped = true →
        read source = select source (blades.map Literal.integer)) :
    (applyLibrary .identity [entity] >>= read).Ensures limits certain context fun values _ =>
      values.HoldsRows batch blades.length (coefficients (blades.map Int.toNat) value) := by
  apply (ensures_identity ready represents room).bind
  intro source between isReady _ exported
  rw [reads source exported.2.1]
  exact ensures_select_of_isBladeMapped isReady exported.1 exported.2.1 inside

/-- A blade outside of the algebra is refused once the entity has been made. -/
theorem exists_readExported_refused
    (room : limits.HasRoomFor algebra batch)
    (outside : ∃ blade ∈ blades, ¬ algebra.HasBlade blade)
    {read : Entity ℝ → Compute ℝ (Tensor ℝ)}
    (reads :
      ∀ source : Entity ℝ, source.layout.isBladeMapped = true →
        read source = select source (blades.map Literal.integer)) :
    ∃ blade ∈ blades, ¬ algebra.HasBlade blade ∧
      (outcome (applyLibrary .identity [entity] >>= read) context).1 =
        .error (.blade (.integer blade) algebra.bladeCount) := by
  have made := ensures_identity ready represents fun _ : True => room
  rcases made.exists_outcome_bind with ⟨source, between, _, _, exported, follows⟩
  rw [follows read, reads source exported.2.1]
  exact exists_select_refused exported.1 exported.2.1 outside between

end Reading

/-- Reading an entity on blades from storage and through the identity, beside its binding. -/
structure ReadsBinding
    (context : Context ℝ)
    (entity : Entity ℝ)
    (blades : List Int) :
    Prop where
  direct :
    (∀ blade ∈ blades, entity.algebra.HasBlade blade) →
      (select entity (blades.map Literal.integer)).Gives
        (entity.layout.isBladeMapped = true ∨
          context.limits.HasRoomFor entity.algebra entity.batchShape)
        context (entity.HasColumns blades)
  exported :
    (∀ blade ∈ blades, entity.algebra.HasBlade blade) →
      (selectExported entity (blades.map Literal.integer)).Gives
        (context.limits.HasRoomFor entity.algebra entity.batchShape) context
        (entity.HasColumns blades)
  alike :
    (∀ blade ∈ blades, entity.algebra.HasBlade blade) →
      ∀ values others,
        (outcome (select entity (blades.map Literal.integer)) context).1 = .ok values →
        (outcome (selectExported entity (blades.map Literal.integer)) context).1 = .ok others →
          values.shape = others.shape ∧
            ∀ index, Tensor.IsIndex entity.batchShape index →
              ∀ column < blades.length,
                values.get (index ++ [column]) = others.get (index ++ [column])
  direct_refused :
    (∃ blade ∈ blades, ¬ entity.algebra.HasBlade blade) →
      (entity.layout.isBladeMapped = true ∨
        context.limits.HasRoomFor entity.algebra entity.batchShape) →
        ∃ blade ∈ blades, ¬ entity.algebra.HasBlade blade ∧
          (outcome (select entity (blades.map Literal.integer)) context).1 =
            .error (.blade (.integer blade) entity.algebra.bladeCount)
  exported_refused :
    (∃ blade ∈ blades, ¬ entity.algebra.HasBlade blade) →
      context.limits.HasRoomFor entity.algebra entity.batchShape →
        ∃ blade ∈ blades, ¬ entity.algebra.HasBlade blade ∧
          (outcome (selectExported entity (blades.map Literal.integer)) context).1 =
            .error (.blade (.integer blade) entity.algebra.bladeCount)

/--
What an entity reads on blades are the coefficients of its bound multivector at the values that
it stores, zero on blades that it does not have.  Storage and the identity function read the
same, and both refuse blades outside of the algebra.
-/
theorem select_reads_binding
    {context : Context ℝ}
    (reached : context.IsReached)
    {entity : Entity ℝ}
    (full : entity.IsFull entity.algebra)
    (inRange : entity.layout.InRange)
    (distinct : entity.layout.elements.Nodup)
    (blades : List Int) :
    ReadsBinding context entity blades := by
  have ready := reached.isReady
  have represents := full.represents inRange distinct
  -- A type whose slots are no coefficients is read off what the identity makes of it.
  have directly (inside : ∀ blade ∈ blades, entity.algebra.HasBlade blade) :
      (select entity (blades.map Literal.integer)).Ensures context.limits
        (entity.layout.isBladeMapped = true ∨
          context.limits.HasRoomFor entity.algebra entity.batchShape)
        context fun values _ =>
          values.HoldsRows entity.batchShape blades.length
            (coefficients (blades.map Int.toNat) entity.valueAt) := by
    by_cases mapped : entity.layout.isBladeMapped = true
    · exact ensures_select_of_isBladeMapped ready represents mapped inside
    · rw [select_of_not_isBladeMapped _ mapped]
      apply ensures_readExported ready represents
      · intro certain
        exact certain.resolve_left mapped
      · exact inside
      · intro source isMapped
        exact (select_of_isBladeMapped _ isMapped).symm
  have indirectly (inside : ∀ blade ∈ blades, entity.algebra.HasBlade blade) :
      (selectExported entity (blades.map Literal.integer)).Ensures context.limits
        (context.limits.HasRoomFor entity.algebra entity.batchShape) context fun values _ =>
          values.HoldsRows entity.batchShape blades.length
            (coefficients (blades.map Int.toNat) entity.valueAt) :=
    ensures_readExported ready represents id inside fun _ _ => rfl
  constructor
  case direct =>
    intro inside
    exact (directly inside).gives fun _ _ rows => Entity.hasColumns_of_holdsRows rows
  case exported =>
    intro inside
    exact (indirectly inside).gives fun _ _ rows => Entity.hasColumns_of_holdsRows rows
  case alike =>
    intro inside values others isRead isExported
    have columns := Entity.hasColumns_of_holdsRows ((directly inside).holds values isRead)
    have others := Entity.hasColumns_of_holdsRows ((indirectly inside).holds others isExported)
    constructor
    · exact columns.shape_eq.trans others.shape_eq.symm
    · intro index isIndex column below
      exact columns.get_unique others isIndex below
  case direct_refused =>
    intro outside certain
    by_cases mapped : entity.layout.isBladeMapped = true
    · exact exists_select_refused represents mapped outside context
    · rw [select_of_not_isBladeMapped _ mapped]
      apply exists_readExported_refused ready represents (certain.resolve_left mapped) outside
      intro source isMapped
      exact (select_of_isBladeMapped _ isMapped).symm
  case exported_refused =>
    intro outside room
    exact exists_readExported_refused ready represents room outside fun _ _ => rfl

/-- An entity of another algebra, on blades in no order. -/
def scatteredEntity : Entity ℝ :=
  .ofRow 0 (.generic ⟨⟨2, 1, 0, [], by decide⟩⟩ [5, 0, 3] []) 0 [2, -1, 4]

/-- A turn, the slots of which are no coefficients. -/
def storedTurn : Entity ℝ :=
  .ofRow 0 .rotor 0 [0, 1, 0, 0, 1]

/-- Blades are read twice, and where there are none, and refused where there cannot be any. -/
theorem select_reads_binding_scattered :
    (select scatteredEntity ([3, 6, 5, 3].map Literal.integer)).Gives True (.start 1)
        (scatteredEntity.HasColumns [3, 6, 5, 3]) ∧
      (selectExported storedTurn ([12, 0, 7].map Literal.integer)).Gives True (.start 1)
        (storedTurn.HasColumns [12, 0, 7]) ∧
      ∃ blade ∈ [3, -1], ¬ storedTurn.algebra.HasBlade blade ∧
        (outcome (select storedTurn ([3, -1].map Literal.integer)) (.start 1)).1 =
          .error (.blade (.integer blade) storedTurn.algebra.bladeCount) := by
  have reached : (Context.start 1 : Context ℝ).IsReached := Context.isReached_start 1
  have scattered : scatteredEntity.IsFull scatteredEntity.algebra := ⟨rfl, rfl⟩
  have turn : storedTurn.IsFull storedTurn.algebra := ⟨rfl, rfl⟩
  have room : Limits.usual.HasRoomFor storedTurn.algebra storedTurn.batchShape :=
    Limits.hasRoom_usual (by decide)
  have reads := select_reads_binding reached scattered (by decide) (by decide)
  have turnReads := select_reads_binding reached turn (by decide) (by decide)
  constructor
  · have direct := (reads [3, 6, 5, 3]).direct (by decide)
    exact direct.mono (fun _ => .inl rfl) fun _ columns => columns
  · constructor
    · have exported := (turnReads [12, 0, 7]).exported (by decide)
      exact exported.mono (fun _ => room) fun _ columns => columns
    · exact (turnReads [3, -1]).direct_refused (by decide) (.inr room)

end Compute

end Versor

end

import Versor.Proofs.Program.Binding
import Versor.Proofs.Program.Execution

/-!
# Collecting the slots of entities

A program finds the slots of its entities by their ids.  The entities that it
was made for pass its checks, and since their ids are apart, each id leads to
the slot that it was given (`exists_collect`).
-/

namespace Versor
namespace Program

/-! ## Slots of one entity -/

section Lookup

variable {Number : Type} [Arithmetic Number]

/-- The slot of an id in the range of an entity. -/
theorem lookup_columnsOf
    (entity : Entity Number)
    (base : Nat)
    {width slot : Nat}
    (below : slot < width)
    (others : Columns Number) :
    (columnsOf entity (.natural base) width ++ others).lookup ((base + slot : Nat) : ℚ) =
      some (entity.storage.column slot) := by
  unfold columnsOf
  induction width with
  | zero => exact absurd below (Nat.not_lt_zero _)
  | succ width inductionHypothesis =>
      rw [List.range_succ, List.reverse_append, List.reverse_singleton, List.singleton_append,
        List.map_cons, List.cons_append, List.lookup_cons]
      rcases Nat.lt_succ_iff_lt_or_eq.1 below with earlier | rfl
      · have different :
            (((base + slot : Nat) : ℚ) == (FirstId.natural base).id width) = false := by
          have apart : base + slot ≠ base + width := by omega
          exact beq_eq_false_iff_ne.2 (Nat.cast_injective.ne apart)
        rw [different]
        exact inductionHypothesis earlier
      · have same : (((base + slot : Nat) : ℚ) == (FirstId.natural base).id slot) = true :=
          beq_self_eq_true _
        rw [same]

/-- An id outside the range of an entity is looked up further on. -/
theorem lookup_columnsOf_of_ne
    (entity : Entity Number)
    (base : Nat)
    {width : Nat}
    {id : SourceId}
    (outside : ∀ slot < width, id ≠ ((base + slot : Nat) : ℚ))
    (others : Columns Number) :
    (columnsOf entity (.natural base) width ++ others).lookup id = others.lookup id := by
  unfold columnsOf
  induction width with
  | zero => rfl
  | succ width inductionHypothesis =>
      have different : (id == (FirstId.natural base).id width) = false :=
        beq_eq_false_iff_ne.2 (outside width (Nat.lt_succ_self width))
      rw [List.range_succ, List.reverse_append, List.reverse_singleton, List.singleton_append,
        List.map_cons, List.cons_append, List.lookup_cons, different]
      exact inductionHypothesis fun slot below => outside slot (Nat.lt_succ_of_lt below)

end Lookup

/-! ## Slots of all entities -/

variable {Number : Type} [Arithmetic Number]

/-- An entity of the right algebra and structure adds its slots. -/
theorem collect_cons
    {program : Program Number}
    {entity : Entity Number}
    {signature : Signature}
    {input : Input}
    (agrees : entity.algebra.Agrees program.algebra)
    (signed : entity.signature = .ok signature)
    (same : signature.plain = input.signature.plain)
    (columns : Columns Number)
    (rest : List (Entity Number × Input)) :
    program.collect columns ((entity, input) :: rest) =
      program.collect (columnsOf entity input.first signature.width ++ columns) rest := by
  simp only [collect, signed, bind, Except.bind]
  rw [if_neg (not_not.2 agrees), if_neg (not_not.2 same)]

omit [Arithmetic Number] in
/-- Ids of placements that are disjoint are different. -/
theorem id_ne_of_disjoint
    {left right : Placement Number}
    (disjoint : left.Disjoint right)
    {slot other : Nat}
    (below : slot < left.signature.width)
    (otherBelow : other < right.signature.width) :
    ((left.base + slot : Nat) : ℚ) ≠ ((right.base + other : Nat) : ℚ) := by
  have different : left.base + slot ≠ right.base + other := by
    rcases disjoint with before | behind <;> omega
  exact Nat.cast_injective.ne different

/-- The entities a program was made for pass its checks, and their slots are found by their ids. -/
theorem exists_collect
    {program : Program Number}
    {placed : List (Placement Number)}
    (agree : ∀ placement ∈ placed, placement.entity.algebra.Agrees program.algebra)
    (signed : ∀ placement ∈ placed, placement.entity.signature = .ok placement.signature)
    (disjoint : placed.Pairwise Placement.Disjoint)
    (columns : Columns Number) :
    ∃ result,
      program.collect columns
          (placed.map fun placement => (placement.entity, placement.input)) =
        .ok result ∧
      (∀ id : SourceId,
        (∀ placement ∈ placed, ∀ slot < placement.signature.width,
          id ≠ ((placement.base + slot : Nat) : ℚ)) →
        result.lookup id = columns.lookup id) ∧
      ∀ placement ∈ placed, ∀ slot < placement.signature.width,
        result.lookup ((placement.base + slot : Nat) : ℚ) =
          some (placement.entity.storage.column slot) := by
  induction placed generalizing columns with
  | nil => exact ⟨columns, rfl, fun _ _ => rfl, by simp⟩
  | cons placement rest inductionHypothesis =>
      rcases List.forall_mem_cons.1 agree with ⟨agrees, restAgree⟩
      rcases List.forall_mem_cons.1 signed with ⟨isSigned, restSigned⟩
      rcases List.pairwise_cons.1 disjoint with ⟨fromFirst, restDisjoint⟩
      rcases
          inductionHypothesis restAgree restSigned restDisjoint
            (columnsOf placement.entity (.natural placement.base) placement.signature.width ++
              columns) with
        ⟨result, collected, kept, found⟩
      refine ⟨result, ?_, fun id outside => ?_, ?_⟩
      · exact (collect_cons agrees isSigned rfl columns _).trans collected
      · rcases List.forall_mem_cons.1 outside with ⟨outsideFirst, outsideRest⟩
        rw [kept id outsideRest,
          lookup_columnsOf_of_ne placement.entity placement.base outsideFirst]
      · refine List.forall_mem_cons.2 ⟨fun slot below => ?_, found⟩
        rw [kept _ fun other member otherSlot otherBelow =>
            id_ne_of_disjoint (fromFirst other member) below otherBelow,
          lookup_columnsOf placement.entity placement.base below]

end Program
end Versor

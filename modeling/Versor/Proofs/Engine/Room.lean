import Versor.Proofs.Engine.Library
import Versor.Proofs.Tensor.Room

/-!
# Room for projective computations

A computation with projective entities calls functions of the library, whose
formulas have to fit on the stack, and makes tensors at the batches that it
passes through.  There is room for it at a batch if the limits leave room for
both (`Limits.HasRoom`).  Where the numbers on all blades are few enough at one
batch, there is room at every batch that stretches to it
(`Limits.hasRoomWithin_of_le`).
-/

namespace Versor
namespace Limits

open Tensor

variable {limits : Limits}

/-- Room for calls with projective entities at the indices of a batch. -/
abbrev HasRoom
    (limits : Limits)
    (batch : List Nat) :
    Prop :=
  limits.HasRoomFor .projective batch

/-- Where sizes are few there is room, also at each batch that stretches to the given one. -/
theorem hasRoom_of_stretches
    {batch target : List Nat}
    (stack : ∀ function : LibraryFunction, limits.stack.Holds function.body.height)
    (few : extent target * 16 ≤ limits.capacity)
    (small : extent target * 16 < twoTo 63)
    (stretches : Stretches batch target) :
    limits.HasRoom batch := by
  refine ⟨stack, fun width narrow => ?_⟩
  have less : extent (batch ++ [width]) ≤ extent target * 16 := by
    rw [extent_append, extent_cons, extent_nil, Nat.mul_one]
    exact Nat.mul_le_mul stretches.extent_le (max_le (by decide) narrow)
  exact isRepresentable_of_le (less.trans few) (less.trans_lt small)

/-- Room for calls at every batch that stretches to a given one. -/
def HasRoomWithin
    (limits : Limits)
    (batch : List Nat) :
    Prop :=
  ∀ smaller, Stretches smaller batch → limits.HasRoom smaller

theorem hasRoomWithin_of_le
    {batch : List Nat}
    (stack : ∀ function : LibraryFunction, limits.stack.Holds function.body.height)
    (few : extent batch * 16 ≤ limits.capacity)
    (small : extent batch * 16 < twoTo 63) :
    limits.HasRoomWithin batch :=
  fun _ stretches => hasRoom_of_stretches stack few small stretches

/-- The usual limits leave room for the numbers that the usual memory holds. -/
theorem hasRoomWithin_usual
    {batch : List Nat}
    (few : extent batch * 16 ≤ usual.capacity) :
    usual.HasRoomWithin batch :=
  hasRoomWithin_of_le holds_usual few (few.trans_lt (by decide))

theorem hasRoom_usual
    {batch : List Nat}
    (few : extent batch * 16 ≤ usual.capacity) :
    usual.HasRoom batch :=
  hasRoomWithin_usual few batch (.refl batch)

/-- Batches that have a common one, which there is room for. -/
def HaveCommonRoom
    (limits : Limits)
    (batches : List (List Nat)) :
    Prop :=
  ∃ batch, commonShape batches = .ok batch ∧ limits.HasRoom batch

/-- There is room for the common batch that is found. -/
theorem HaveCommonRoom.hasRoom
    {batches : List (List Nat)}
    (room : limits.HaveCommonRoom batches)
    {batch : List Nat}
    (found : commonShape batches = .ok batch) :
    limits.HasRoom batch := by
  rcases room with ⟨common, foundToo, fits⟩
  rw [Except.ok.inj (found.symm.trans foundToo)]
  exact fits

theorem HasRoomWithin.common
    {batch : List Nat}
    (room : limits.HasRoomWithin batch)
    {batches : List (List Nat)}
    (stretch : ∀ part ∈ batches, Stretches part batch) :
    limits.HaveCommonRoom batches := by
  rcases exists_commonShape stretch with ⟨common, found, reaches⟩
  exact ⟨common, found, room common reaches⟩

theorem HaveCommonRoom.of_stretches_iff
    {batches others : List (List Nat)}
    (room : limits.HaveCommonRoom batches)
    (same :
      ∀ target,
        (∀ shape ∈ batches, Stretches shape target) ↔
          ∀ shape ∈ others, Stretches shape target) :
    limits.HaveCommonRoom others := by
  rcases room with ⟨batch, found, fits⟩
  exact ⟨batch, commonShape_of_stretches_iff same found, fits⟩

end Limits
end Versor

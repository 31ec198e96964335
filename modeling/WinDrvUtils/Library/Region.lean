import Mathlib.Order.Interval.Set.LinearOrder
import Mathlib.Data.Set.Function

/-!
# Regions of memory

A region is a run of bytes, as an access or a block has it. An access stays
inside a block when its bytes are among those of the block. An access of no
bytes stays inside every block, wherever it begins.
-/

structure Region where
  start : Nat
  size : Nat
  deriving DecidableEq, Repr

namespace Region

def bytes (region : Region) : Set Nat :=
  Set.Ico region.start (region.start + region.size)

def Within (inner outer : Region) : Prop :=
  inner.bytes ⊆ outer.bytes

theorem mem_bytes {region : Region} {address : Nat} :
    address ∈ region.bytes ↔
      region.start ≤ address ∧ address < region.start + region.size :=
  Set.mem_Ico

theorem within_of_size_zero
    {inner : Region} (empty : inner.size = 0) (outer : Region) :
    inner.Within outer := by
  intro address member
  have bounds := mem_bytes.mp member
  omega

theorem within_iff
    {inner : Region} (nonempty : inner.size ≠ 0) (outer : Region) :
    inner.Within outer ↔
      outer.start ≤ inner.start ∧
        inner.start + inner.size ≤ outer.start + outer.size := by
  have some : inner.start < inner.start + inner.size := by
    omega
  exact Set.Ico_subset_Ico_iff some

/-- Accesses that begin where the block does stay inside if they are not
longer. -/
theorem within_same_start_iff (start inner outer : Nat) :
    Within ⟨start, inner⟩ ⟨start, outer⟩ ↔ inner ≤ outer := by
  by_cases empty : inner = 0
  · have inside := @within_of_size_zero ⟨start, inner⟩ empty ⟨start, outer⟩
    exact iff_of_true inside (empty ▸ Nat.zero_le outer)
  · rw [@within_iff ⟨start, inner⟩ empty]
    dsimp only
    omega

/-- What differs inside a region at most differs inside a larger one at
most. -/
theorem Within.eqOn_compl
    {Value : Type} {first second : Nat → Value} {inner outer : Region}
    (inside : inner.Within outer)
    (same : Set.EqOn first second inner.bytesᶜ) :
    Set.EqOn first second outer.bytesᶜ :=
  same.mono (Set.compl_subset_compl.mpr inside)

end Region

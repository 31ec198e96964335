import WinDrvUtils.Memory.Pool
import Mathlib.Algebra.Group.Nat.Defs

/-!
# The allocator contract

Whoever uses an allocator relies on a block with room for the layout, at an
address that its alignment divides, or on a refusal. `SimpleAlloc` passes the
size to the kernel and never the alignment, so a block has the alignment of
the kernel's pool: 16 bytes below a page, and a page from there on.

The pool answers as it likes within that. `contract_iff` says for which
layouts this is enough.
-/

namespace WinDrvUtils

def pageSize : Nat := 4096

/-- A `Layout` that Rust can make: rounded up to the alignment, the size is
at most `isize::MAX`. -/
structure ValidLayout extends Layout where
  powerOfTwo : align.isPowerOfTwo
  bounded : size + align ≤ 0x8000000000000000

/-- The alignment of a block, from the size that was asked for. -/
def poolAlignment (size : Nat) : Nat :=
  if size < pageSize then 16 else pageSize

/-- A block that the pool may answer with. -/
structure PoolBlock (size : Nat) where
  address : Address
  bytes : Nat
  nonNull : address ≠ nullPtr
  room : size ≤ bytes
  inside : address + bytes ≤ 0x10000000000000000
  aligned : poolAlignment size ∣ address

section Sizes

variable {size asked : Nat} (block : PoolBlock size)

theorem PoolBlock.room_of_size (same : size = asked) :
    asked ≤ block.bytes := by
  rw [← same]
  exact block.room

theorem PoolBlock.aligned_of_size (same : size = asked) :
    poolAlignment asked ∣ block.address := by
  rw [← same]
  exact block.aligned

end Sizes

/-- The answers of the pool; `none` is null. -/
abbrev PoolKernel := ∀ call : PoolCall, Option (PoolBlock call.size)

def PoolKernel.pointer (kernel : PoolKernel) (call : PoolCall) : Address :=
  match kernel call with
  | none => nullPtr
  | some block => block.address

/-- `core::alloc::AllocError` -/
structure AllocError where
  deriving DecidableEq, Repr

/-- `NonNull<[u8]>` -/
structure ByteSlice where
  pointer : Address
  len : Nat
  deriving DecidableEq, Repr

namespace SimpleAlloc

/-- `GlobalAlloc::alloc` -/
def globalAlloc (allocator : SimpleAlloc) (layout : Layout)
    (kernel : PoolKernel) : Address :=
  kernel.pointer (allocator.alloc layout)

/-- `Allocator::allocate` -/
def allocate (allocator : SimpleAlloc) (layout : Layout)
    (kernel : PoolKernel) : Except AllocError ByteSlice :=
  let pool := kernel.pointer (allocator.alloc layout)
  if pool = nullPtr then .error ⟨⟩ else .ok ⟨pool, layout.size⟩

/-- Both ways to allocate pass the size. -/
@[simp]
theorem alloc_size (allocator : SimpleAlloc) (layout : Layout) :
    (allocator.alloc layout).size = layout.size := by
  unfold alloc
  cases allocator.allocPool2 <;> rfl

end SimpleAlloc

/-! ## The contract -/

/-- `pointer` is the start of the block, which has the bytes of the layout,
and the alignment of the layout divides it. -/
structure Layout.Served (layout : Layout) {size : Nat}
    (block : PoolBlock size) (pointer : Address) : Prop where
  start : pointer = block.address
  room : layout.size ≤ block.bytes
  aligned : layout.align ∣ pointer

namespace SimpleAlloc

/-- The contract of `GlobalAlloc`, for one answer of the kernel. -/
def GlobalAllocContract (allocator : SimpleAlloc) (layout : Layout)
    (kernel : PoolKernel) : Prop :=
  let pointer := allocator.globalAlloc layout kernel
  pointer = nullPtr ∨
    ∃ block, kernel (allocator.alloc layout) = some block ∧
      layout.Served block pointer

/-- The contract of `Allocator`: the slice lies in the block too. -/
def AllocatorContract (allocator : SimpleAlloc) (layout : Layout)
    (kernel : PoolKernel) : Prop :=
  ∀ slice, allocator.allocate layout kernel = .ok slice →
    ∃ block, kernel (allocator.alloc layout) = some block ∧
      layout.Served block slice.pointer ∧
        layout.size ≤ slice.len ∧ slice.len ≤ block.bytes

/-- The block that the kernel answers with, if any, has the alignment of the
layout. -/
def AnswerAligned (allocator : SimpleAlloc) (layout : Layout)
    (kernel : PoolKernel) : Prop :=
  ∀ block, kernel (allocator.alloc layout) = some block →
    layout.align ∣ block.address

section Answers

variable {allocator : SimpleAlloc} {layout : Layout} {kernel : PoolKernel}

theorem pointer_of_some
    {call : PoolCall} {block : PoolBlock call.size}
    (answered : kernel call = some block) :
    kernel.pointer call = block.address := by
  simp [PoolKernel.pointer, answered]

theorem pointer_of_none
    {call : PoolCall} (refused : kernel call = none) :
    kernel.pointer call = nullPtr := by
  simp [PoolKernel.pointer, refused]

theorem served_of_aligned
    {block : PoolBlock (allocator.alloc layout).size}
    (aligned : layout.align ∣ block.address) :
    layout.Served block block.address where
  start := rfl
  room := block.room_of_size (alloc_size allocator layout)
  aligned := aligned

/-- Of the contract, only the alignment is left to the kernel. -/
theorem globalAllocContract_iff :
    allocator.GlobalAllocContract layout kernel ↔
      allocator.AnswerAligned layout kernel := by
  unfold GlobalAllocContract globalAlloc
  constructor
  · rintro (null | ⟨block, answered, served⟩) other found
    · rw [pointer_of_some found] at null
      exact absurd null other.nonNull
    · rw [answered] at found
      cases found
      rw [← served.start]
      exact served.aligned
  · intro aligned
    cases answered : kernel (allocator.alloc layout) with
    | none => exact .inl (pointer_of_none answered)
    | some block =>
        rw [pointer_of_some answered]
        exact
          .inr ⟨block, rfl, served_of_aligned (aligned block answered)⟩

theorem allocatorContract_iff :
    allocator.AllocatorContract layout kernel ↔
      allocator.AnswerAligned layout kernel := by
  unfold AllocatorContract allocate
  constructor
  · intro contract block answered
    have pointer := pointer_of_some answered
    have nonNull : kernel.pointer (allocator.alloc layout) ≠ nullPtr := by
      rw [pointer]
      exact block.nonNull
    obtain ⟨other, found, served, _⟩ := contract _ (if_neg nonNull)
    rw [← pointer]
    exact served.aligned
  · intro aligned slice allocated
    cases answered : kernel (allocator.alloc layout) with
    | none =>
        simp [pointer_of_none answered] at allocated
    | some block =>
        rw [pointer_of_some answered, if_neg block.nonNull] at allocated
        cases allocated
        have served := served_of_aligned (aligned block answered)
        exact ⟨block, rfl, served, le_rfl, served.room⟩

end Answers

end SimpleAlloc

/-! ## What the pool can answer -/

theorem poolAlignment_ne_null (size : Nat) :
    poolAlignment size ≠ nullPtr := by
  unfold poolAlignment
  split <;> decide

theorem poolAlignment_add_le
    {size room : Nat} (inside : size + pageSize ≤ room) :
    poolAlignment size + size ≤ room := by
  unfold poolAlignment
  unfold pageSize at *
  split <;> omega

/-- The block that is aligned for its size and no better. -/
def leastBlock (size : Nat)
    (inside : size + pageSize ≤ 0x10000000000000000) : PoolBlock size where
  address := poolAlignment size
  bytes := size
  nonNull := poolAlignment_ne_null size
  room := le_rfl
  inside := poolAlignment_add_le inside
  aligned := Nat.dvd_refl _

def leastKernel : PoolKernel := fun call =>
  if inside : call.size + pageSize ≤ 0x10000000000000000 then
    some (leastBlock call.size inside)
  else none

/-- An alignment divides the address of every block that the pool can answer
with exactly if it divides the pool's own. -/
theorem answerAligned_iff (allocator : SimpleAlloc) (layout : ValidLayout) :
    (∀ kernel, allocator.AnswerAligned layout.toLayout kernel) ↔
      layout.align ∣ poolAlignment layout.size := by
  constructor
  · intro aligned
    have inside :
        (allocator.alloc layout.toLayout).size + pageSize ≤
          0x10000000000000000 := by
      rw [SimpleAlloc.alloc_size, pageSize]
      have bounded := layout.bounded
      omega
    have least :
        layout.align ∣
          poolAlignment (allocator.alloc layout.toLayout).size :=
      aligned leastKernel (leastBlock _ inside) (dif_pos inside)
    rwa [SimpleAlloc.alloc_size] at least
  · intro divides kernel block _
    have aligned :=
      block.aligned_of_size (allocator.alloc_size layout.toLayout)
    exact Nat.dvd_trans divides aligned

theorem pow_dvd_pow_iff_le (left right : Nat) :
    2 ^ left ∣ 2 ^ right ↔ 2 ^ left ≤ 2 ^ right :=
  (Nat.pow_dvd_pow_iff_le_right Nat.one_lt_two).trans
    (Nat.pow_le_pow_iff_right Nat.one_lt_two).symm

theorem dvd_poolAlignment_iff (layout : ValidLayout) :
    layout.align ∣ poolAlignment layout.size ↔
      layout.align ≤ 16 ∨
        pageSize ≤ layout.size ∧ layout.align ≤ pageSize := by
  obtain ⟨exponent, power⟩ := layout.powerOfTwo
  have small : layout.align ∣ 16 ↔ layout.align ≤ 16 := by
    rw [power]
    exact pow_dvd_pow_iff_le exponent 4
  have large : layout.align ∣ pageSize ↔ layout.align ≤ pageSize := by
    rw [power]
    exact pow_dvd_pow_iff_le exponent 12
  unfold poolAlignment
  by_cases below : layout.size < pageSize
  · rw [if_pos below, small]
    omega
  · rw [if_neg below, large]
    unfold pageSize at *
    omega

/-- For every allocator and every layout, both traits meet their contract
whatever the pool answers exactly when the layout asks for at most the
alignment of the pool. -/
theorem SimpleAlloc.contract_iff
    (allocator : SimpleAlloc) (layout : ValidLayout) :
    ((∀ kernel, allocator.GlobalAllocContract layout.toLayout kernel) ↔
        layout.align ≤ 16 ∨
          pageSize ≤ layout.size ∧ layout.align ≤ pageSize) ∧
      ((∀ kernel, allocator.AllocatorContract layout.toLayout kernel) ↔
        layout.align ≤ 16 ∨
          pageSize ≤ layout.size ∧ layout.align ≤ pageSize) := by
  have exactly :=
    (answerAligned_iff allocator layout).trans (dvd_poolAlignment_iff layout)
  constructor
  · rw [← exactly]
    exact forall_congr' fun kernel => globalAllocContract_iff
  · rw [← exactly]
    exact forall_congr' fun kernel => allocatorContract_iff

/-- A cache line. -/
def cacheLine : ValidLayout where
  size := 64
  align := 64
  powerOfTwo := ⟨6, rfl⟩
  bounded := by decide

/-- A pool that has a block of 64 bytes free, at an address that 16 divides
and 64 does not. -/
def lineKernel : PoolKernel := fun call =>
  if room : call.size ≤ 64 then
    some
      { address := 0xFFFFA00000001010
        bytes := 64
        nonNull := by decide
        room := room
        inside := by decide
        aligned := by
          have below : call.size < pageSize := by
            unfold pageSize
            omega
          rw [poolAlignment, if_pos below]
          decide }
  else none

theorem line_not_aligned (allocator : SimpleAlloc) :
    ¬ allocator.AnswerAligned cacheLine.toLayout lineKernel := by
  intro aligned
  have room : (allocator.alloc cacheLine.toLayout).size ≤ 64 := by
    rw [SimpleAlloc.alloc_size]
    exact le_rfl
  have divides : 64 ∣ 0xFFFFA00000001010 := aligned _ (dif_pos room)
  exact absurd divides (by decide)

def withoutPool2 : SimpleAlloc :=
  SimpleAlloc.constNew

def withPool2 : SimpleAlloc :=
  SimpleAlloc.constNew.init 0xFFFFF80000002000

theorem cacheLine_misaligned :
    (¬ withoutPool2.GlobalAllocContract cacheLine.toLayout lineKernel ∧
        ¬ withoutPool2.AllocatorContract cacheLine.toLayout lineKernel) ∧
      ¬ withPool2.GlobalAllocContract cacheLine.toLayout lineKernel ∧
        ¬ withPool2.AllocatorContract cacheLine.toLayout lineKernel := by
  simp only [SimpleAlloc.globalAllocContract_iff,
    SimpleAlloc.allocatorContract_iff, and_self]
  exact ⟨line_not_aligned withoutPool2, line_not_aligned withPool2⟩

end WinDrvUtils

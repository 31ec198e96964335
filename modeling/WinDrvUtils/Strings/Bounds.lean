import WinDrvUtils.Library.Region
import WinDrvUtils.Strings.Validity
import WinDrvUtils.Strings.Ownership

/-!
# Where strings are written

`create` and `copy` fill a buffer through raw pointers. For each of them, the
bytes that it reads and writes are compared with those of the slice, of the
block that it asked for, and of the vector that it made.

`create` hands a length in bytes to a function that counts units, so it stays
inside exactly when there is nothing to copy. `copy` takes the address of the
boxed vector for that of its units, so the string that it returns has a buffer
exactly when it advertises none.
-/

namespace WinDrvUtils

def Slice.region (slice : Slice) : Region :=
  ⟨slice.pointer, 2 * slice.len⟩

/-- The bytes that a vector has for its units. -/
def Vec16.region (vec : Vec16) : Region :=
  ⟨vec.pointer, 2 * vec.capacity⟩

/-! ## Units outside a region -/

theorem copyUnits_eqOn
    (units : Address → UInt16) (source dest : Address) (count : Nat) :
    Set.EqOn (copyUnits units source dest count) units
      (Region.bytes ⟨dest, 2 * count⟩)ᶜ := by
  intro address outside
  rw [copyUnits, if_neg]
  rintro ⟨low, high, _⟩
  exact outside (Region.mem_bytes.mpr ⟨low, high⟩)

/-- An address behind `count` units from `dest` on is that of a later one. -/
theorem beyond_units {dest address count : Nat} (low : dest ≤ address)
    (outside : ¬ (dest ≤ address ∧ address < dest + 2 * count)) :
    count ≤ (address - dest) / 2 := by
  omega

theorem writeUnits_eqOn
    (units : Address → UInt16) (dest : Address) (values : List UInt16) :
    Set.EqOn (writeUnits units dest values) units
      (Region.bytes ⟨dest, 2 * values.length⟩)ᶜ := by
  intro address outside
  rw [writeUnits]
  split
  case isFalse other => rfl
  case isTrue inside =>
      have notMember :
          ¬ (dest ≤ address ∧ address < dest + 2 * values.length) := by
        intro bounds
        exact outside (Region.mem_bytes.mpr bounds)
      have beyond := beyond_units inside.1 notMember
      rw [List.getElem?_eq_none beyond]
      rfl

/-! ## The copy of `create` -/

/-- A call of `core::ptr::copy` with units for elements. -/
structure PtrCopy where
  source : Address
  dest : Address
  count : Nat
  deriving DecidableEq, Repr

namespace PtrCopy

def reads (copy : PtrCopy) : Region :=
  ⟨copy.source, 2 * copy.count⟩

def writes (copy : PtrCopy) : Region :=
  ⟨copy.dest, 2 * copy.count⟩

def run (copy : PtrCopy) (units : Address → UInt16) : Address → UInt16 :=
  copyUnits units copy.source copy.dest copy.count

end PtrCopy

namespace WduUnicodeString

/-- The copy that `create` performs. The count is the length in bytes. -/
def createCopy (source : Slice) (answer : Address) : PtrCopy :=
  ⟨source.pointer, answer, (toUnicodeLen source.len).toNat⟩

/-- What a call of `create` that succeeds does with its two buffers. `sizes`
has the bytes that it requested. -/
structure StaysInside (source : Slice) (answer : Address)
    (memory after : Memory) : Prop where
  performed : after.units = (createCopy source answer).run memory.units
  readsInside : (createCopy source answer).reads.Within source.region
  writesInside :
    (createCopy source answer).writes.Within ⟨answer, after.sizes answer⟩
  filled :
    readUnits after.units answer (after.sizes answer / 2) =
      source.units memory

theorem sizes_allocate
    (memory : Memory) (allocator : Allocator) (size : Nat)
    {answer : Address} (granted : answer ≠ nullPtr) :
    (memory.allocate allocator size answer).sizes answer = size := by
  rw [Memory.allocate, if_neg granted]
  exact Function.update_self _ _ _

theorem toNat_toUnicodeLen (len : Nat) :
    (toUnicodeLen len).toNat = 2 * (len % 0x8000) := by
  rw [toUnicodeLen, UInt16.toNat_ofNat']
  omega

/-- The copy writes two bytes for each one that was requested. -/
theorem writes_within_iff
    (source : Slice) (answer : Address) :
    (createCopy source answer).writes.Within
        ⟨answer, (toUnicodeLen source.len).toNat⟩ ↔
      source.len % 0x8000 = 0 := by
  have requested := toNat_toUnicodeLen source.len
  apply (Region.within_same_start_iff answer _ _).trans
  dsimp only [createCopy]
  omega

theorem staysInside_iff
    (source : Slice) (answer : Address) (memory after : Memory)
    (units :
      after.units =
        copyUnits memory.units source.pointer answer
          (toUnicodeLen source.len).toNat)
    (sizes : after.sizes answer = (toUnicodeLen source.len).toNat) :
    StaysInside source answer memory after ↔ source.len = 0 := by
  have requested := toNat_toUnicodeLen source.len
  constructor
  · intro inside
    have writesInside := inside.writesInside
    rw [sizes, writes_within_iff] at writesInside
    have lengths := congrArg List.length inside.filled
    rw [length_readUnits, Slice.units, length_readUnits, sizes] at lengths
    omega
  · intro empty
    have none : (toUnicodeLen source.len).toNat = 0 := by
      omega
    refine ⟨units, ?_, ?_, ?_⟩
    · apply Region.within_of_size_zero
      simp [PtrCopy.reads, createCopy, none]
    · apply Region.within_of_size_zero
      simp [PtrCopy.writes, createCopy, none]
    · rw [sizes, none, Slice.units, empty]
      rfl

/-- `create` stays inside both buffers exactly when it has nothing to copy or
gets no memory. -/
theorem create_staysInside_iff
    (source : Slice) (poolType : PoolFlags) (takes : TakesPool poolType)
    (answer : Address) (memory : Memory) :
    (∀ string after,
        create source poolType answer memory = .ok (.ok string, after) →
          StaysInside source answer memory after) ↔
      source.len = 0 ∨ answer = nullPtr := by
  rw [create_eq source takes]
  by_cases null : answer = nullPtr
  · rw [if_pos null]
    refine iff_of_true ?_ (Or.inr null)
    intro string after returned
    cases returned
  · rw [if_neg null]
    have requested :=
      sizes_allocate memory (.exPool stringAllocTag)
        (toUnicodeLen source.len).toNat null
    constructor
    · intro inside
      have stays := inside _ _ rfl
      rw [staysInside_iff] at stays
      · exact Or.inl stays
      · rfl
      · exact requested
    · rintro (empty | refused) string after returned
      · cases returned
        rw [staysInside_iff]
        · exact empty
        · rfl
        · exact requested
      · exact absurd refused null

/-- Nothing is copied from an empty slice. -/
theorem emptySlice_staysInside :
    (∀ string after,
        create ⟨0x1000, 0⟩ .poolFlagPaged 0x2000 filledMemory =
            .ok (.ok string, after) →
          StaysInside ⟨0x1000, 0⟩ 0x2000 filledMemory after) ↔
      (0 : Nat) = 0 ∨ 0x2000 = nullPtr :=
  create_staysInside_iff ⟨0x1000, 0⟩ .poolFlagPaged (Or.inr rfl) 0x2000
    filledMemory

/-- One unit: two bytes are requested and four are written. -/
theorem oneUnit_overruns :
    ∃ string after,
      create ⟨0x1000, 1⟩ .poolFlagPaged 0x2000 filledMemory =
          .ok (.ok string, after) ∧
        after.sizes 0x2000 = 2 ∧
        (createCopy ⟨0x1000, 1⟩ 0x2000).writes = ⟨0x2000, 4⟩ ∧
        ¬ StaysInside ⟨0x1000, 1⟩ 0x2000 filledMemory after := by
  refine ⟨_, _, rfl, rfl, rfl, fun inside => ?_⟩
  have written := inside.writesInside
  rw [Region.Within] at written
  have last : 0x2003 ∈ (createCopy ⟨0x1000, 1⟩ 0x2000).writes.bytes := by
    exact Region.mem_bytes.mpr (by decide)
  have bounds := Region.mem_bytes.mp (written last)
  revert bounds
  decide

/-! ## Clones -/

/-- The answers of an allocator that has memory. The box is another block than
the vector's; a vector with no capacity has no block, and some address. -/
structure CloneBlocks where
  vec : Address
  box : Address
  vec_ne : vec ≠ nullPtr
  box_ne : box ≠ nullPtr
  distinct : box ≠ vec

/-- The vector that `copy` makes for the units. -/
def copiedVec (source : WduUnicodeString) (blocks : CloneBlocks) : Vec16 :=
  ⟨blocks.vec, source.len.toNat, source.len.toNat⟩

/-- The box that `copy` moves the vector into. -/
def boxRegion (blocks : CloneBlocks) : Region :=
  ⟨blocks.box, sizeOfVec⟩

/-- The bytes that `RtlCopyUnicodeString` reads. -/
def rtlCopyReads (dest source : UnicodeString) : Region :=
  ⟨source.buffer, (min source.length dest.maximumLength).toNat⟩

/-- The bytes that `RtlCopyUnicodeString` writes. -/
def rtlCopyWrites (dest source : UnicodeString) : Region :=
  let bytes := (min source.length dest.maximumLength).toNat
  ⟨dest.buffer,
    if bytes + 2 ≤ dest.maximumLength.toNat then bytes + 2 else bytes⟩

/-- The first `bytes` bytes from `pointer` on are the beginning of the
vector's buffer. -/
def BeginsBuffer (vec : Vec16) (pointer : Address) (bytes : Nat) : Prop :=
  (bytes ≠ 0 → pointer = vec.pointer) ∧
    Region.Within ⟨pointer, bytes⟩ vec.region

/-- What a deep copy is: equal units, a buffer as long as it is said to be,
and nothing else written or released. -/
structure FaithfulClone (source : WduUnicodeString) (blocks : CloneBlocks)
    (memory : Memory) (string : WduUnicodeString) (after : Memory) :
    Prop where
  sameUnits : string.asSlice after = source.asSlice memory
  buffered :
    BeginsBuffer (source.copiedVec blocks) string.string.buffer
      string.string.maximumLength.toNat
  copiesInside :
    (rtlCopyWrites string.string source.string).Within
      (source.copiedVec blocks).region
  framed :
    Set.EqOn after.units memory.units
      ((source.copiedVec blocks).region.bytes ∪ (boxRegion blocks).bytes)ᶜ
  keptBlocks :
    after.blocks.released = memory.blocks.released ∧
      ∀ block ∈ memory.blocks.live, block ∈ after.blocks.live

/-- `RtlCopyUnicodeString` changes no unit but where it is said to write. -/
theorem rtlCopy_eqOn
    (dest source : UnicodeString) (memory : Memory) :
    Set.EqOn (rtlCopyUnicodeString dest source memory).2.units memory.units
      (rtlCopyWrites dest source).bytesᶜ := by
  simp only [rtlCopyUnicodeString, rtlCopyWrites]
  generalize min source.length dest.maximumLength = bytes
  have halves := two_mul_half_le bytes
  have copied :=
    copyUnits_eqOn memory.units source.buffer dest.buffer (bytes / 2).toNat
  by_cases room : bytes.toNat + 2 ≤ dest.maximumLength.toNat
  · rw [if_pos room, if_pos room]
    have nul :=
      writeUnits_eqOn
        (copyUnits memory.units source.buffer dest.buffer (bytes / 2).toNat)
        (dest.buffer + 2 * (bytes / 2).toNat) [0]
    apply Set.EqOn.trans
    · apply Region.Within.eqOn_compl _ nul
      rw [Region.within_iff (Nat.succ_ne_zero 1)]
      exact ⟨Nat.le_add_right _ _, by dsimp only [List.length]; omega⟩
    · apply Region.Within.eqOn_compl _ copied
      rw [Region.within_same_start_iff]
      omega
  · rw [if_neg room, if_neg room]
    apply Region.Within.eqOn_compl _ copied
    rw [Region.within_same_start_iff]
    exact halves

section Clones

variable (source : WduUnicodeString) (blocks : CloneBlocks) (memory : Memory)

/-- Memory when `copy` calls `RtlCopyUnicodeString`. -/
def copyBuffers : Memory :=
  let memory :=
    if source.len = 0 then memory
    else
      { memory.allocate .rust (source.len.toNat * 2) blocks.vec with
        units :=
          writeUnits memory.units blocks.vec
            (List.replicate source.len.toNat 0) }
  memory.allocate .rust sizeOfVec blocks.box

/-- What `copy` passes to `RtlCopyUnicodeString` for the destination. -/
def copyDest : UnicodeString :=
  ⟨source.bytes, source.capacity, blocks.box⟩

theorem clone_eq :
    source.clone blocks.vec blocks.box memory =
      .ok
        (⟨⟨min source.string.length source.string.maximumLength,
            source.string.maximumLength, blocks.box⟩, some .rust⟩,
          (rtlCopyUnicodeString (source.copyDest blocks) source.string
            (source.copyBuffers blocks memory)).2) := by
  have granted :
      ¬ ((source.len ≠ 0 ∧ blocks.vec = nullPtr) ∨ blocks.box = nullPtr) := by
    simp [blocks.vec_ne, blocks.box_ne]
  rw [clone, copy, if_neg granted]
  rfl

/-- Until it calls `RtlCopyUnicodeString`, `copy` writes the zeros of its
vector. -/
theorem units_copyBuffers :
    Set.EqOn (source.copyBuffers blocks memory).units memory.units
      (source.copiedVec blocks).region.bytesᶜ := by
  rw [copyBuffers, units_allocate]
  split
  case isTrue empty => exact Set.eqOn_refl _ _
  case isFalse nonempty =>
      have zeros :=
        writeUnits_eqOn memory.units blocks.vec
          (List.replicate source.len.toNat 0)
      rw [List.length_replicate] at zeros
      exact zeros

/-- If the routine writes inside the vector's buffer, nothing else is
written. -/
theorem framed_of_copiesInside
    (inside :
      (rtlCopyWrites (source.copyDest blocks) source.string).Within
        (source.copiedVec blocks).region) :
    Set.EqOn
      (rtlCopyUnicodeString (source.copyDest blocks) source.string
        (source.copyBuffers blocks memory)).2.units
      memory.units
      ((source.copiedVec blocks).region.bytes ∪ (boxRegion blocks).bytes)ᶜ := by
  have copied :=
    inside.eqOn_compl
      (rtlCopy_eqOn (source.copyDest blocks) source.string
        (source.copyBuffers blocks memory))
  have framed := copied.trans (source.units_copyBuffers blocks memory)
  apply framed.mono
  exact Set.compl_subset_compl.mpr Set.subset_union_left

theorem blocks_copyBuffers :
    (source.copyBuffers blocks memory).blocks.released =
        memory.blocks.released ∧
      ∀ block ∈ memory.blocks.live,
        block ∈ (source.copyBuffers blocks memory).blocks.live := by
  unfold copyBuffers Memory.allocate
  simp only [if_neg blocks.vec_ne, if_neg blocks.box_ne]
  split
  case isTrue empty =>
      exact ⟨rfl, fun block live => List.mem_cons_of_mem _ live⟩
  case isFalse nonempty =>
      refine ⟨rfl, fun block live => ?_⟩
      exact List.mem_cons_of_mem _ (List.mem_cons_of_mem _ live)

/-- Only a string that advertises no byte is cloned faithfully. -/
theorem clone_faithful_iff (wellFormed : source.string.WellFormed) :
    (∃ string after,
        source.clone blocks.vec blocks.box memory = .ok (string, after) ∧
          source.FaithfulClone blocks memory string after) ↔
      source.string.maximumLength = 0 := by
  rw [clone_eq]
  constructor
  · rintro ⟨string, after, returned, faithful⟩
    cases returned
    by_contra advertised
    have begins := faithful.buffered.1
    have nonzero : source.string.maximumLength.toNat ≠ 0 := by
      intro zero
      exact advertised (UInt16.toNat_inj.mp zero)
    exact blocks.distinct (begins nonzero)
  · intro none
    have empty := wellFormed.length_eq_zero none
    have least : min (0 : UInt16) 0 = 0 := rfl
    have inside :
        (rtlCopyWrites (source.copyDest blocks) source.string).Within
          (source.copiedVec blocks).region := by
      apply Region.within_of_size_zero
      simp [rtlCopyWrites, copyDest, capacity, none, empty, least]
    refine ⟨_, _, rfl, ?_⟩
    constructor
    case sameUnits =>
      simp [asSlice, len, none, empty, least, readUnits]
    case buffered =>
      refine ⟨fun some => absurd ?_ some, ?_⟩
      · simp [none]
      · apply Region.within_of_size_zero
        simp [none]
    case copiesInside => exact inside
    case framed => exact source.framed_of_copiesInside blocks memory inside
    case keptBlocks => exact source.blocks_copyBuffers blocks memory

end Clones

def cloneBlocks : CloneBlocks where
  vec := 0x3000
  box := 0x4000
  vec_ne := by decide
  box_ne := by decide
  distinct := by decide

theorem default_clonesFaithfully :
    (∃ string after,
        WduUnicodeString.default.clone 0x3000 0x4000 filledMemory =
            .ok (string, after) ∧
          WduUnicodeString.default.FaithfulClone cloneBlocks filledMemory
            string after) ↔
      (0 : UInt16) = 0 :=
  clone_faithful_iff WduUnicodeString.default cloneBlocks filledMemory
    (by decide)

/-- A string of two units, with no spare capacity. -/
def twoUnits : WduUnicodeString :=
  ⟨⟨4, 4, 0x1000⟩, some .pool⟩

/-- The units of the clone are written over the vector in the box. -/
theorem twoUnits_overwriteBox :
    twoUnits.string.WellFormed ∧
      ∃ string after,
        twoUnits.clone 0x3000 0x4000 filledMemory = .ok (string, after) ∧
          string.string.buffer = (boxRegion cloneBlocks).start ∧
          ¬ twoUnits.FaithfulClone cloneBlocks filledMemory string after := by
  refine ⟨by decide, _, _, rfl, rfl, fun faithful => ?_⟩
  have begins := faithful.buffered.1
  exact absurd (begins (by decide)) (by decide)

end WduUnicodeString

end WinDrvUtils

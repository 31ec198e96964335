import WinDrvUtils.Strings.Bounds
import WinDrvUtils.Strings.Views

/-!
# The two implementations of `WduUnicodeString`

With the feature `unicode_as_vec`, a `WduUnicodeString` is a vector of units.
Its `new` makes the vector from the parts of the source, whose two lengths
count bytes, and the vector owns what it is made of: the source's buffer is
read to twice its length, and released with the string.

From a slice, that implementation copies all units, and the other one as many
as 16 bits can count the bytes of.
-/

namespace WinDrvUtils

namespace UnicodeAsVec

structure WduUnicodeString where
  buffer : Vec16
  deriving DecidableEq, Repr

namespace WduUnicodeString

/-- `Vec::from_raw_parts`, with lengths in bytes. -/
def new (string : UnicodeString) : WduUnicodeString :=
  ⟨⟨string.buffer, string.length.toNat, string.maximumLength.toNat⟩⟩

/-- `to_vec`, with a block if there is something to copy. -/
def fromSlice (slice : Slice) (vecAnswer : Address) (memory : Memory) :
    Except Panic (WduUnicodeString × Memory) :=
  if slice.len = 0 then .ok (⟨⟨vecAnswer, 0, 0⟩⟩, memory)
  else if vecAnswer = nullPtr then .error .allocError
  else
    .ok
      (⟨⟨vecAnswer, slice.len, slice.len⟩⟩,
        { memory.allocate .rust (slice.len * 2) vecAnswer with
          units :=
            copyUnits memory.units slice.pointer vecAnswer slice.len })

/-- `TryFrom<&[u16]>` -/
def tryFromSlice (value : Slice) (vecAnswer : Address) (memory : Memory) :
    Except Panic (WduUnicodeResult WduUnicodeString × Memory) :=
  match fromSlice value vecAnswer memory with
  | .error panic => .error panic
  | .ok (string, memory) => .ok (.ok string, memory)

def asSlice (string : WduUnicodeString) : Slice :=
  string.buffer.asSlice

theorem tryFromSlice_returned
    {value : Slice} {vecAnswer : Address} {memory after : Memory}
    {string : WduUnicodeString}
    (returned :
      tryFromSlice value vecAnswer memory = .ok (.ok string, after)) :
    string.asSlice.units after = value.units memory := by
  unfold tryFromSlice fromSlice at returned
  by_cases empty : value.len = 0
  · rw [if_pos empty] at returned
    cases returned
    rw [Slice.units, Slice.units, empty]
    rfl
  · rw [if_neg empty] at returned
    by_cases refused : vecAnswer = nullPtr
    · rw [if_pos refused] at returned
      cases returned
    · rw [if_neg refused] at returned
      cases returned
      exact readUnits_copyUnits _ _ _ (Nat.le_refl _)

theorem tryFromSlice_granted
    (value : Slice) {vecAnswer : Address} (memory : Memory)
    (granted : ¬ (value.len ≠ 0 ∧ vecAnswer = nullPtr)) :
    ∃ string after,
      tryFromSlice value vecAnswer memory = .ok (.ok string, after) := by
  unfold tryFromSlice fromSlice
  by_cases empty : value.len = 0
  · rw [if_pos empty]
    exact ⟨_, _, rfl⟩
  · have some : vecAnswer ≠ nullPtr := fun null => granted ⟨empty, null⟩
    rw [if_neg empty, if_neg some]
    exact ⟨_, _, rfl⟩

theorem tryFromSlice_refused
    (value : Slice) {vecAnswer : Address} (memory : Memory)
    (refused : value.len ≠ 0 ∧ vecAnswer = nullPtr) :
    tryFromSlice value vecAnswer memory = .error .allocError := by
  rw [tryFromSlice, fromSlice, if_neg refused.1, if_pos refused.2]

end WduUnicodeString

end UnicodeAsVec

/-! ## `new` -/

/-- A string that was made from a source: it has the units of the source, was
made by reading inside its buffer, and does not release that. -/
structure MadeFrom (source : UnicodeString) (memory : Memory)
    (units : List UInt16) (read : Region) (owned : List Block) : Prop where
  sameUnits : units = source.units memory
  readInside :
    read.Within ⟨source.buffer, source.maximumLength.toNat⟩
  leftToOwner : ∀ block ∈ owned, block.address ≠ source.buffer

/-- Both implementations of `new` keep to that. -/
structure NewAgrees (source : UnicodeString) (vecAnswer boxAnswer : Address)
    (memory : Memory) : Prop where
  plain :
    ∀ string after,
      WduUnicodeString.new source vecAnswer boxAnswer memory =
          .ok (string, after) →
        MadeFrom source memory (string.asSlice after)
          (WduUnicodeString.rtlCopyReads string.string source)
          string.ownedBlocks
  asVec :
    MadeFrom source memory
      ((UnicodeAsVec.WduUnicodeString.new source).asSlice.units memory)
      (UnicodeAsVec.WduUnicodeString.new source).asSlice.region
      (UnicodeAsVec.WduUnicodeString.new source).buffer.blocks

/-- The vector has as many units as the source has bytes. -/
theorem asVec_units_iff
    (source : UnicodeString) (wellFormed : source.WellFormed)
    (memory : Memory) :
    (UnicodeAsVec.WduUnicodeString.new source).asSlice.units memory =
        source.units memory ↔
      source.length = 0 := by
  have halves := two_mul_half_of_even wellFormed.evenLength
  constructor
  · intro same
    have lengths := congrArg List.length same
    rw [Slice.units, UnicodeString.units, length_readUnits,
      length_readUnits] at lengths
    have doubled : source.length.toNat = (source.length / 2).toNat := lengths
    apply UInt16.toNat_inj.mp
    rw [UInt16.toNat_zero]
    omega
  · intro empty
    rw [Slice.units, UnicodeString.units, empty]
    simp [UnicodeAsVec.WduUnicodeString.new, readUnits, empty,
      UnicodeAsVec.WduUnicodeString.asSlice, Vec16.asSlice]

/-- The vector owns the source's buffer unless that has no bytes. -/
theorem asVec_leftToOwner_iff (source : UnicodeString) :
    (∀ block ∈ (UnicodeAsVec.WduUnicodeString.new source).buffer.blocks,
        block.address ≠ source.buffer) ↔
      source.maximumLength = 0 := by
  rw [UnicodeAsVec.WduUnicodeString.new, Vec16.blocks]
  by_cases none : source.maximumLength = 0
  · have capacity : source.maximumLength.toNat = 0 := by
      rw [none]
      rfl
    rw [if_pos capacity]
    exact iff_of_true (List.forall_mem_nil _) none
  · have capacity : source.maximumLength.toNat ≠ 0 := by
      intro zero
      exact none (UInt16.toNat_inj.mp zero)
    rw [if_neg capacity, List.forall_mem_singleton]
    exact iff_of_false (fun other => other rfl) none

section Empty

variable {source : UnicodeString} (wellFormed : source.WellFormed)
    (none : source.maximumLength = 0) (memory : Memory)

include wellFormed none

/-- The copy of a source without bytes has no units, and a box of its own. -/
theorem copy_madeFrom
    {vecAnswer boxAnswer : Address} (fresh : boxAnswer ≠ source.buffer)
    {string : WduUnicodeString} {after : Memory}
    (returned :
      WduUnicodeString.new source vecAnswer boxAnswer memory =
        .ok (string, after)) :
    MadeFrom source memory (string.asSlice after)
      (WduUnicodeString.rtlCopyReads string.string source)
      string.ownedBlocks := by
  have empty := wellFormed.length_eq_zero none
  have least : min source.length source.maximumLength = 0 := by
    rw [none, empty]
    rfl
  obtain ⟨between, copied⟩ := WduUnicodeString.new_eq_ok returned
  obtain ⟨rfl, _⟩ := WduUnicodeString.copy_returned copied
  constructor
  case sameUnits =>
    have read :
        readUnits after.units boxAnswer
            ((min source.length source.maximumLength) / 2).toNat =
          source.units memory := by
      rw [least, UnicodeString.units, empty]
      rfl
    exact read
  case readInside =>
    apply Region.within_of_size_zero
    exact congrArg UInt16.toNat least
  case leftToOwner =>
    intro block member
    obtain rfl := List.mem_singleton.mp member
    exact fresh

theorem asVec_madeFrom :
    MadeFrom source memory
      ((UnicodeAsVec.WduUnicodeString.new source).asSlice.units memory)
      (UnicodeAsVec.WduUnicodeString.new source).asSlice.region
      (UnicodeAsVec.WduUnicodeString.new source).buffer.blocks := by
  have empty := wellFormed.length_eq_zero none
  constructor
  case sameUnits => exact (asVec_units_iff source wellFormed memory).mpr empty
  case readInside =>
    apply Region.within_of_size_zero
    simp [UnicodeAsVec.WduUnicodeString.new, Slice.region, empty,
      UnicodeAsVec.WduUnicodeString.asSlice, Vec16.asSlice]
  case leftToOwner => exact (asVec_leftToOwner_iff source).mpr none

end Empty

theorem newAgrees_iff
    (source : UnicodeString) (wellFormed : source.WellFormed)
    (vecAnswer boxAnswer : Address) (fresh : boxAnswer ≠ source.buffer)
    (memory : Memory) :
    NewAgrees source vecAnswer boxAnswer memory ↔
      source.maximumLength = 0 := by
  constructor
  · intro agrees
    exact (asVec_leftToOwner_iff source).mp agrees.asVec.leftToOwner
  · intro none
    constructor
    case plain =>
      intro string after returned
      exact copy_madeFrom wellFormed none memory fresh returned
    case asVec => exact asVec_madeFrom wellFormed none memory

/-! ## From slices -/

/-- Where both conversions succeed, the strings have equal units. -/
def TryFromAgrees (tryNonPaged : Bool) (value : Slice)
    (poolAnswer vecAnswer : Address) (memory : Memory) : Prop :=
  ∀ string after asVec afterVec,
    WduUnicodeString.tryFromSlice tryNonPaged value poolAnswer memory =
        .ok (.ok string, after) →
      UnicodeAsVec.WduUnicodeString.tryFromSlice value vecAnswer memory =
          .ok (.ok asVec, afterVec) →
        string.asSlice after = asVec.asSlice.units afterVec

theorem tryFromAgrees_iff
    (tryNonPaged : Bool) (value : Slice) (poolAnswer vecAnswer : Address)
    (memory : Memory) :
    TryFromAgrees tryNonPaged value poolAnswer vecAnswer memory ↔
      value.len < 0x8000 ∨ poolAnswer = nullPtr ∨
        (value.len ≠ 0 ∧ vecAnswer = nullPtr) := by
  by_cases refused : value.len ≠ 0 ∧ vecAnswer = nullPtr
  · refine iff_of_true ?_ (Or.inr (Or.inr refused))
    intro string after asVec afterVec _ returned
    rw [UnicodeAsVec.WduUnicodeString.tryFromSlice_refused _ _ refused]
      at returned
    cases returned
  by_cases null : poolAnswer = nullPtr
  · refine iff_of_true ?_ (Or.inr (Or.inl null))
    intro string after asVec afterVec returned _
    rw [WduUnicodeString.tryFromSlice,
      WduUnicodeString.create_eq _
        (WduUnicodeString.takesPool_poolType tryNonPaged),
      if_pos null] at returned
    cases returned
  have created :=
    WduUnicodeString.create_eq value
      (WduUnicodeString.takesPool_poolType tryNonPaged) poolAnswer memory
  rw [if_neg null] at created
  simp only [null, refused, or_false]
  rw [← WduUnicodeString.readUnits_eq_iff memory.units value.pointer]
  constructor
  · intro agrees
    obtain ⟨asVec, afterVec, copied⟩ :=
      UnicodeAsVec.WduUnicodeString.tryFromSlice_granted value memory refused
    have same := agrees _ _ asVec afterVec created copied
    rw [UnicodeAsVec.WduUnicodeString.tryFromSlice_returned copied,
      WduUnicodeString.asSlice_create value poolAnswer memory _ rfl] at same
    exact same
  · intro same string after asVec afterVec returned copied
    rw [UnicodeAsVec.WduUnicodeString.tryFromSlice_returned copied]
    have both := created.symm.trans returned
    cases both
    exact
      (WduUnicodeString.asSlice_create value poolAnswer memory _ rfl).trans
        same

/-! ## Agreement -/

/-- `new` agrees exactly on sources without a buffer, and `try_from` on slices
whose length in bytes has 16 bits, or for which a conversion fails. The box of
a copy is another block than the source's buffer. -/
theorem implementations_agree_iff
    (source : UnicodeString) (wellFormed : source.WellFormed)
    (vecAnswer boxAnswer : Address) (fresh : boxAnswer ≠ source.buffer)
    (tryNonPaged : Bool) (value : Slice) (poolAnswer sliceAnswer : Address)
    (memory : Memory) :
    (NewAgrees source vecAnswer boxAnswer memory ↔
        source.maximumLength = 0) ∧
      (TryFromAgrees tryNonPaged value poolAnswer sliceAnswer memory ↔
        value.len < 0x8000 ∨ poolAnswer = nullPtr ∨
          (value.len ≠ 0 ∧ sliceAnswer = nullPtr)) := by
  constructor
  · exact
      newAgrees_iff source wellFormed vecAnswer boxAnswer fresh memory
  · exact
      tryFromAgrees_iff tryNonPaged value poolAnswer sliceAnswer memory

theorem emptySource_agrees :
    (NewAgrees ⟨0, 0, nullPtr⟩ 0x3000 0x4000 filledMemory ↔
        (0 : UInt16) = 0) ∧
      (TryFromAgrees false ⟨0x1000, 2⟩ 0x2000 0x5000 filledMemory ↔
        2 < 0x8000 ∨ 0x2000 = nullPtr ∨ (2 ≠ 0 ∧ 0x5000 = nullPtr)) :=
  implementations_agree_iff ⟨0, 0, nullPtr⟩ (by decide) 0x3000 0x4000
    (by decide) false ⟨0x1000, 2⟩ 0x2000 0x5000 filledMemory

/-- One unit, and no spare capacity. -/
def oneUnitSource : UnicodeString := ⟨2, 2, 0x1000⟩

/-- The vector has two units, and releases the source's buffer. -/
theorem oneUnitSource_disagrees :
    oneUnitSource.WellFormed ∧
      oneUnitSource.units filledMemory = [0x41] ∧
      (UnicodeAsVec.WduUnicodeString.new oneUnitSource).asSlice.units
          filledMemory =
        [0x41, 0x41] ∧
      (UnicodeAsVec.WduUnicodeString.new oneUnitSource).buffer.blocks =
        [⟨oneUnitSource.buffer, .rust⟩] ∧
      ¬ NewAgrees oneUnitSource 0x3000 0x4000 filledMemory := by
  refine ⟨by decide, rfl, rfl, rfl, fun agrees => ?_⟩
  exact absurd agrees.asVec.sameUnits (by decide)

end WinDrvUtils

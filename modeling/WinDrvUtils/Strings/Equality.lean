import Mathlib.Data.List.TakeWhile
import WinDrvUtils.Strings.Bounds
import WinDrvUtils.Strings.Views

/-!
# Equality of strings

`==` is implemented for six pairs of types. Slices are compared as Rust
compares slices, which reads them only when their lengths are equal; a
`WduUnicodeString` is compared by the kernel. The implementation for a
`WduUnicodeStr` and a `UNICODE_STRING` makes a slice of as many units as
`Length` has bytes, so it is correct only where that slice is not read and the
units differ, or has no units.

`np_compare` is meant to answer what `compare` does, but it also compares
`MaximumLength`.
-/

namespace WinDrvUtils

/-- The answer of a comparison, and the bytes of its two sides that it may
read. -/
structure Comparison where
  equal : Bool
  leftRead : Region
  rightRead : Region

/-- `==` of two slices. -/
def Slice.eq (left right : Slice) (memory : Memory) : Comparison :=
  if left.len = right.len then
    ⟨left.units memory = right.units memory, left.region, right.region⟩
  else ⟨false, ⟨left.pointer, 0⟩, ⟨right.pointer, 0⟩⟩

theorem Slice.length_units (slice : Slice) (memory : Memory) :
    (slice.units memory).length = slice.len :=
  length_readUnits _ _ _

/-- Slices of different lengths have different units. -/
theorem Slice.eq_iff (left right : Slice) (memory : Memory) :
    (left.eq right memory).equal = true ↔
      left.units memory = right.units memory := by
  unfold Slice.eq
  by_cases same : left.len = right.len
  · rw [if_pos same]
    exact decide_eq_true_iff
  · rw [if_neg same]
    refine iff_of_false Bool.false_ne_true fun equal => same ?_
    have lengths := congrArg List.length equal
    rw [length_units, length_units] at lengths
    exact lengths

theorem Slice.reads_eq (left right : Slice) (memory : Memory) :
    (left.eq right memory).leftRead.Within left.region ∧
      (left.eq right memory).rightRead.Within right.region := by
  unfold Slice.eq
  by_cases same : left.len = right.len
  · rw [if_pos same]
    exact ⟨Set.Subset.rfl, Set.Subset.rfl⟩
  · rw [if_neg same]
    exact ⟨Region.within_of_size_zero rfl _, Region.within_of_size_zero rfl _⟩

/-! ## The implementations -/

namespace WduUnicodeString

/-- The slice of `as_slice`. -/
def slice (string : WduUnicodeString) : Slice :=
  ⟨string.string.buffer, string.len.toNat⟩

def compare (upcase : UInt16 → UInt16) (string other : WduUnicodeString)
    (caseInsensitive : Bool) (memory : Memory) : Bool :=
  rtlCompareUnicodeString upcase string.string other.string caseInsensitive
      memory =
    0

/-- `==` through `compare`, which reads the bytes that `Length` counts. -/
def eqString (upcase : UInt16 → UInt16) (string other : WduUnicodeString)
    (memory : Memory) : Comparison :=
  ⟨string.compare upcase other false memory, string.string.contents,
    other.string.contents⟩

def eqUnicodeString (upcase : UInt16 → UInt16) (string : WduUnicodeString)
    (other : UnicodeString) (memory : Memory) : Comparison :=
  string.eqString upcase (wrap (some other)) memory

def eqStr (string : WduUnicodeString) (other : WduUnicodeStr)
    (memory : Memory) : Comparison :=
  string.slice.eq other.slice memory

theorem compare_iff
    (upcase : UInt16 → UInt16) (string other : WduUnicodeString)
    (memory : Memory) :
    string.compare upcase other false memory = true ↔
      string.asSlice memory = other.asSlice memory := by
  rw [compare, decide_eq_true_iff, rtlCompare_eq_zero_iff]
  rfl

end WduUnicodeString

namespace WduUnicodeStr

/-- The derived `==`. -/
def eqStr (str other : WduUnicodeStr) (memory : Memory) : Comparison :=
  str.slice.eq other.slice memory

def eqString (str : WduUnicodeStr) (other : WduUnicodeString)
    (memory : Memory) : Comparison :=
  str.slice.eq other.slice memory

/-- `Length` bytes are taken for `Length` units. -/
def eqUnicodeString (str : WduUnicodeStr) (other : UnicodeString)
    (memory : Memory) : Comparison :=
  str.slice.eq ⟨other.buffer, other.length.toNat⟩ memory

end WduUnicodeStr

/-- What can stand at a side of `==`. -/
inductive Operand where
  | str (value : WduUnicodeStr)
  | string (value : WduUnicodeString)
  | unicodeString (value : UnicodeString)
  deriving DecidableEq, Repr

namespace Operand

/-- The bytes that the length of a side counts. -/
def contents : Operand → Region
  | str value => value.slice.region
  | string value => value.string.contents
  | unicodeString value => value.contents

/-- The side holds these units. -/
def Holds (operand : Operand) (memory : Memory) (units : List UInt16) :
    Prop :=
  match operand with
  | str value => value.units memory = units
  | string value =>
      value.string.WellFormed ∧ value.asSlice memory = units
  | unicodeString value => value.WellFormed ∧ value.units memory = units

/-- `==`, where there is an implementation. -/
def partialEq (upcase : UInt16 → UInt16) (memory : Memory) :
    Operand → Operand → Option Comparison
  | str left, str right => some (left.eqStr right memory)
  | str left, string right => some (left.eqString right memory)
  | str left, unicodeString right => some (left.eqUnicodeString right memory)
  | string left, str right => some (left.eqStr right memory)
  | string left, string right => some (left.eqString upcase right memory)
  | string left, unicodeString right =>
      some (left.eqUnicodeString upcase right memory)
  | unicodeString _, _ => none

/-- A comparison of `left` and `right`, which hold the units `first` and
`second`, answers right and reads no unit behind either length. -/
structure Correct (left right : Operand) (first second : List UInt16)
    (comparison : Comparison) : Prop where
  answer : comparison.equal = true ↔ first = second
  leftInside : comparison.leftRead.Within left.contents
  rightInside : comparison.rightRead.Within right.contents

/-- The implementation with the wrong length is not asked, or compares nothing
with nothing, or different units of which one side does not have twice as many
as the other. -/
def Spared (left right : Operand) (first second : List UInt16) : Prop :=
  match left, right with
  | str _, unicodeString _ =>
      (first = [] ∧ second = []) ∨
        (first ≠ second ∧ first.length ≠ 2 * second.length)
  | _, _ => True

theorem slice_within_contents (string : WduUnicodeString) :
    string.slice.region.Within string.string.contents := by
  apply (Region.within_same_start_iff _ _ _).mpr
  exact two_mul_half_le string.string.length

/-- A comparison as slices is correct if the slices have the units of the two
sides and stay inside their lengths. -/
theorem correct_slices
    {left right : Operand} (leftSlice rightSlice : Slice)
    (memory : Memory)
    (leftInside : leftSlice.region.Within left.contents)
    (rightInside : rightSlice.region.Within right.contents) :
    Correct left right (leftSlice.units memory) (rightSlice.units memory)
      (leftSlice.eq rightSlice memory) := by
  have reads := leftSlice.reads_eq rightSlice memory
  constructor
  case answer => exact leftSlice.eq_iff rightSlice memory
  case leftInside => exact reads.1.trans leftInside
  case rightInside => exact reads.2.trans rightInside

/-- The kernel's comparison reads what the lengths count. -/
theorem correct_compare
    (upcase : UInt16 → UInt16) {left right : Operand}
    (leftString rightString : WduUnicodeString) (memory : Memory)
    (leftContents : left.contents = leftString.string.contents)
    (rightContents : right.contents = rightString.string.contents) :
    Correct left right (leftString.asSlice memory)
      (rightString.asSlice memory)
      (leftString.eqString upcase rightString memory) := by
  constructor
  case answer => exact leftString.compare_iff upcase rightString memory
  case leftInside => exact leftContents ▸ Set.Subset.rfl
  case rightInside => exact rightContents ▸ Set.Subset.rfl

section WrongLength

variable (left : WduUnicodeStr) {right : UnicodeString} (memory : Memory)

/-- The slices have equal lengths if one side has twice as many units as the
other. -/
theorem len_eq_length_iff (wellFormed : right.WellFormed) :
    left.slice.len = right.length.toNat ↔
      (left.units memory).length = 2 * (right.units memory).length := by
  have halves := two_mul_half_of_even wellFormed.evenLength
  rw [WduUnicodeStr.units, Slice.length_units, UnicodeString.units,
    length_readUnits, halves]

/-- A slice that is read has more bytes than `Length`, unless that is zero. -/
theorem correct_iff_of_read (wellFormed : right.WellFormed)
    (read : left.slice.len = right.length.toNat) :
    Correct (str left) (unicodeString right) (left.units memory)
        (right.units memory) (left.eqUnicodeString right memory) ↔
      left.units memory = [] ∧ right.units memory = [] := by
  have lengths := (len_eq_length_iff left memory wellFormed).mp read
  have leftLength : (left.units memory).length = left.slice.len :=
    left.slice.length_units memory
  have compared :
      left.eqUnicodeString right memory =
        ⟨left.units memory =
            Slice.units ⟨right.buffer, right.length.toNat⟩ memory,
          left.slice.region,
          Slice.region ⟨right.buffer, right.length.toNat⟩⟩ :=
    if_pos read
  rw [compared]
  constructor
  · intro correct
    have bound : 2 * right.length.toNat ≤ right.length.toNat :=
      (Region.within_same_start_iff _ _ _).mp correct.rightInside
    rw [← List.length_eq_zero_iff, ← List.length_eq_zero_iff]
    omega
  · rintro ⟨leftEmpty, rightEmpty⟩
    have none : right.length.toNat = 0 := by
      rw [leftEmpty, List.length_nil] at leftLength
      rw [← read, leftLength]
    constructor
    case answer =>
      rw [decide_eq_true_iff, leftEmpty, rightEmpty, none]
      exact iff_of_true rfl rfl
    case leftInside => exact Set.Subset.rfl
    case rightInside =>
      apply Region.within_of_size_zero
      rw [none]
      rfl

/-- Slices that are not read are said to differ. -/
theorem correct_iff_of_unread (unread : left.slice.len ≠ right.length.toNat) :
    Correct (str left) (unicodeString right) (left.units memory)
        (right.units memory) (left.eqUnicodeString right memory) ↔
      left.units memory ≠ right.units memory := by
  have compared :
      left.eqUnicodeString right memory =
        ⟨false, ⟨left.slice.pointer, 0⟩, ⟨right.buffer, 0⟩⟩ :=
    if_neg unread
  rw [compared]
  constructor
  · intro correct equal
    exact Bool.false_ne_true (correct.answer.mpr equal)
  · intro different
    constructor
    case answer => exact iff_of_false Bool.false_ne_true different
    case leftInside => exact Region.within_of_size_zero rfl _
    case rightInside => exact Region.within_of_size_zero rfl _

theorem correct_eqUnicodeString_iff (wellFormed : right.WellFormed) :
    Correct (str left) (unicodeString right) (left.units memory)
        (right.units memory) (left.eqUnicodeString right memory) ↔
      Spared (str left) (unicodeString right) (left.units memory)
        (right.units memory) := by
  have lengths := len_eq_length_iff left memory wellFormed
  by_cases read : left.slice.len = right.length.toNat
  · rw [correct_iff_of_read left memory wellFormed read]
    constructor
    · intro empty
      exact Or.inl empty
    · rintro (empty | ⟨_, different⟩)
      · exact empty
      · exact absurd (lengths.mp read) different
  · rw [correct_iff_of_unread left memory read]
    constructor
    · intro different
      exact Or.inr ⟨different, mt lengths.mpr read⟩
    · rintro (⟨leftEmpty, rightEmpty⟩ | ⟨different, _⟩)
      · rw [leftEmpty, rightEmpty] at lengths
        exact absurd (lengths.mpr rfl) read
      · exact different

end WrongLength

/-- One implementation after the other. -/
theorem partialEq_correct_iff
    (upcase : UInt16 → UInt16) (memory : Memory) (left right : Operand)
    (first second : List UInt16) (leftHolds : left.Holds memory first)
    (rightHolds : right.Holds memory second) (comparison : Comparison)
    (compared : partialEq upcase memory left right = some comparison) :
    Correct left right first second comparison ↔
      Spared left right first second := by
  cases left with
  | str leftStr =>
      obtain rfl := leftHolds
      cases right with
      | str rightStr =>
          cases compared
          obtain rfl := rightHolds
          have correct :=
            @correct_slices (str leftStr) (str rightStr) leftStr.slice
              rightStr.slice memory Set.Subset.rfl Set.Subset.rfl
          exact iff_of_true correct trivial
      | string rightString =>
          cases compared
          obtain ⟨_, rfl⟩ := rightHolds
          have correct :=
            @correct_slices (str leftStr) (string rightString) leftStr.slice
              rightString.slice memory Set.Subset.rfl
              (slice_within_contents rightString)
          exact iff_of_true correct trivial
      | unicodeString native =>
          cases compared
          obtain ⟨wellFormed, rfl⟩ := rightHolds
          exact correct_eqUnicodeString_iff leftStr memory wellFormed
  | string leftString =>
      obtain ⟨_, rfl⟩ := leftHolds
      cases right with
      | str rightStr =>
          cases compared
          obtain rfl := rightHolds
          have correct :=
            @correct_slices (string leftString) (str rightStr)
              leftString.slice rightStr.slice memory
              (slice_within_contents leftString) Set.Subset.rfl
          exact iff_of_true correct trivial
      | string rightString =>
          cases compared
          obtain ⟨_, rfl⟩ := rightHolds
          have correct :=
            @correct_compare upcase (string leftString) (string rightString)
              leftString rightString memory rfl rfl
          exact iff_of_true correct trivial
      | unicodeString native =>
          cases compared
          obtain ⟨_, rfl⟩ := rightHolds
          have correct :=
            @correct_compare upcase (string leftString)
              (unicodeString native) leftString
              (WduUnicodeString.wrap (some native)) memory rfl rfl
          exact iff_of_true correct trivial
  | unicodeString native => cases compared

/-- Comparisons that are correct are symmetric. -/
theorem Correct.equal_comm
    {left right : Operand} {first second : List UInt16}
    {forward backward : Comparison}
    (correctForward : Correct left right first second forward)
    (correctBackward : Correct right left second first backward) :
    forward.equal = backward.equal := by
  apply Bool.eq_iff_iff.mpr
  rw [correctForward.answer, correctBackward.answer]
  exact eq_comm

/-- Comparisons that are correct are transitive. -/
theorem Correct.equal_trans
    {left middle right : Operand} {first second third : List UInt16}
    {early late whole : Comparison}
    (correctEarly : Correct left middle first second early)
    (correctLate : Correct middle right second third late)
    (correctWhole : Correct left right first third whole)
    (earlyEqual : early.equal = true) (lateEqual : late.equal = true) :
    whole.equal = true := by
  have firstEqual := correctEarly.answer.mp earlyEqual
  have secondEqual := correctLate.answer.mp lateEqual
  exact correctWhole.answer.mpr (firstEqual.trans secondEqual)

/-- A slice that is not empty differs from itself as a `UNICODE_STRING`: it
has half as many units as bytes. -/
theorem eq_asUnicodeString_iff
    (str : WduUnicodeStr) (short : str.slice.len < 0x8000)
    (memory : Memory) :
    (str.eqUnicodeString str.asUnicodeString memory).equal = true ↔
      str.isEmpty = true := by
  have length : str.asUnicodeString.length.toNat = 2 * str.slice.len := by
    have bytes := WduUnicodeString.toNat_toUnicodeLen str.slice.len
    rw [Nat.mod_eq_of_lt short] at bytes
    exact bytes
  rw [WduUnicodeStr.isEmpty, decide_eq_true_iff,
    WduUnicodeStr.eqUnicodeString, Slice.eq_iff]
  constructor
  · intro equal
    have lengths := congrArg List.length equal
    rw [Slice.length_units, Slice.length_units, length] at lengths
    have doubled : str.slice.len = 2 * str.slice.len := lengths
    omega
  · intro empty
    rw [length, Slice.units, Slice.units, empty]
    rfl

/-- A side that `==` is implemented for is not a `UNICODE_STRING`. -/
theorem spared_of_left
    {upcase : UInt16 → UInt16} {memory : Memory} {left right other : Operand}
    {first second : List UInt16} {comparison : Comparison}
    (compared : partialEq upcase memory right other = some comparison) :
    Spared left right first second := by
  cases right with
  | str value => cases left <;> trivial
  | string value => cases left <;> trivial
  | unicodeString value => cases compared

section Relations

variable {upcase : UInt16 → UInt16} {memory : Memory}
    {left middle right : Operand} {first second third : List UInt16}

/-- Where `==` is implemented both ways, it is symmetric. -/
theorem partialEq_comm
    (leftHolds : left.Holds memory first)
    (rightHolds : right.Holds memory second) {forward backward : Comparison}
    (compared : partialEq upcase memory left right = some forward)
    (comparedBack : partialEq upcase memory right left = some backward) :
    forward.equal = backward.equal := by
  have correct :=
    (partialEq_correct_iff upcase memory left right first second leftHolds
      rightHolds forward compared).mpr (spared_of_left comparedBack)
  have correctBack :=
    (partialEq_correct_iff upcase memory right left second first rightHolds
      leftHolds backward comparedBack).mpr (spared_of_left compared)
  exact correct.equal_comm correctBack

/-- Where the wrong length does no harm, `==` is transitive. -/
theorem partialEq_trans
    (leftHolds : left.Holds memory first)
    (middleHolds : middle.Holds memory second)
    (rightHolds : right.Holds memory third)
    {early late whole : Comparison}
    (comparedEarly : partialEq upcase memory left middle = some early)
    (comparedLate : partialEq upcase memory middle right = some late)
    (comparedWhole : partialEq upcase memory left right = some whole)
    (sparedLate : Spared middle right second third)
    (sparedWhole : Spared left right first third)
    (earlyEqual : early.equal = true) (lateEqual : late.equal = true) :
    whole.equal = true := by
  have correctEarly :=
    (partialEq_correct_iff upcase memory left middle first second leftHolds
      middleHolds early comparedEarly).mpr (spared_of_left comparedLate)
  have correctLate :=
    (partialEq_correct_iff upcase memory middle right second third
      middleHolds rightHolds late comparedLate).mpr sparedLate
  have correctWhole :=
    (partialEq_correct_iff upcase memory left right first third leftHolds
      rightHolds whole comparedWhole).mpr sparedWhole
  exact
    correctEarly.equal_trans correctLate correctWhole earlyEqual lateEqual

end Relations

/-- Every implementation is correct exactly where the wrong length does no
harm, which for a slice and its own `UNICODE_STRING` is where it is empty.
There `==` is symmetric and transitive. -/
theorem equality_correct_iff
    (upcase : UInt16 → UInt16) (memory : Memory) :
    (∀ left right first second comparison,
        left.Holds memory first → right.Holds memory second →
          partialEq upcase memory left right = some comparison →
            (Correct left right first second comparison ↔
              Spared left right first second)) ∧
      (∀ str : WduUnicodeStr, str.slice.len < 0x8000 →
        ((str.eqUnicodeString str.asUnicodeString memory).equal = true ↔
          str.isEmpty = true)) ∧
      (∀ left right first second forward backward,
        left.Holds memory first → right.Holds memory second →
          partialEq upcase memory left right = some forward →
            partialEq upcase memory right left = some backward →
              forward.equal = backward.equal) ∧
      ∀ left middle right first second third early late whole,
        left.Holds memory first → middle.Holds memory second →
          right.Holds memory third →
            partialEq upcase memory left middle = some early →
              partialEq upcase memory middle right = some late →
                partialEq upcase memory left right = some whole →
                  Spared middle right second third →
                    Spared left right first third →
                      early.equal = true → late.equal = true →
                        whole.equal = true := by
  refine ⟨?_, ?_, ?_, ?_⟩
  · intro left right first second comparison leftHolds rightHolds compared
    exact
      partialEq_correct_iff upcase memory left right first second leftHolds
        rightHolds comparison compared
  · intro str short
    exact eq_asUnicodeString_iff str short memory
  · intro left right first second forward backward leftHolds rightHolds
      compared comparedBack
    exact partialEq_comm leftHolds rightHolds compared comparedBack
  · intro left middle right first second third early late whole leftHolds
      middleHolds rightHolds comparedEarly comparedLate comparedWhole
      sparedLate sparedWhole earlyEqual lateEqual
    exact
      partialEq_trans leftHolds middleHolds rightHolds comparedEarly
        comparedLate comparedWhole sparedLate sparedWhole earlyEqual
        lateEqual

def oneUnit : WduUnicodeStr := ⟨⟨0x1000, 1⟩⟩

theorem oneUnit_equalsItself :
    Correct (str oneUnit) (str oneUnit) [0x41] [0x41]
        (oneUnit.eqStr oneUnit filledMemory) ↔
      True :=
  (equality_correct_iff id filledMemory).1 (str oneUnit) (str oneUnit)
    [0x41] [0x41] _ rfl rfl rfl

/-- Both sides hold the same unit, in the same place. -/
theorem oneUnit_differsFromItsUnicodeString :
    (str oneUnit).Holds filledMemory [0x41] ∧
      (unicodeString oneUnit.asUnicodeString).Holds filledMemory [0x41] ∧
      ∃ comparison,
        partialEq id filledMemory (str oneUnit)
            (unicodeString oneUnit.asUnicodeString) =
          some comparison ∧
          comparison.equal = false := by
  refine ⟨rfl, ⟨by decide, rfl⟩, _, rfl, rfl⟩

end Operand

/-! ## `np_compare` -/

/-- The byte at an offset; the units are little-endian. -/
def byteAt (units : Address → UInt16) (buffer : Address) (offset : Nat) :
    UInt8 :=
  if offset % 2 = 0 then (units (buffer + offset)).toUInt8
  else (units (buffer + (offset - 1)) >>> 8).toUInt8

/-- How many bytes are equal before the first that differ. -/
def rtlCompareMemory (units : Address → UInt16) (first second : Address)
    (length : Nat) : Nat :=
  ((List.range length).takeWhile fun offset =>
    byteAt units first offset = byteAt units second offset).length

def WduUnicodeString.npCompare (string other : WduUnicodeString)
    (memory : Memory) : Bool :=
  if string.string.length ≠ other.string.length ∨
      string.string.maximumLength ≠ other.string.maximumLength then
    false
  else
    rtlCompareMemory memory.units string.string.buffer other.string.buffer
        string.string.length.toNat =
      string.string.length.toNat

theorem rtlCompareMemory_eq_iff
    (units : Address → UInt16) (first second : Address) (length : Nat) :
    rtlCompareMemory units first second length = length ↔
      ∀ offset < length,
        byteAt units first offset = byteAt units second offset := by
  have isPrefix :=
    List.takeWhile_prefix (l := List.range length) fun offset =>
      decide (byteAt units first offset = byteAt units second offset)
  constructor
  · intro complete offset inside
    have whole :=
      isPrefix.eq_of_length (complete.trans List.length_range.symm)
    have all := List.takeWhile_eq_self_iff.mp whole
    have same := all offset (List.mem_range.mpr inside)
    exact of_decide_eq_true same
  · intro same
    have whole :
        ((List.range length).takeWhile fun offset =>
          decide (byteAt units first offset = byteAt units second offset)) =
          List.range length := by
      apply List.takeWhile_eq_self_iff.mpr
      intro offset member
      exact decide_eq_true (same offset (List.mem_range.mp member))
    rw [rtlCompareMemory, whole, List.length_range]

/-- A unit is its two bytes. -/
theorem unit_eq_of_bytes_eq
    {first second : UInt16} (low : first.toUInt8 = second.toUInt8)
    (high : (first >>> 8).toUInt8 = (second >>> 8).toUInt8) :
    first = second := by
  have lowNat := congrArg UInt8.toNat low
  have highNat := congrArg UInt8.toNat high
  have firstSmall := first.toNat_lt
  have secondSmall := second.toNat_lt
  apply UInt16.toNat_inj.mp
  simp only [UInt16.toNat_toUInt8, UInt16.toNat_shiftRight,
    UInt16.reduceToNat, Nat.shiftRight_eq_div_pow, Nat.reduceMod,
    Nat.reducePow] at lowNat highNat
  omega

/-- All bytes are equal exactly when all units are. -/
theorem bytes_eq_iff_units_eq
    (units : Address → UInt16) (first second : Address) (count : Nat) :
    (∀ offset < 2 * count,
        byteAt units first offset = byteAt units second offset) ↔
      readUnits units first count = readUnits units second count := by
  unfold readUnits
  rw [List.map_inj_left]
  constructor
  · intro same (index : Nat) member
    have inside := List.mem_range.mp member
    have lowInside : 2 * index < 2 * count := by omega
    have highInside : 2 * index + 1 < 2 * count := by omega
    have low := same (2 * index) lowInside
    have high := same (2 * index + 1) highInside
    have even : 2 * index % 2 = 0 := by omega
    have odd : (2 * index + 1) % 2 ≠ 0 := by omega
    rw [byteAt, byteAt, if_pos even, if_pos even] at low
    rw [byteAt, byteAt, if_neg odd, if_neg odd, Nat.add_sub_cancel] at high
    exact unit_eq_of_bytes_eq low high
  · intro same offset inside
    have unit := same (offset / 2) (List.mem_range.mpr (by omega))
    by_cases even : offset % 2 = 0
    · have placed : 2 * (offset / 2) = offset := by omega
      rw [placed] at unit
      rw [byteAt, byteAt, if_pos even, if_pos even, unit]
    · have placed : 2 * (offset / 2) = offset - 1 := by omega
      rw [placed] at unit
      rw [byteAt, byteAt, if_neg even, if_neg even, unit]

namespace WduUnicodeString

/-- Strings of equal lengths are told apart by their units. -/
theorem npCompare_iff
    (string other : WduUnicodeString) (memory : Memory)
    (wellFormed : string.string.WellFormed)
    (otherWellFormed : other.string.WellFormed)
    (sameMaximum :
      string.string.maximumLength = other.string.maximumLength) :
    string.npCompare other memory = true ↔
      string.asSlice memory = other.asSlice memory := by
  unfold npCompare
  by_cases same : string.string.length = other.string.length
  · have compared :
        ¬ (string.string.length ≠ other.string.length ∨
          string.string.maximumLength ≠ other.string.maximumLength) := by
      simp [same, sameMaximum]
    have halves := two_mul_half_of_even wellFormed.evenLength
    rw [if_neg compared, decide_eq_true_iff, rtlCompareMemory_eq_iff,
      ← halves, bytes_eq_iff_units_eq, asSlice, asSlice, len, len, same]
  · rw [if_pos (Or.inl same)]
    refine iff_of_false Bool.false_ne_true fun equal => same ?_
    have lengths := congrArg List.length equal
    rw [asSlice, asSlice, length_readUnits, length_readUnits] at lengths
    exact
      eq_of_half_eq wellFormed.evenLength otherWellFormed.evenLength lengths

theorem npCompare_of_ne_maximum
    {string other : WduUnicodeString} (memory : Memory)
    (different :
      string.string.maximumLength ≠ other.string.maximumLength) :
    string.npCompare other memory = false :=
  if_pos (Or.inr different)

/-- The two comparisons agree, and both tell whether the units are equal,
exactly when the maxima are equal or the units differ. -/
theorem npCompare_agrees_iff
    (upcase : UInt16 → UInt16) (string other : WduUnicodeString)
    (wellFormed : string.string.WellFormed)
    (otherWellFormed : other.string.WellFormed) (memory : Memory) :
    (string.npCompare other memory =
          string.compare upcase other false memory ∧
        (string.npCompare other memory = true ↔
          string.asSlice memory = other.asSlice memory) ∧
        (string.compare upcase other false memory = true ↔
          string.asSlice memory = other.asSlice memory)) ↔
      string.string.maximumLength = other.string.maximumLength ∨
        string.asSlice memory ≠ other.asSlice memory := by
  have plain := string.compare_iff upcase other memory
  constructor
  · rintro ⟨_, fast, _⟩
    by_contra neither
    rw [not_or, not_not] at neither
    obtain ⟨different, equal⟩ := neither
    have refused := npCompare_of_ne_maximum memory different
    exact Bool.false_ne_true (refused.symm.trans (fast.mpr equal))
  · intro condition
    have fast :
        string.npCompare other memory = true ↔
          string.asSlice memory = other.asSlice memory := by
      rcases condition with sameMaximum | different
      · exact
          string.npCompare_iff other memory wellFormed otherWellFormed
            sameMaximum
      · by_cases sameMaximum :
          string.string.maximumLength = other.string.maximumLength
        · exact
            string.npCompare_iff other memory wellFormed otherWellFormed
              sameMaximum
        · rw [npCompare_of_ne_maximum memory sameMaximum]
          exact iff_of_false Bool.false_ne_true different
    refine ⟨?_, fast, plain⟩
    apply Bool.eq_iff_iff.mpr
    rw [fast, plain]

theorem twoUnits_npCompare :
    (twoUnits.npCompare twoUnits filledMemory =
          twoUnits.compare id twoUnits false filledMemory ∧
        (twoUnits.npCompare twoUnits filledMemory = true ↔
          twoUnits.asSlice filledMemory = twoUnits.asSlice filledMemory) ∧
        (twoUnits.compare id twoUnits false filledMemory = true ↔
          twoUnits.asSlice filledMemory = twoUnits.asSlice filledMemory)) ↔
      twoUnits.string.maximumLength = twoUnits.string.maximumLength ∨
        twoUnits.asSlice filledMemory ≠ twoUnits.asSlice filledMemory :=
  npCompare_agrees_iff id twoUnits twoUnits (by decide) (by decide)
    filledMemory

/-- The units of `twoUnits`, with room for a nul. -/
def roomyUnits : WduUnicodeString :=
  ⟨⟨4, 6, 0x2000⟩, some .os⟩

theorem roomyUnits_npCompare :
    twoUnits.string.WellFormed ∧ roomyUnits.string.WellFormed ∧
      twoUnits.asSlice filledMemory = roomyUnits.asSlice filledMemory ∧
      twoUnits.compare id roomyUnits false filledMemory = true ∧
      twoUnits.npCompare roomyUnits filledMemory = false := by
  exact ⟨by decide, by decide, rfl, rfl, rfl⟩

end WduUnicodeString

end WinDrvUtils

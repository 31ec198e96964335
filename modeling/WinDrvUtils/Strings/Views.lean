import WinDrvUtils.Library.Region
import WinDrvUtils.Strings.Validity

/-!
# Views of a `UNICODE_STRING`

A `UNICODE_STRING` of the kernel is looked at in two ways. `wrap` keeps the
structure, and its units are those that `Length` counts. `from_ptr` makes a
slice, and takes its length from `MaximumLength`: the slice has the units of
the string only if there is no spare capacity. The names that callbacks are
given are slices.
-/

namespace WinDrvUtils

namespace UnicodeString

/-- The units that `Length` counts. -/
def units (string : UnicodeString) (memory : Memory) : List UInt16 :=
  readUnits memory.units string.buffer (string.length / 2).toNat

/-- The bytes that `Length` counts. -/
def contents (string : UnicodeString) : Region :=
  ⟨string.buffer, string.length.toNat⟩

end UnicodeString

/-! ## Comparison by the kernel -/

/-- The difference of the first units that differ, or else of the lengths in
bytes. -/
def compareUnits : List UInt16 → List UInt16 → Int
  | [], second => -(2 * second.length)
  | first, [] => 2 * first.length
  | firstUnit :: first, secondUnit :: second =>
      if firstUnit = secondUnit then compareUnits first second
      else firstUnit.toNat - secondUnit.toNat

theorem compareUnits_eq_zero_iff (first second : List UInt16) :
    compareUnits first second = 0 ↔ first = second := by
  induction first generalizing second with
  | nil =>
      cases second with
      | nil => exact iff_of_true rfl rfl
      | cons secondUnit second =>
          simp only [compareUnits, List.length_cons, reduceCtorEq, iff_false]
          omega
  | cons firstUnit first inductionHypothesis =>
      cases second with
      | nil =>
          simp only [compareUnits, List.length_cons, reduceCtorEq, iff_false]
          omega
      | cons secondUnit second =>
          rw [compareUnits, List.cons.injEq]
          by_cases same : firstUnit = secondUnit
          · rw [if_pos same, inductionHypothesis]
            exact (and_iff_right same).symm
          · have different : firstUnit.toNat ≠ secondUnit.toNat := by
              intro equal
              exact same (UInt16.toNat_inj.mp equal)
            rw [if_neg same]
            refine iff_of_false ?_ fun both => same both.1
            omega

/-- `upcase` is the kernel's table, which is used to ignore case. -/
def rtlCompareUnicodeString (upcase : UInt16 → UInt16)
    (first second : UnicodeString) (caseInsensitive : Bool)
    (memory : Memory) : Int :=
  let fold := if caseInsensitive then upcase else id
  compareUnits ((first.units memory).map fold) ((second.units memory).map fold)

theorem rtlCompare_eq_zero_iff
    (upcase : UInt16 → UInt16) (first second : UnicodeString)
    (memory : Memory) :
    rtlCompareUnicodeString upcase first second false memory = 0 ↔
      first.units memory = second.units memory := by
  rw [rtlCompareUnicodeString, compareUnits_eq_zero_iff]
  simp

/-! ## `WduUnicodeStr` -/

namespace WduUnicodeStr

/-- An empty slice. Its address is not null, and nothing is read there. -/
def default : WduUnicodeStr :=
  ⟨⟨2, 0⟩⟩

/-- The source may be null. The length is that of the whole buffer. A null
buffer, which `from_raw_parts` does not allow, is read like any other
address. -/
def fromPtr (source : Option UnicodeString) : WduUnicodeStr :=
  match source with
  | none => default
  | some source => ⟨⟨source.buffer, (source.maximumLength / 2).toNat⟩⟩

def toUnicodeLen (len : Nat) : UInt16 :=
  UInt16.ofNat (len * 2)

def asUnicodeString (str : WduUnicodeStr) : UnicodeString :=
  ⟨toUnicodeLen str.slice.len, toUnicodeLen str.slice.len, str.slice.pointer⟩

def isEmpty (str : WduUnicodeStr) : Bool :=
  str.slice.len = 0

def units (str : WduUnicodeStr) (memory : Memory) : List UInt16 :=
  str.slice.units memory

theorem units_asUnicodeString
    {str : WduUnicodeStr} (short : str.slice.len < 0x8000)
    (memory : Memory) :
    str.asUnicodeString.units memory = str.units memory := by
  have half := WduUnicodeString.toUnicodeLen_half str.slice.len
  rw [Nat.mod_eq_of_lt short] at half
  rw [units, Slice.units, ← half]
  rfl

end WduUnicodeStr

/-! ## Names in callbacks -/

/-- The strings of a `PS_CREATE_NOTIFY_INFO`; each may be null. -/
structure PsCreateNotifyInfo where
  commandLine : Option UnicodeString
  imageFileName : Option UnicodeString
  deriving DecidableEq, Repr

namespace WduPsCreateNotifyInfo

def cmdline (info : PsCreateNotifyInfo) : WduUnicodeStr :=
  WduUnicodeStr.fromPtr info.commandLine

def imageFilename (info : PsCreateNotifyInfo) : WduUnicodeStr :=
  WduUnicodeStr.fromPtr info.imageFileName

end WduPsCreateNotifyInfo

/-- `file_name` of a file object with this `FileName`. -/
def WduFileObject.fileName (fileName : UnicodeString) : WduUnicodeStr :=
  WduUnicodeStr.fromPtr (some fileName)

/-! ## Agreement -/

/-- The view has the same units in each memory that has the same contents of
the string. -/
def WduUnicodeStr.Ignores (view : WduUnicodeStr) (string : UnicodeString)
    (memory : Memory) : Prop :=
  ∀ other : Memory,
    Set.EqOn other.units memory.units string.contents.bytes →
      view.units other = view.units memory

namespace UnicodeString

/-- All views of a string in memory are of its units. -/
structure ViewsAgree (upcase : UInt16 → UInt16) (string : UnicodeString)
    (memory : Memory) : Prop where
  borrowed :
    (WduUnicodeStr.fromPtr (some string)).units memory = string.units memory
  wrapped :
    (WduUnicodeString.wrap (some string)).asSlice memory =
      string.units memory
  cmdline :
    ∀ info : PsCreateNotifyInfo, info.commandLine = some string →
      (WduPsCreateNotifyInfo.cmdline info).Ignores string memory
  imageFilename :
    ∀ info : PsCreateNotifyInfo, info.imageFileName = some string →
      (WduPsCreateNotifyInfo.imageFilename info).Ignores string memory
  fileName : (WduFileObject.fileName string).Ignores string memory
  comparesEqual :
    rtlCompareUnicodeString upcase
        (WduUnicodeStr.fromPtr (some string)).asUnicodeString string false
        memory =
      0

/-- The units of a string are in its contents. -/
theorem units_congr
    (string : UnicodeString) {memory other : Memory}
    (same : Set.EqOn other.units memory.units string.contents.bytes) :
    string.units other = string.units memory := by
  unfold units readUnits
  apply List.map_congr_left
  intro index member
  apply same
  have inside := List.mem_range.mp member
  have halves := two_mul_half_le string.length
  apply Region.mem_bytes.mpr
  dsimp only [contents]
  constructor
  · exact Nat.le_add_right _ _
  · apply Nat.add_lt_add_left
    omega

/-- The views of a well-formed string agree exactly when it has no spare
capacity. -/
theorem viewsAgree_iff
    (upcase : UInt16 → UInt16) (string : UnicodeString)
    (wellFormed : string.WellFormed) (memory : Memory) :
    string.ViewsAgree upcase memory ↔
      string.length = string.maximumLength := by
  constructor
  · intro agree
    have lengths := congrArg List.length agree.borrowed
    rw [WduUnicodeStr.units, Slice.units, units, length_readUnits,
      length_readUnits] at lengths
    exact
      eq_of_half_eq wellFormed.evenLength wellFormed.evenMaximum
        lengths.symm
  · intro tight
    have borrowed :
        ∀ memory : Memory,
          (WduUnicodeStr.fromPtr (some string)).units memory =
            string.units memory := by
      intro memory
      rw [units, tight]
      rfl
    have ignores :
        (WduUnicodeStr.fromPtr (some string)).Ignores string memory := by
      intro other same
      rw [borrowed, borrowed]
      exact string.units_congr same
    refine ⟨borrowed memory, rfl, ?_, ?_, ignores, ?_⟩
    · intro info given
      rw [WduPsCreateNotifyInfo.cmdline, given]
      exact ignores
    · intro info given
      rw [WduPsCreateNotifyInfo.imageFilename, given]
      exact ignores
    · rw [rtlCompare_eq_zero_iff, WduUnicodeStr.units_asUnicodeString]
      · exact borrowed memory
      · exact half_lt string.maximumLength

theorem tightString_viewsAgree :
    ViewsAgree id ⟨2, 2, 0x1000⟩ filledMemory ↔ (2 : UInt16) = 2 :=
  viewsAgree_iff id ⟨2, 2, 0x1000⟩ (by decide) filledMemory

/-- One unit, and room for another. -/
def spareString : UnicodeString := ⟨2, 4, 0x1000⟩

theorem spareString_viewsDiffer :
    spareString.WellFormed ∧
      spareString.units filledMemory = [0x41] ∧
      (WduUnicodeStr.fromPtr (some spareString)).units filledMemory =
        [0x41, 0x41] ∧
      ¬ spareString.ViewsAgree id filledMemory := by
  refine ⟨by decide, rfl, rfl, fun agree => ?_⟩
  exact absurd agree.borrowed (by decide)

end UnicodeString

end WinDrvUtils

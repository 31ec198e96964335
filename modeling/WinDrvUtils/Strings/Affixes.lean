import WinDrvUtils.Strings.Contains
import WinDrvUtils.Strings.Equality

/-!
# Beginnings and ends of strings

`is_prefix` and `is_suffix` ask the kernel, which compares units; `contains`
and the texts that a string is displayed as come from the decoded units. A
string of units may begin or end with another one in the middle of a surrogate
pair. Then the half of the pair is displayed as a replacement character, which
is not in the text of the longer string.

The routines of the kernel compare the two lengths in bytes before the units,
as `contains` does, so that what they accept is not refused there, not even
for a length that is odd.
-/

namespace WinDrvUtils

open Utf16

/-- The kernel's fold of units. -/
def foldCase (upcase : UInt16 → UInt16) (caseInsensitive : Bool) :
    UInt16 → UInt16 :=
  if caseInsensitive then upcase else id

/-- Whether the first string begins the second one. No string begins one of
fewer bytes. -/
def rtlPrefixUnicodeString (upcase : UInt16 → UInt16)
    (first second : UnicodeString) (caseInsensitive : Bool)
    (memory : Memory) : Bool :=
  let fold := foldCase upcase caseInsensitive
  first.length ≤ second.length &&
    ((first.units memory).map fold).isPrefixOf
      ((second.units memory).map fold)

/-- Whether the first string ends the second one. -/
def rtlSuffixUnicodeString (upcase : UInt16 → UInt16)
    (first second : UnicodeString) (caseInsensitive : Bool)
    (memory : Memory) : Bool :=
  let fold := foldCase upcase caseInsensitive
  first.length ≤ second.length &&
    ((first.units memory).map fold).isSuffixOf
      ((second.units memory).map fold)

namespace WduUnicodeString

def isSuffix (upcase : UInt16 → UInt16) (string source : WduUnicodeString)
    (caseInsensitive : Bool) (memory : Memory) : Bool :=
  rtlSuffixUnicodeString upcase source.string string.string caseInsensitive
    memory

def isPrefix (upcase : UInt16 → UInt16) (string source : WduUnicodeString)
    (caseInsensitive : Bool) (memory : Memory) : Bool :=
  rtlPrefixUnicodeString upcase source.string string.string caseInsensitive
    memory

section Affixes

variable (upcase : UInt16 → UInt16) (string source : WduUnicodeString)
  (memory : Memory)

theorem isPrefix_iff :
    string.isPrefix upcase source false memory = true ↔
      source.bytes ≤ string.bytes ∧
        source.asSlice memory <+: string.asSlice memory := by
  unfold isPrefix rtlPrefixUnicodeString
  dsimp only
  rw [Bool.and_eq_true, decide_eq_true_iff, List.isPrefixOf_iff_prefix,
    foldCase, if_neg Bool.false_ne_true, List.map_id, List.map_id]
  rfl

theorem isSuffix_iff :
    string.isSuffix upcase source false memory = true ↔
      source.bytes ≤ string.bytes ∧
        source.asSlice memory <:+ string.asSlice memory := by
  unfold isSuffix rtlSuffixUnicodeString
  dsimp only
  rw [Bool.and_eq_true, decide_eq_true_iff, List.isSuffixOf_iff_suffix,
    foldCase, if_neg Bool.false_ne_true, List.map_id, List.map_id]
  rfl

/-- The units behind as many as the other string has. -/
def unitsBehind : List UInt16 :=
  (string.asSlice memory).drop (source.asSlice memory).length

/-- The units before as many as the other string has. -/
def unitsBefore : List UInt16 :=
  (string.asSlice memory).take
    ((string.asSlice memory).length - (source.asSlice memory).length)

theorem contains_of_text
    (toLowercase : String → String) (fits : source.bytes ≤ string.bytes)
    (occurs :
      (source.display memory).toList <:+: (string.display memory).toList) :
    string.contains toLowercase source false memory = true := by
  have searches :=
    (contains_eq_iff toLowercase string source false memory).mpr (.inl fits)
  rw [searches, containsText_iff]
  exact occurs

end Affixes

/-- For all strings, also those of an odd number of bytes: one that begins or
ends with the units of another one, as `is_prefix` and `is_suffix` say, does
so with its text if and only if no pair is cut, and then `contains` finds
it. -/
theorem affixes_text_iff
    (upcase : UInt16 → UInt16) (toLowercase : String → String)
    (string source : WduUnicodeString) (memory : Memory) :
    (string.isPrefix upcase source false memory = true →
        ((source.display memory).toList <+:
              (string.display memory).toList ↔
            ¬ Cuts (source.asSlice memory)
                (string.unitsBehind source memory)) ∧
          (¬ Cuts (source.asSlice memory)
                (string.unitsBehind source memory) →
            string.contains toLowercase source false memory = true)) ∧
      (string.isSuffix upcase source false memory = true →
        ((source.display memory).toList <:+
              (string.display memory).toList ↔
            ¬ Cuts (string.unitsBefore source memory)
                (source.asSlice memory)) ∧
          (¬ Cuts (string.unitsBefore source memory)
                (source.asSlice memory) →
            string.contains toLowercase source false memory = true)) := by
  constructor
  · intro begins
    obtain ⟨fits, behind, split⟩ :=
      (isPrefix_iff upcase string source memory).mp begins
    have rest : string.unitsBehind source memory = behind := by
      rw [unitsBehind, ← split, List.drop_left]
    have text :
        (source.display memory).toList <+: (string.display memory).toList ↔
          ¬ Cuts (source.asSlice memory) behind := by
      rw [toList_display, toList_display, ← split]
      exact decode_isPrefix_append_iff _ _
    rw [rest]
    refine ⟨text, fun kept => ?_⟩
    exact
      contains_of_text string source memory toLowercase fits
        (text.mpr kept).isInfix
  · intro ends
    obtain ⟨fits, before, split⟩ :=
      (isSuffix_iff upcase string source memory).mp ends
    have rest : string.unitsBefore source memory = before := by
      rw [unitsBefore, ← split, List.length_append, Nat.add_sub_cancel,
        List.take_left]
    have text :
        (source.display memory).toList <:+ (string.display memory).toList ↔
          ¬ Cuts before (source.asSlice memory) := by
      rw [toList_display, toList_display, ← split]
      exact decode_isSuffix_append_iff _ _
    rw [rest]
    refine ⟨text, fun kept => ?_⟩
    exact
      contains_of_text string source memory toLowercase fits
        (text.mpr kept).isInfix

/-- `U+1F600` at `0x1000`. -/
def pairMemory : Memory :=
  { filledMemory with
    units := fun address => if address = 0x1000 then 0xD83D else 0xDE00 }

def pairString : WduUnicodeString := ⟨⟨4, 4, 0x1000⟩, none⟩

/-- The first unit of the pair. -/
def halfString : WduUnicodeString := ⟨⟨2, 2, 0x1000⟩, none⟩

theorem halfString_begins :
    pairString.isPrefix id halfString false pairMemory = true ∧
      ((halfString.display pairMemory).toList <+:
          (pairString.display pairMemory).toList ↔
        ¬ Cuts (halfString.asSlice pairMemory)
            (pairString.unitsBehind halfString pairMemory)) :=
  ⟨by decide,
    ((affixes_text_iff id id pairString halfString pairMemory).1
      (by decide)).1⟩

end WduUnicodeString

end WinDrvUtils

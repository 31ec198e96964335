import Mathlib.Data.List.Infix
import WinDrvUtils.Library.Utf8
import WinDrvUtils.Strings.Bounds

/-!
# Searching in strings

`contains` compares the lengths of the two strings in bytes, and searches only
if the needle is not longer. The search is for the bytes of the decoded needle
in those of the decoded string, both in lower case if case is ignored.

Decoding keeps the number of units, so without a change of case the comparison
of lengths is sound. A change of case is not: `İ` is one unit, and two in
lower case. So the strings that some needle is missed in are those with `İ`.

For strings from `from_str` the answer is that for the texts, unless a text
has lost units in the conversion.
-/

namespace WinDrvUtils

/-- `str::contains` searches for the bytes of the needle. -/
def strContains (text needle : String) : Bool :=
  decide (Utf8.encode needle.toList <:+: Utf8.encode text.toList)

theorem strContains_iff (text needle : String) :
    strContains text needle = true ↔ needle.toList <:+: text.toList := by
  rw [strContains, decide_eq_true_iff, Utf8.encode_isInfix_iff]

namespace WduUnicodeString

/-- The comparison behind the shortcut of `contains`. -/
def containsText (toLowercase : String → String)
    (string needle : WduUnicodeString) (caseInsensitive : Bool)
    (memory : Memory) : Bool :=
  if caseInsensitive then
    strContains (toLowercase (string.display memory))
      (toLowercase (needle.display memory))
  else strContains (string.display memory) (needle.display memory)

/-- `toLowercase` is `str::to_lowercase`. -/
def contains (toLowercase : String → String)
    (string needle : WduUnicodeString) (caseInsensitive : Bool)
    (memory : Memory) : Bool :=
  if string.bytes < needle.bytes then false
  else string.containsText toLowercase needle caseInsensitive memory

/-- The text that is searched, or searched for. -/
def searched (toLowercase : String → String) (caseInsensitive : Bool)
    (string : WduUnicodeString) (memory : Memory) : List Char :=
  if caseInsensitive then (toLowercase (string.display memory)).toList
  else (string.display memory).toList

section Searching

variable (toLowercase : String → String) (string needle : WduUnicodeString)
  (caseInsensitive : Bool) (memory : Memory)

theorem containsText_iff :
    string.containsText toLowercase needle caseInsensitive memory = true ↔
      needle.searched toLowercase caseInsensitive memory <:+:
        string.searched toLowercase caseInsensitive memory := by
  cases caseInsensitive with
  | false => simp [containsText, searched, strContains_iff]
  | true => simp [containsText, searched, strContains_iff]

/-! ## The shortcut -/

theorem toList_display :
    (string.display memory).toList = Utf16.decode (string.asSlice memory) :=
  String.toList_ofList

theorem length_asSlice :
    (string.asSlice memory).length = (string.bytes / 2).toNat :=
  length_readUnits _ _ _

/-- A text that occurs in another one has no more units, before decoding
too. -/
theorem length_le_of_occurs
    (occurs :
      Utf16.decode (needle.asSlice memory) <:+:
        Utf16.decode (string.asSlice memory)) :
    (needle.asSlice memory).length ≤ (string.asSlice memory).length := by
  have units := (Utf16.encode_isInfix_iff _ _).mpr occurs
  rw [Utf16.encode_decode, Utf16.encode_decode] at units
  have lengths := units.length_le
  rw [Utf16.length_repair, Utf16.length_repair] at lengths
  exact lengths

/-- A longer needle of whole units does not occur, case by case. -/
theorem not_occurs_of_shortcut
    (shortcut : string.bytes < needle.bytes) (whole : needle.bytes % 2 = 0) :
    ¬ needle.searched toLowercase false memory <:+:
        string.searched toLowercase false memory := by
  intro occurs
  have texts :
      Utf16.decode (needle.asSlice memory) <:+:
        Utf16.decode (string.asSlice memory) := by
    rw [← toList_display, ← toList_display]
    exact occurs
  have lengths := string.length_le_of_occurs needle memory texts
  rw [length_asSlice, length_asSlice] at lengths
  have stringHalves := two_mul_half_le string.bytes
  have needleHalves := two_mul_half_of_even whole
  have longer := UInt16.lt_iff_toNat_lt.mp shortcut
  omega

/-- The shortcut is sound when no occurrence is lost by it. -/
theorem contains_eq_iff_kept :
    string.contains toLowercase needle caseInsensitive memory =
        string.containsText toLowercase needle caseInsensitive memory ↔
      (string.bytes < needle.bytes →
        ¬ needle.searched toLowercase caseInsensitive memory <:+:
            string.searched toLowercase caseInsensitive memory) := by
  rw [contains]
  by_cases shortcut : string.bytes < needle.bytes
  · rw [if_pos shortcut, eq_comm, ← Bool.not_eq_true, containsText_iff]
    exact (imp_iff_right shortcut).symm
  · rw [if_neg shortcut]
    exact iff_of_true rfl fun taken => absurd taken shortcut

/-- With its case, a needle of whole units is searched for as if there were no
shortcut. -/
theorem contains_eq_of_whole (whole : needle.bytes % 2 = 0) :
    string.contains toLowercase needle false memory =
      string.containsText toLowercase needle false memory := by
  rw [contains_eq_iff_kept]
  intro shortcut
  exact
    string.not_occurs_of_shortcut toLowercase needle memory shortcut whole

/-- The shortcut is sound exactly when it is not taken, or the needle does not
occur; the latter is so for whole units if case is not ignored. -/
theorem contains_eq_iff :
    string.contains toLowercase needle caseInsensitive memory =
        string.containsText toLowercase needle caseInsensitive memory ↔
      needle.bytes ≤ string.bytes ∨
        (caseInsensitive = false ∧ needle.bytes % 2 = 0) ∨
        ¬ needle.searched toLowercase caseInsensitive memory <:+:
            string.searched toLowercase caseInsensitive memory := by
  rw [contains_eq_iff_kept, imp_iff_not_or, UInt16.not_lt]
  constructor
  · rintro (fits | notOccurs)
    · exact Or.inl fits
    · exact Or.inr (Or.inr notOccurs)
  · rintro (fits | ⟨rfl, whole⟩ | notOccurs)
    · exact Or.inl fits
    · have kept := string.contains_eq_of_whole toLowercase needle memory whole
      rw [contains_eq_iff_kept, imp_iff_not_or, UInt16.not_lt] at kept
      exact kept
    · exact Or.inr notOccurs

/-- The shortcut is sound if lower case makes the string no longer, in units,
and the needle no shorter. -/
theorem contains_eq_of_lengths (whole : needle.bytes % 2 = 0)
    (stringLength :
      (Utf16.encode (string.searched toLowercase true memory)).length ≤
        (string.asSlice memory).length)
    (needleLength :
      (needle.asSlice memory).length ≤
        (Utf16.encode (needle.searched toLowercase true memory)).length) :
    string.contains toLowercase needle true memory =
      string.containsText toLowercase needle true memory := by
  rw [contains_eq_iff_kept]
  intro shortcut occurs
  have lengths := ((Utf16.encode_isInfix_iff _ _).mpr occurs).length_le
  rw [length_asSlice] at stringLength needleLength
  have stringHalves := two_mul_half_le string.bytes
  have needleHalves := two_mul_half_of_even whole
  have longer := UInt16.lt_iff_toNat_lt.mp shortcut
  omega

end Searching

end WduUnicodeString

/-! ## Lower case -/

/-- What `str::to_lowercase` knows about characters: their mappings, and
whether a `Σ` ends a word, by what is before it, in reverse, and what is
behind it. Only `İ` is mapped to another number of units than it has, and what
a character is mapped to is lower case. -/
structure LowercaseTable where
  mapping : Char → List Char
  endsWord : List Char → List Char → Bool
  dotted : mapping 'İ' = ['i', '\u0307']
  keepsUnits :
    ∀ char, char ≠ 'İ' →
      (Utf16.encode (mapping char)).length = (Utf16.encodeChar char).length
  settled :
    ∀ char, ∀ lower ∈ mapping char, lower ≠ 'Σ' ∧ mapping lower = [lower]
  sigmas : mapping 'σ' = ['σ'] ∧ mapping 'ς' = ['ς']

namespace LowercaseTable

variable (table : LowercaseTable)

def lowercaseChar (before : List Char) (char : Char) (behind : List Char) :
    List Char :=
  if char = 'Σ' then [if table.endsWord before behind then 'ς' else 'σ']
  else table.mapping char

def lowercaseFrom (before : List Char) : List Char → List Char
  | [] => []
  | char :: behind =>
      table.lowercaseChar before char behind ++
        lowercaseFrom (char :: before) behind

def toLowercase (text : String) : String :=
  String.ofList (table.lowercaseFrom [] text.toList)

theorem length_lowercaseChar
    (before : List Char) {char : Char} (notDotted : char ≠ 'İ')
    (behind : List Char) :
    (Utf16.encode (table.lowercaseChar before char behind)).length =
      (Utf16.encodeChar char).length := by
  unfold lowercaseChar
  by_cases sigma : char = 'Σ'
  · rw [if_pos sigma, sigma]
    cases table.endsWord before behind <;> decide
  · rw [if_neg sigma]
    exact table.keepsUnits char notDotted

theorem length_lowercaseChar_dotted (before behind : List Char) :
    (Utf16.encode (table.lowercaseChar before 'İ' behind)).length =
      (Utf16.encodeChar 'İ').length + 1 := by
  have notSigma : 'İ' ≠ 'Σ' := by decide
  rw [lowercaseChar, if_neg notSigma, table.dotted]
  decide

theorem length_le_lowercaseChar
    (before : List Char) (char : Char) (behind : List Char) :
    (Utf16.encodeChar char).length ≤
      (Utf16.encode (table.lowercaseChar before char behind)).length := by
  by_cases dotted : char = 'İ'
  · rw [dotted, table.length_lowercaseChar_dotted]
    exact Nat.le_succ _
  · exact Nat.le_of_eq (table.length_lowercaseChar before dotted behind).symm

theorem length_lowercaseFrom
    (before text : List Char) (notDotted : 'İ' ∉ text) :
    (Utf16.encode (table.lowercaseFrom before text)).length =
      (Utf16.encode text).length := by
  induction text generalizing before with
  | nil => rfl
  | cons char behind inductionHypothesis =>
      obtain ⟨charNotDotted, behindNotDotted⟩ :=
        List.ne_and_not_mem_of_not_mem_cons notDotted
      have here :=
        table.length_lowercaseChar before charNotDotted.symm behind
      have there := inductionHypothesis (char :: before) behindNotDotted
      rw [lowercaseFrom, Utf16.encode_append, Utf16.encode_cons,
        List.length_append, List.length_append, here, there]

theorem length_le_lowercaseFrom (before text : List Char) :
    (Utf16.encode text).length ≤
      (Utf16.encode (table.lowercaseFrom before text)).length := by
  induction text generalizing before with
  | nil => exact Nat.le_refl _
  | cons char behind inductionHypothesis =>
      have here := table.length_le_lowercaseChar before char behind
      have there := inductionHypothesis (char :: before)
      rw [lowercaseFrom, Utf16.encode_append, Utf16.encode_cons,
        List.length_append, List.length_append]
      exact Nat.add_le_add here there

theorem length_lt_lowercaseFrom
    (before : List Char) {text : List Char} (dotted : 'İ' ∈ text) :
    (Utf16.encode text).length <
      (Utf16.encode (table.lowercaseFrom before text)).length := by
  induction text generalizing before with
  | nil => exact absurd dotted List.not_mem_nil
  | cons char behind inductionHypothesis =>
      rw [lowercaseFrom, Utf16.encode_append, Utf16.encode_cons,
        List.length_append, List.length_append]
      rcases List.mem_cons.mp dotted with rfl | later
      · have here := table.length_lowercaseChar_dotted before behind
        have there := table.length_le_lowercaseFrom ('İ' :: before) behind
        omega
      · have here := table.length_le_lowercaseChar before char behind
        have there := inductionHypothesis (char :: before) later
        exact Nat.add_lt_add_of_le_of_lt here there

/-- The character is its own lower case, wherever it stands. -/
def IsLower (char : Char) : Prop :=
  char ≠ 'Σ' ∧ table.mapping char = [char]

theorem isLower_of_mem_lowercaseChar
    {before : List Char} {char : Char} {behind : List Char} {lower : Char}
    (member : lower ∈ table.lowercaseChar before char behind) :
    table.IsLower lower := by
  unfold lowercaseChar at member
  by_cases sigma : char = 'Σ'
  · rw [if_pos sigma] at member
    obtain rfl := List.mem_singleton.mp member
    split
    · exact ⟨by decide, table.sigmas.2⟩
    · exact ⟨by decide, table.sigmas.1⟩
  · rw [if_neg sigma] at member
    exact table.settled char lower member

theorem isLower_of_mem_lowercaseFrom
    {before text : List Char} {lower : Char}
    (member : lower ∈ table.lowercaseFrom before text) :
    table.IsLower lower := by
  induction text generalizing before with
  | nil => exact absurd member List.not_mem_nil
  | cons char behind inductionHypothesis =>
      rcases List.mem_append.mp member with here | later
      · exact table.isLower_of_mem_lowercaseChar here
      · exact inductionHypothesis later

theorem lowercaseFrom_of_isLower
    (before : List Char) {text : List Char}
    (isLower : ∀ char ∈ text, table.IsLower char) :
    table.lowercaseFrom before text = text := by
  induction text generalizing before with
  | nil => rfl
  | cons char behind inductionHypothesis =>
      obtain ⟨notSigma, own⟩ := isLower char List.mem_cons_self
      have later :=
        inductionHypothesis (char :: before) fun lower member =>
          isLower lower (List.mem_cons_of_mem char member)
      rw [lowercaseFrom, lowercaseChar, if_neg notSigma, own, later]
      rfl

/-- What is in lower case stays as it is. -/
theorem lowercaseFrom_idempotent (before other text : List Char) :
    table.lowercaseFrom before (table.lowercaseFrom other text) =
      table.lowercaseFrom other text :=
  table.lowercaseFrom_of_isLower before fun _ member =>
    table.isLower_of_mem_lowercaseFrom member

end LowercaseTable

namespace WduUnicodeString

theorem length_encode_display
    (string : WduUnicodeString) (memory : Memory) :
    (Utf16.encode (string.display memory).toList).length =
      (string.asSlice memory).length := by
  rw [toList_display, Utf16.encode_decode, Utf16.length_repair]

theorem searched_lowercase
    (table : LowercaseTable) (string : WduUnicodeString) (memory : Memory) :
    string.searched table.toLowercase true memory =
      table.lowercaseFrom [] (string.display memory).toList :=
  String.toList_ofList

/-- Without `İ`, the shortcut is sound in lower case too. -/
theorem contains_eq_of_not_dotted
    (table : LowercaseTable) (string needle : WduUnicodeString)
    (memory : Memory) (whole : needle.bytes % 2 = 0)
    (notDotted : 'İ' ∉ (string.display memory).toList) :
    string.contains table.toLowercase needle true memory =
      string.containsText table.toLowercase needle true memory := by
  apply string.contains_eq_of_lengths table.toLowercase needle memory whole
  · have kept := table.length_lowercaseFrom [] _ notDotted
    rw [searched_lowercase, kept, length_encode_display]
  · have grown :=
      table.length_le_lowercaseFrom [] (needle.display memory).toList
    rw [length_encode_display] at grown
    rw [searched_lowercase]
    exact grown

/-- A needle that lies behind the string. -/
def needleBehind (string : WduUnicodeString) (units : List UInt16) :
    WduUnicodeString :=
  ⟨⟨toUnicodeLen units.length, toUnicodeLen units.length,
    string.string.buffer + 2 * string.len.toNat⟩, none⟩

/-- Memory with the needle's units. -/
def memoryBehind (string : WduUnicodeString) (units : List UInt16)
    (memory : Memory) : Memory :=
  { memory with
    units :=
      writeUnits memory.units
        (string.string.buffer + 2 * string.len.toNat) units }

theorem asSlice_memoryBehind
    (string : WduUnicodeString) (units : List UInt16) (memory : Memory) :
    string.asSlice (string.memoryBehind units memory) =
      string.asSlice memory := by
  have untouched :=
    writeUnits_eqOn memory.units
      (string.string.buffer + 2 * string.len.toNat) units
  unfold asSlice readUnits
  apply List.map_congr_left
  intro index member
  apply untouched
  intro inside
  have behind : 2 * string.len.toNat ≤ 2 * index :=
    Nat.le_of_add_le_add_left (Region.mem_bytes.mp inside).1
  have before := List.mem_range.mp member
  omega

theorem asSlice_needleBehind
    (string : WduUnicodeString) {units : List UInt16} (memory : Memory)
    (fits : units.length < 0x8000) :
    (string.needleBehind units).asSlice (string.memoryBehind units memory) =
      units := by
  have half := toUnicodeLen_half units.length
  rw [Nat.mod_eq_of_lt fits] at half
  have written :=
    readUnits_writeUnits memory.units
      (string.string.buffer + 2 * string.len.toNat) units
  rw [← half] at written
  exact written

/-- Units that fit are those of a string somewhere else in memory. -/
theorem exists_beside
    (string : WduUnicodeString) {units : List UInt16} (memory : Memory)
    (fits : units.length < 0x8000) :
    ∃ (beside : WduUnicodeString) (other : Memory),
      string.asSlice other = string.asSlice memory ∧
        beside.asSlice other = units ∧
        beside.bytes.toNat = 2 * units.length := by
  refine
    ⟨string.needleBehind units, string.memoryBehind units memory,
      string.asSlice_memoryBehind units memory,
      string.asSlice_needleBehind memory fits, ?_⟩
  have counted := toNat_toUnicodeLen units.length
  rw [Nat.mod_eq_of_lt fits] at counted
  exact counted

/-- Whatever is searched for in the string, and wherever it lies, the shortcut
does not change the answer. -/
def ShortcutSound (toLowercase : String → String)
    (string : WduUnicodeString) (memory : Memory) : Prop :=
  ∀ (needle : WduUnicodeString) (other : Memory) (caseInsensitive : Bool),
    needle.bytes % 2 = 0 → string.asSlice other = string.asSlice memory →
      string.contains toLowercase needle caseInsensitive other =
        string.containsText toLowercase needle caseInsensitive other

/-- The string in lower case is found in the string, and has more units. -/
theorem not_shortcutSound_of_dotted
    (table : LowercaseTable) (string : WduUnicodeString) (memory : Memory)
    (fits :
      (Utf16.encode (string.searched table.toLowercase true memory)).length <
        0x8000)
    (dotted : 'İ' ∈ (string.display memory).toList) :
    ¬ string.ShortcutSound table.toLowercase memory := by
  intro sound
  have grown := table.length_lt_lowercaseFrom [] dotted
  rw [length_encode_display, length_asSlice] at grown
  rw [searched_lowercase] at fits
  generalize lowered :
    table.lowercaseFrom [] (string.display memory).toList = text
    at fits grown
  obtain ⟨needle, other, kept, held, length⟩ :=
    string.exists_beside memory fits
  have whole : needle.bytes % 2 = 0 := by
    apply UInt16.toNat_inj.mp
    rw [UInt16.toNat_mod, length]
    exact Nat.mul_mod_right 2 _
  have shortcut : string.bytes < needle.bytes := by
    have halves := lt_two_mul_half_succ string.bytes
    apply UInt16.lt_iff_toNat_lt.mpr
    omega
  have occurs :
      needle.searched table.toLowercase true other <:+:
        string.searched table.toLowercase true other := by
    rw [searched_lowercase, searched_lowercase, toList_display,
      toList_display, held, kept, Utf16.decode_encode, ← toList_display,
      lowered, ← lowered, table.lowercaseFrom_idempotent]
  have same := sound needle other true whole kept
  rw [contains_eq_iff_kept] at same
  exact same shortcut occurs

/-- Without `İ`, nothing that is searched for is missed. -/
theorem shortcutSound_of_not_dotted
    (table : LowercaseTable) (string : WduUnicodeString) (memory : Memory)
    (notDotted : 'İ' ∉ (string.display memory).toList) :
    string.ShortcutSound table.toLowercase memory := by
  intro needle other caseInsensitive whole same
  cases caseInsensitive with
  | false =>
      exact string.contains_eq_of_whole table.toLowercase needle other whole
  | true =>
      apply string.contains_eq_of_not_dotted table needle other whole
      rw [toList_display] at notDotted ⊢
      rw [same]
      exact notDotted

/-- For one needle the shortcut is sound exactly when it is not taken or takes
nothing away. For all needles it is if the string has no `İ`, and only then if
the string in lower case fits into a string. -/
theorem contains_shortcut_iff
    (table : LowercaseTable) (string : WduUnicodeString) (memory : Memory) :
    (∀ (needle : WduUnicodeString) (caseInsensitive : Bool),
        string.contains table.toLowercase needle caseInsensitive memory =
            string.containsText table.toLowercase needle caseInsensitive
              memory ↔
          needle.bytes ≤ string.bytes ∨
            (caseInsensitive = false ∧ needle.bytes % 2 = 0) ∨
            ¬ needle.searched table.toLowercase caseInsensitive memory <:+:
                string.searched table.toLowercase caseInsensitive memory) ∧
      ('İ' ∉ (string.display memory).toList →
        string.ShortcutSound table.toLowercase memory) ∧
      ((Utf16.encode (string.searched table.toLowercase true memory)).length <
          0x8000 →
        string.ShortcutSound table.toLowercase memory →
          'İ' ∉ (string.display memory).toList) := by
  refine ⟨fun needle caseInsensitive => ?_, ?_, fun fits sound dotted => ?_⟩
  · exact
      string.contains_eq_iff table.toLowercase needle caseInsensitive memory
  · exact string.shortcutSound_of_not_dotted table memory
  · exact string.not_shortcutSound_of_dotted table memory fits dotted sound

/-! ## A table -/

theorem toNat_toLower (char : Char) :
    char.toLower.toNat =
      if 65 ≤ char.toNat ∧ char.toNat ≤ 90 then char.toNat + 32
      else char.toNat := by
  have bounds :
      (char.val ≥ 'A'.val ∧ char.val ≤ 'Z'.val) ↔
        65 ≤ char.toNat ∧ char.toNat ≤ 90 := by
    rw [ge_iff_le, UInt32.le_iff_toNat_le, UInt32.le_iff_toNat_le]
    exact Iff.rfl
  unfold Char.toLower
  by_cases upper : 65 ≤ char.toNat ∧ char.toNat ≤ 90
  · have small : char.val.toNat ≤ 90 := upper.2
    have sum :
        (char.val + ('a'.val - 'A'.val)).toNat =
          (char.val.toNat + 32) % 2 ^ 32 :=
      UInt32.toNat_add _ _
    rw [dif_pos (bounds.mpr upper), if_pos upper]
    show (char.val + ('a'.val - 'A'.val)).toNat = char.val.toNat + 32
    rw [sum]
    omega
  · rw [dif_neg (mt bounds.mp upper), if_neg upper]

/-- The lower case of the letters from `A` to `Z`, and of two Greek ones. -/
def lowerLetter (char : Char) : Char :=
  if char = 'Α' then 'α'
  else if char = 'Σ' then 'σ'
  else char.toLower

theorem lowerLetter_of_ne
    {char : Char} (notAlpha : char ≠ 'Α') (notSigma : char ≠ 'Σ') :
    lowerLetter char = char.toLower := by
  rw [lowerLetter, if_neg notAlpha, if_neg notSigma]

theorem length_encodeChar_lowerLetter (char : Char) :
    (Utf16.encodeChar (lowerLetter char)).length =
      (Utf16.encodeChar char).length := by
  by_cases isAlpha : char = 'Α'
  · rw [isAlpha]
    decide
  · by_cases isSigma : char = 'Σ'
    · rw [isSigma]
      decide
    · have value := toNat_toLower char
      rw [lowerLetter_of_ne isAlpha isSigma]
      unfold Utf16.encodeChar
      split at value
      · rw [if_pos (by omega), if_pos (by omega)]
        rfl
      · rw [value]

theorem lowerLetter_settled {char : Char} (notDotted : char ≠ 'İ') :
    lowerLetter char ≠ 'İ' ∧ lowerLetter char ≠ 'Σ' ∧
      lowerLetter (lowerLetter char) = lowerLetter char := by
  by_cases isAlpha : char = 'Α'
  · rw [isAlpha]
    decide
  · by_cases isSigma : char = 'Σ'
    · rw [isSigma]
      decide
    · have value := toNat_toLower char
      rw [lowerLetter_of_ne isAlpha isSigma]
      by_cases upper : 65 ≤ char.toNat ∧ char.toNat ≤ 90
      · rw [if_pos upper] at value
        have apart : ∀ other : Char, 123 ≤ other.toNat →
            char.toLower ≠ other := by
          intro other above same
          rw [same] at value
          omega
        have again := toNat_toLower char.toLower
        rw [if_neg (by omega)] at again
        have own : char.toLower.toLower = char.toLower :=
          Char.toNat_inj.mp again
        refine ⟨apart 'İ' (by decide), apart 'Σ' (by decide), ?_⟩
        rw [lowerLetter_of_ne (apart 'Α' (by decide))
          (apart 'Σ' (by decide)), own]
      · rw [if_neg upper] at value
        have own : char.toLower = char := Char.toNat_inj.mp value
        rw [own, lowerLetter_of_ne isAlpha isSigma, own]
        exact ⟨notDotted, isSigma, rfl⟩

/-- The mappings of `İ`, of the letters from `A` to `Z`, and of two Greek
ones; no other character that the table is used for has one. -/
def dottedTable : LowercaseTable where
  mapping char :=
    if char = 'İ' then ['i', '\u0307']
    else [lowerLetter char]
  endsWord _ _ := false
  dotted := rfl
  keepsUnits := by
    intro char notDotted
    rw [if_neg notDotted, Utf16.encode_cons, List.length_append,
      length_encodeChar_lowerLetter]
    rfl
  settled := by
    intro char lower member
    by_cases dotted : char = 'İ'
    · rw [if_pos dotted] at member
      rcases List.mem_cons.mp member with rfl | mark
      · decide
      · obtain rfl := List.mem_singleton.mp mark
        decide
    · rw [if_neg dotted] at member
      obtain rfl := List.mem_singleton.mp member
      obtain ⟨notDotted, notSigma, own⟩ := lowerLetter_settled dotted
      rw [if_neg notDotted, own]
      exact ⟨notSigma, rfl⟩
  sigmas := by decide

/-- An `A`, which is `a` in lower case. -/
theorem letter_shortcutSound :
    ShortcutSound dottedTable.toLowercase ⟨⟨2, 2, 0x20000⟩, some .pool⟩
      filledMemory :=
  (contains_shortcut_iff dottedTable ⟨⟨2, 2, 0x20000⟩, some .pool⟩
    filledMemory).2.1 (by decide)

/-- `İ` at `0x1000`, and its lower case at `0x2000`. -/
def dottedMemory : Memory :=
  { filledMemory with
    units := fun address =>
      if address = 0x1000 then 0x130
      else if address = 0x2000 then 0x69
      else 0x307 }

/-- The needle is the string in lower case, and is not found. -/
theorem dotted_notFound :
    contains dottedTable.toLowercase ⟨⟨2, 2, 0x1000⟩, none⟩
        ⟨⟨4, 4, 0x2000⟩, none⟩ true dottedMemory =
      false ∧
      containsText dottedTable.toLowercase ⟨⟨2, 2, 0x1000⟩, none⟩
          ⟨⟨4, 4, 0x2000⟩, none⟩ true dottedMemory =
        true := by
  refine ⟨by decide, ?_⟩
  rw [containsText_iff]
  decide

/-! ## Strings from `from_str` -/

/-- The units that a string keeps in a conversion. -/
def keptUnits (units : List UInt16) : List UInt16 :=
  units.take (units.length % 0x8000)

/-- The text that is left after the conversion by `from_str`. -/
def keptText (text : String) : List Char :=
  Utf16.decode (keptUnits (Utf16.encode text.toList))

/-- `from_str` made the string of the text, and its units have not changed
since. -/
def FromText (string : WduUnicodeString) (text : String) (memory : Memory) :
    Prop :=
  ∃ tryNonPaged vecAnswer answer before after,
    fromStr tryNonPaged text vecAnswer answer before =
        .ok (.ok string, after) ∧
      string.asSlice memory = string.asSlice after

theorem keptUnits_of_short
    {units : List UInt16} (short : units.length < 0x8000) :
    keptUnits units = units := by
  rw [keptUnits, Nat.mod_eq_of_lt short, List.take_length]

theorem keptText_of_short
    {text : String} (short : (Utf16.encode text.toList).length < 0x8000) :
    keptText text = text.toList := by
  rw [keptText, keptUnits_of_short short, Utf16.decode_encode]

theorem readUnits_take
    (units : Address → UInt16) (buffer : Address) {count total : Nat}
    (fits : count ≤ total) :
    readUnits units buffer count =
      (readUnits units buffer total).take count := by
  rw [readUnits, readUnits, ← List.map_take, List.take_range,
    Nat.min_eq_left fits]

/-- What `from_str` leaves of a text. -/
theorem fromStr_returned
    {tryNonPaged : Bool} {text : String} {vecAnswer answer : Address}
    {before after : Memory} {string : WduUnicodeString}
    (returned :
      fromStr tryNonPaged text vecAnswer answer before =
        .ok (.ok string, after)) :
    string.bytes = toUnicodeLen (Utf16.encode text.toList).length ∧
      string.asSlice after = keptUnits (Utf16.encode text.toList) := by
  unfold fromStr tryFromStr at returned
  generalize Utf16.encode text.toList = units at returned ⊢
  by_cases refused : units.length * 2 ≠ 0 ∧ vecAnswer = nullPtr
  · rw [if_pos refused] at returned
    cases returned
  · rw [if_neg refused, createFrom,
      create_eq _ (takesPool_poolType tryNonPaged)] at returned
    by_cases null : answer = nullPtr
    · rw [if_pos null] at returned
      cases returned
    · rw [if_neg null] at returned
      cases returned
      have extended := units_extendBuffer units vecAnswer before
      rw [Slice.units] at extended
      refine
        ⟨rfl,
          (asSlice_create ⟨vecAnswer, units.length⟩ answer
            (extendBuffer units vecAnswer before) _ ?_).trans ?_⟩
      · exact units_drop _ _
      · rw [keptUnits, readUnits_take _ _ (Nat.mod_le _ _), extended]

namespace FromText

variable {string : WduUnicodeString} {text : String} {memory : Memory}

theorem whole (made : string.FromText text memory) : string.bytes % 2 = 0 := by
  obtain ⟨_, _, _, _, _, returned, _⟩ := made
  rw [(fromStr_returned returned).1, toUnicodeLen, Nat.mul_comm]
  exact even_ofNat _

theorem toList_display (made : string.FromText text memory) :
    (string.display memory).toList = keptText text := by
  obtain ⟨_, _, _, _, _, returned, same⟩ := made
  rw [WduUnicodeString.toList_display, same, (fromStr_returned returned).2]
  rfl

end FromText

theorem contains_iff_kept
    {hay needle : WduUnicodeString} {memory : Memory} {text word : String}
    (toLowercase : String → String) (hayMade : hay.FromText text memory)
    (needleMade : needle.FromText word memory) :
    hay.contains toLowercase needle false memory = true ↔
      keptText word <:+: keptText text := by
  have slow :=
    hay.contains_eq_of_whole toLowercase needle memory needleMade.whole
  rw [slow, containsText_iff, ← needleMade.toList_display,
    ← hayMade.toList_display]
  rfl

/-- The search is for the word in the text exactly when the conversions leave
it as it is whether the word occurs; so if both have fewer than 32768
units. -/
theorem contains_fromText_iff
    (toLowercase : String → String) (hay needle : WduUnicodeString)
    (memory : Memory) (text word : String)
    (hayMade : hay.FromText text memory)
    (needleMade : needle.FromText word memory) :
    ((hay.contains toLowercase needle false memory = true ↔
          Utf16.encode word.toList <:+: Utf16.encode text.toList) ↔
        (keptText word <:+: keptText text ↔ word.toList <:+: text.toList)) ∧
      (Utf16.encode word.toList <:+: Utf16.encode text.toList ↔
        word.toList <:+: text.toList) ∧
      ((Utf16.encode text.toList).length < 0x8000 →
        (Utf16.encode word.toList).length < 0x8000 →
          (hay.contains toLowercase needle false memory = true ↔
            Utf16.encode word.toList <:+: Utf16.encode text.toList)) := by
  have found := contains_iff_kept toLowercase hayMade needleMade
  have units := Utf16.encode_isInfix_iff word.toList text.toList
  refine ⟨?_, units, ?_⟩
  · rw [found, units]
  · intro textShort wordShort
    rw [found, units, keptText_of_short textShort,
      keptText_of_short wordShort]

/-- With memory, `from_str` makes a string of any text. -/
theorem fromStr_granted
    (tryNonPaged : Bool) (text : String) {vecAnswer answer : Address}
    (vecGranted : vecAnswer ≠ nullPtr) (granted : answer ≠ nullPtr)
    (before : Memory) :
    ∃ after,
      fromStr tryNonPaged text vecAnswer answer before =
        .ok
          (.ok
            ⟨⟨toUnicodeLen (Utf16.encode text.toList).length,
                toUnicodeLen (Utf16.encode text.toList).length, answer⟩,
              some .pool⟩,
            after) := by
  rw [fromStr, tryFromStr, if_neg fun refused => vecGranted refused.2,
    createFrom, create_eq _ (takesPool_poolType tryNonPaged), if_neg granted]
  exact ⟨_, rfl⟩

theorem fromText_of_kept
    {text : String} {length : UInt16} {answer : Address} {memory : Memory}
    (granted : answer ≠ nullPtr)
    (bytes : toUnicodeLen (Utf16.encode text.toList).length = length)
    (kept :
      asSlice ⟨⟨length, length, answer⟩, some .pool⟩ memory =
        keptUnits (Utf16.encode text.toList)) :
    FromText ⟨⟨length, length, answer⟩, some .pool⟩ text memory := by
  have vecGranted : 0x3000 ≠ nullPtr := by decide
  obtain ⟨after, returned⟩ :=
    fromStr_granted false text vecGranted granted memory
  rw [bytes] at returned
  have units := (fromStr_returned returned).2
  exact ⟨false, 0x3000, answer, memory, after, returned, kept.trans units.symm⟩

def letterString : WduUnicodeString :=
  ⟨⟨2, 2, 0x20000⟩, some .pool⟩

theorem letterString_fromText : letterString.FromText "A" filledMemory :=
  fromText_of_kept (by decide) (by decide) (by decide)

/-- `A😀B` at `0x20000`, and `😀B` at `0x30000`. -/
def faceMemory : Memory :=
  { filledMemory with
    units := fun address =>
      if address = 0x20000 then 0x41
      else if address = 0x20002 ∨ address = 0x30000 then 0xD83D
      else if address = 0x20004 ∨ address = 0x30002 then 0xDE00
      else 0x42 }

def faceString : WduUnicodeString :=
  ⟨⟨8, 8, 0x20000⟩, some .pool⟩

def faceNeedle : WduUnicodeString :=
  ⟨⟨6, 6, 0x30000⟩, some .pool⟩

/-- A piece of a text that begins with a surrogate pair is found. -/
theorem faceNeedle_found :
    faceString.contains id faceNeedle false faceMemory = true ↔
      Utf16.encode "😀B".toList <:+: Utf16.encode "A😀B".toList :=
  (contains_fromText_iff id faceString faceNeedle faceMemory "A😀B" "😀B"
    (fromText_of_kept (by decide) (by decide) (by decide))
    (fromText_of_kept (by decide) (by decide) (by decide))).2.2 (by decide)
    (by decide)

def letters (count : Nat) : String :=
  String.ofList (List.replicate count 'A')

theorem encode_letters (count : Nat) :
    Utf16.encode (letters count).toList = List.replicate count 0x41 := by
  rw [letters, String.toList_ofList]
  induction count with
  | zero => rfl
  | succ count inductionHypothesis =>
      rw [List.replicate_succ, Utf16.encode_cons, inductionHypothesis]
      rfl

/-- A text of 32768 units. -/
def longText : String := letters 0x8000

theorem encode_longText :
    Utf16.encode longText.toList = List.replicate 0x8000 0x41 :=
  encode_letters 0x8000

/-- The conversion of `longText`, with the length that is left of it. -/
def emptiedString : WduUnicodeString :=
  ⟨⟨0, 0, 0x20000⟩, some .pool⟩

theorem emptiedString_fromText :
    emptiedString.FromText longText filledMemory := by
  apply fromText_of_kept
  · decide
  · rw [encode_longText, List.length_replicate]
    decide
  · rw [encode_longText, keptUnits, List.length_replicate]
    rfl

theorem emptiedString_missesLetter :
    emptiedString.FromText longText filledMemory ∧
      letterString.FromText "A" filledMemory ∧
      Utf16.encode "A".toList <:+: Utf16.encode longText.toList ∧
      emptiedString.contains id letterString false filledMemory = false := by
  have letter : Utf16.encode "A".toList = [0x41] := by decide
  have shortcut : emptiedString.bytes < letterString.bytes := by decide
  refine
    ⟨emptiedString_fromText, letterString_fromText, ?_, if_pos shortcut⟩
  rw [encode_longText, letter]
  exact ⟨[], List.replicate 0x7FFF 0x41, List.replicate_succ.symm⟩

end WduUnicodeString

end WinDrvUtils

import WinDrvUtils.Library.Numeral
import WinDrvUtils.Strings.Conversion

/-!
# Integers as strings

`try_from_u32` and `try_from_u64` give the kernel a buffer of a fixed length,
21 and 48 bytes. That is room for ten and for 24 digits. Ten digits are enough
for 32 bits in base ten, and 24 are enough for 64 bits in base eight.
-/

namespace WinDrvUtils

/-- `0x80000005` -/
def statusBufferOverflow : NTSTATUS := -0x7FFFFFFB

/-! ## The kernel routines -/

/-- The base that a routine converts in; it takes zero for ten. -/
def rtlIntegerBase (base : UInt32) : Option Nat :=
  if base = 0 then some 10
  else if base = 2 ∨ base = 8 ∨ base = 10 ∨ base = 16 then some base.toNat
  else none

/-- What both routines do. They write the digits if the string has room for
all of them. -/
def rtlNumberToUnicodeString (value : Nat) (base : UInt32)
    (string : UnicodeString) (units : Address → UInt16) : IntegerAnswer :=
  match rtlIntegerBase base with
  | none => ⟨statusInvalidParameter, string.length, units⟩
  | some base =>
      let digits := Utf16.encode (Numeral.text base value)
      if 2 * digits.length ≤ string.maximumLength.toNat then
        ⟨statusSuccess, UInt16.ofNat (2 * digits.length),
          writeUnits units string.buffer digits⟩
      else ⟨statusBufferOverflow, string.length, units⟩

def rtlIntegerToUnicodeString (value : UInt32) (base : UInt32) :
    UnicodeString → (Address → UInt16) → IntegerAnswer :=
  rtlNumberToUnicodeString value.toNat base

def rtlInt64ToUnicodeString (value : UInt64) (base : UInt32) :
    UnicodeString → (Address → UInt16) → IntegerAnswer :=
  rtlNumberToUnicodeString value.toNat base

namespace WduUnicodeString

/-- `try_from_u32` with the routine that it calls. `answer` is the buffer that
the pool gives. -/
def convertU32 (val base : UInt32) (answer : Address) (memory : Memory) :
    WduUnicodeResult WduUnicodeString × Memory :=
  tryFromU32 answer
    (rtlIntegerToUnicodeString val base
      ⟨maxLenU32String, maxLenU32String, answer⟩ memory.units)
    memory

/-- `try_from_u64` with the routine that it calls. -/
def convertU64 (val : UInt64) (base : UInt32) (answer : Address)
    (memory : Memory) : WduUnicodeResult WduUnicodeString × Memory :=
  tryFromU64 answer
    (rtlInt64ToUnicodeString val base
      ⟨maxLenU64String, maxLenU64String, answer⟩ memory.units)
    memory

/-- A conversion gives a string that displays the number. -/
def Displays (base value : Nat)
    (outcome : WduUnicodeResult WduUnicodeString × Memory) : Prop :=
  ∃ string,
    outcome.1 = .ok string ∧
      Numeral.Denotes base value (string.display outcome.2).toList

theorem length_encode_text
    {base : Nat} (two : 1 < base) (letters : base ≤ 36) (value : Nat) :
    (Utf16.encode (Numeral.text base value)).length =
      (Numeral.text base value).length := by
  have ascii : ∀ char ∈ Numeral.text base value, char.toNat < 128 :=
    fun char member => Numeral.toNat_lt_of_mem_text two letters member
  generalize Numeral.text base value = text at *
  induction text with
  | nil => rfl
  | cons char rest inductionHypothesis =>
      have first := ascii char List.mem_cons_self
      have basic : char.toNat < 0x10000 := by
        omega
      have later := inductionHypothesis fun other member =>
        ascii other (List.mem_cons_of_mem _ member)
      simp [Utf16.encodeChar, basic, later]

/-- The string that has just been written displays what was written. -/
theorem display_written
    (text : List Char) (maxLen : UInt16) (dest : Address)
    {units : Address → UInt16} {memory : Memory}
    (written : memory.units = writeUnits units dest (Utf16.encode text))
    (fits : 2 * (Utf16.encode text).length < 0x10000) :
    display
        ⟨⟨UInt16.ofNat (2 * (Utf16.encode text).length), maxLen, dest⟩,
          some .pool⟩
        memory =
      String.ofList text := by
  have bytes :
      (UInt16.ofNat (2 * (Utf16.encode text).length)).toNat =
        2 * (Utf16.encode text).length :=
    Utf16.toNat_ofNat_of_lt fits
  have count :
      (UInt16.ofNat (2 * (Utf16.encode text).length) / 2).toNat =
        (Utf16.encode text).length := by
    rw [UInt16.toNat_div, bytes]
    exact Nat.mul_div_cancel_left _ Nat.two_pos
  simp only [display, asSlice, len, count, written, readUnits_writeUnits,
    Utf16.decode_encode]

theorem overflow_of_long
    (maxLen : UInt16) {base : UInt32} {number : Nat}
    (known : rtlIntegerBase base = some number) (two : 1 < number)
    (letters : number ≤ 36) {answer : Address}
    (allocated : answer ≠ nullPtr) {value : Nat} (memory : Memory)
    (long : ¬2 * (Numeral.text number value).length ≤ maxLen.toNat) :
    (tryFromInteger maxLen answer
        (rtlNumberToUnicodeString value base ⟨maxLen, maxLen, answer⟩
          memory.units)
        memory).1 =
      .error (.ntStatus statusBufferOverflow) := by
  have status : statusBufferOverflow ≠ statusSuccess := by
    decide
  rw [← length_encode_text two letters value] at long
  simp [tryFromInteger, allocated, rtlNumberToUnicodeString, known, long,
    status]

/-- The digits fit and are displayed, or the routine fails. -/
theorem displays_iff
    (maxLen : UInt16) {base : UInt32} {number : Nat}
    (known : rtlIntegerBase base = some number) (two : 1 < number)
    (letters : number ≤ 36) {answer : Address}
    (allocated : answer ≠ nullPtr) (value : Nat) (memory : Memory) :
    Displays number value
        (tryFromInteger maxLen answer
          (rtlNumberToUnicodeString value base ⟨maxLen, maxLen, answer⟩
            memory.units)
          memory) ↔
      2 * (Numeral.text number value).length ≤ maxLen.toNat := by
  have length := length_encode_text two letters value
  by_cases fits : 2 * (Numeral.text number value).length ≤ maxLen.toNat
  · refine iff_of_true ?_ fits
    rw [← length] at fits
    have small := Nat.lt_of_le_of_lt fits maxLen.toNat_lt
    have converted :
        tryFromInteger maxLen answer
            (rtlNumberToUnicodeString value base ⟨maxLen, maxLen, answer⟩
              memory.units)
            memory =
          (.ok
            ⟨⟨UInt16.ofNat
                (2 * (Utf16.encode (Numeral.text number value)).length),
              maxLen, answer⟩, some .pool⟩,
            { memory.allocate (.exPool stringAllocTag) maxLen.toNat answer with
              units :=
                writeUnits memory.units answer
                  (Utf16.encode (Numeral.text number value)) }) := by
      simp [tryFromInteger, allocated, rtlNumberToUnicodeString, known, fits]
    rw [converted]
    refine ⟨_, rfl, ?_⟩
    rw [display_written _ maxLen answer rfl small, String.toList_ofList]
    exact Numeral.denotes_text two letters value
  · refine iff_of_false ?_ fits
    rintro ⟨string, converted, _⟩
    rw [overflow_of_long maxLen known two letters allocated memory fits]
      at converted
    cases converted

/-- The four bases that the routines are documented for. -/
theorem rtlIntegerBase_of_mem
    {base : UInt32} (supported : base ∈ [2, 8, 10, 16]) :
    rtlIntegerBase base = some base.toNat ∧ 1 < base.toNat ∧
      base.toNat ≤ 36 := by
  simp only [List.mem_cons, List.not_mem_nil, or_false] at supported
  rcases supported with rfl | rfl | rfl | rfl <;> decide

/-- A number of 32 bits is displayed if it has at most ten digits, and one of
64 bits if it has at most 24. -/
theorem convert_displays_iff
    {base : UInt32} (supported : base ∈ [2, 8, 10, 16])
    {answer : Address} (allocated : answer ≠ nullPtr) (memory : Memory) :
    (∀ val : UInt32,
        Displays base.toNat val.toNat (convertU32 val base answer memory) ↔
          val.toNat < base.toNat ^ 10) ∧
      ∀ val : UInt64,
        Displays base.toNat val.toNat (convertU64 val base answer memory) ↔
          val.toNat < base.toNat ^ 24 := by
  obtain ⟨known, two, letters⟩ := rtlIntegerBase_of_mem supported
  constructor
  · intro val
    have room : 2 * (Numeral.text base.toNat val.toNat).length ≤
        maxLenU32String.toNat ↔
          (Numeral.text base.toNat val.toNat).length ≤ 10 := by
      change _ ≤ 21 ↔ _
      omega
    rw [← Numeral.length_text_le_iff two (by decide), ← room]
    exact displays_iff maxLenU32String known two letters allocated _ memory
  · intro val
    have room : 2 * (Numeral.text base.toNat val.toNat).length ≤
        maxLenU64String.toNat ↔
          (Numeral.text base.toNat val.toNat).length ≤ 24 := by
      change _ ≤ 48 ↔ _
      omega
    rw [← Numeral.length_text_le_iff two (by decide), ← room]
    exact displays_iff maxLenU64String known two letters allocated _ memory

end WduUnicodeString

/-- All numbers of the base that the tests use are displayed. -/
theorem hexadecimal_displayed :
    WduUnicodeString.Displays 16 0xCAFE
      (WduUnicodeString.convertU32 0xCAFE 16 0x5000 filledMemory) :=
  ((WduUnicodeString.convert_displays_iff
    (by decide : (16 : UInt32) ∈ [2, 8, 10, 16])
    (by decide : (0x5000 : Address) ≠ nullPtr) filledMemory).1 0xCAFE).mpr
    (by decide)

/-- Eleven binary digits, of which the buffer has room for ten, and the
smallest number of 64 bits with 25. -/
theorem binary_overflows :
    (WduUnicodeString.convertU32 0x400 2 0x5000 filledMemory).1 =
        .error (.ntStatus statusBufferOverflow) ∧
      ¬WduUnicodeString.Displays 2 0x400
        (WduUnicodeString.convertU32 0x400 2 0x5000 filledMemory) ∧
      ¬WduUnicodeString.Displays 2 0x1000000
        (WduUnicodeString.convertU64 0x1000000 2 0x5000 filledMemory) := by
  have eleven : ¬2 * (Numeral.text 2 0x400).length ≤ 21 := by
    have count :=
      Numeral.length_text_le_iff (by decide : 1 < 2) (by decide : 10 ≠ 0) 0x400
    have large : ¬0x400 < 2 ^ 10 := by
      decide
    omega
  have many : ¬2 * (Numeral.text 2 0x1000000).length ≤ 48 := by
    have count :=
      Numeral.length_text_le_iff (by decide : 1 < 2) (by decide : 24 ≠ 0)
        0x1000000
    have large : ¬0x1000000 < 2 ^ 24 := by
      decide
    omega
  have allocated : (0x5000 : Address) ≠ nullPtr := by
    decide
  refine ⟨?_, ?_, ?_⟩
  · exact
      WduUnicodeString.overflow_of_long maxLenU32String rfl (by decide)
        (by decide) allocated filledMemory eleven
  · exact
      mt (WduUnicodeString.displays_iff maxLenU32String rfl (by decide)
        (by decide) allocated 0x400 filledMemory).mp eleven
  · exact
      mt (WduUnicodeString.displays_iff maxLenU64String rfl (by decide)
        (by decide) allocated 0x1000000 filledMemory).mp many

end WinDrvUtils

import WinDrvUtils.Strings.Unicode

/-!
# Conversions into `WduUnicodeString`

A conversion is lossless when it fails, or returns a string with all the units
of its source. Two lengths are cut to 16 bits on the way, that of the copied
units in `to_unicode_len` and that of the bytes that the kernel is told about
in `try_from_utf8`, and neither is checked. Both cuts show in the units of the
result, so each conversion is lossless exactly when its length is not cut or
some allocation or kernel routine fails.
-/

namespace WinDrvUtils

/-! ## Units in memory -/

theorem length_readUnits
    (units : Address → UInt16) (buffer : Address) (count : Nat) :
    (readUnits units buffer count).length = count := by
  simp [readUnits]

/-- The address of a unit lies among the `count` units from `dest` on. -/
theorem unit_inside {dest index count : Nat} (inside : index < count) :
    dest ≤ dest + 2 * index ∧ dest + 2 * index < dest + 2 * count ∧
      (dest + 2 * index - dest) % 2 = 0 := by
  omega

/-- The units that were copied are those of the source. -/
theorem readUnits_copyUnits
    (units : Address → UInt16) (source dest : Address)
    {count copied : Nat} (fits : count ≤ copied) :
    readUnits (copyUnits units source dest copied) dest count =
      readUnits units source count := by
  unfold readUnits
  apply List.map_congr_left
  intro index member
  have inside := Nat.lt_of_lt_of_le (List.mem_range.mp member) fits
  rw [copyUnits, if_pos (unit_inside inside), Nat.add_sub_cancel_left]

theorem readUnits_writeUnits
    (units : Address → UInt16) (dest : Address) (values : List UInt16) :
    readUnits (writeUnits units dest values) dest values.length = values := by
  apply List.ext_getElem
  · exact length_readUnits _ _ _
  · intro index _ inside
    have placed := @unit_inside dest index _ inside
    simp only [readUnits, List.getElem_map, List.getElem_range]
    rw [writeUnits, if_pos ⟨placed.1, placed.2.2⟩, Nat.add_sub_cancel_left,
      Nat.mul_div_cancel_left index Nat.two_pos,
      List.getElem?_eq_getElem inside]
    rfl

theorem Utf16Of.bytes_unique
    {first second : List UInt8} {units : List UInt16}
    (ofFirst : Utf16Of first units) (ofSecond : Utf16Of second units) :
    first = second := by
  obtain ⟨firstText, rfl, firstUnits⟩ := ofFirst
  obtain ⟨secondText, rfl, secondUnits⟩ := ofSecond
  rw [Utf16.encode_injective (firstUnits.symm.trans secondUnits)]

/-! ## `create` -/

namespace WduUnicodeString

/-- The units that fit into the length of a string of `len` units. -/
theorem toUnicodeLen_half (len : Nat) :
    (toUnicodeLen len / 2).toNat = len % 0x8000 := by
  rw [toUnicodeLen, UInt16.toNat_div, UInt16.toNat_ofNat']
  simp only [UInt16.reduceToNat]
  omega

theorem toUnicodeLen_half_le (len : Nat) :
    (toUnicodeLen len / 2).toNat ≤ (toUnicodeLen len).toNat := by
  rw [UInt16.toNat_div]
  exact Nat.div_le_self _ _

theorem units_allocate
    (memory : Memory) (allocator : Allocator) (size : Nat)
    (answer : Address) :
    (memory.allocate allocator size answer).units = memory.units := by
  unfold Memory.allocate
  split <;> rfl

def TakesPool (poolType : PoolFlags) : Prop :=
  poolType = .poolFlagNonPaged ∨ poolType = .poolFlagPaged

theorem takesPool_poolType (tryNonPaged : Bool) :
    TakesPool (poolType tryNonPaged) := by
  cases tryNonPaged with
  | true => exact Or.inl rfl
  | false => exact Or.inr rfl

theorem takesPool_of_create
    {source : Slice} {poolType : PoolFlags} {answer : Address}
    {memory : Memory} {outcome : WduUnicodeResult WduUnicodeString × Memory}
    (returned : create source poolType answer memory = .ok outcome) :
    TakesPool poolType := by
  cases poolType with
  | poolFlagNonPaged => exact Or.inl rfl
  | poolFlagPaged => exact Or.inr rfl
  | _ => cases returned

theorem create_eq
    (source : Slice) {poolType : PoolFlags} (takes : TakesPool poolType)
    (answer : Address) (memory : Memory) :
    create source poolType answer memory =
      if answer = nullPtr then
        .ok (.error .insufficientResources,
          memory.allocate (.exPool stringAllocTag)
            (toUnicodeLen source.len).toNat answer)
      else
        .ok
          (.ok
            ⟨⟨toUnicodeLen source.len, toUnicodeLen source.len, answer⟩,
              some .pool⟩,
            { memory.allocate (.exPool stringAllocTag)
                (toUnicodeLen source.len).toNat answer with
              units :=
                copyUnits memory.units source.pointer answer
                  (toUnicodeLen source.len).toNat }) := by
  rcases takes with rfl | rfl <;> simp only [create, units_allocate]

theorem asSlice_create
    (source : Slice) (answer : Address) (memory after : Memory)
    (units :
      after.units =
        copyUnits memory.units source.pointer answer
          (toUnicodeLen source.len).toNat) :
    asSlice
        ⟨⟨toUnicodeLen source.len, toUnicodeLen source.len, answer⟩,
          some .pool⟩ after =
      readUnits memory.units source.pointer (source.len % 0x8000) := by
  simp only [asSlice, len, units]
  rw [readUnits_copyUnits _ _ _ (toUnicodeLen_half_le source.len),
    toUnicodeLen_half]

/-! ## Lossless conversions -/

/-- The conversion returns, with an error or with a string whose units are
`complete`. -/
def Lossless
    (outcome : Except Panic (WduUnicodeResult WduUnicodeString × Memory))
    (complete : WduUnicodeString → Memory → Prop) : Prop :=
  ∃ result after,
    outcome = .ok (result, after) ∧
      ∀ string, result = .ok string → complete string after

theorem lossless_ok_iff
    {result : WduUnicodeResult WduUnicodeString} {after : Memory}
    {complete : WduUnicodeString → Memory → Prop} :
    Lossless (.ok (result, after)) complete ↔
      ∀ string, result = .ok string → complete string after := by
  constructor
  · intro given
    obtain ⟨_, _, ⟨⟩, lossless⟩ := given
    exact lossless
  · intro lossless
    exact ⟨result, after, rfl, lossless⟩

theorem readUnits_eq_iff
    (units : Address → UInt16) (buffer : Address) (len : Nat) :
    readUnits units buffer (len % 0x8000) = readUnits units buffer len ↔
      len < 0x8000 := by
  constructor
  · intro equal
    have lengths := congrArg List.length equal
    rw [length_readUnits, length_readUnits] at lengths
    omega
  · intro small
    rw [Nat.mod_eq_of_lt small]

/-- `create` is lossless exactly when the length is not cut or there is no
memory. -/
theorem lossless_create_iff
    (source : Slice) (tryNonPaged : Bool) (answer : Address)
    (memory : Memory) :
    Lossless (create source (poolType tryNonPaged) answer memory)
        (fun string after => string.asSlice after = source.units memory) ↔
      source.len < 0x8000 ∨ answer = nullPtr := by
  rw [create_eq source (takesPool_poolType tryNonPaged)]
  by_cases null : answer = nullPtr
  · rw [if_pos null]
    refine ⟨fun _ => Or.inr null, fun _ => ?_⟩
    apply lossless_ok_iff.mpr
    intro string returned
    cases returned
  · rw [if_neg null]
    apply lossless_ok_iff.trans
    simp only [Except.ok.injEq, forall_eq', null, or_false]
    rw [asSlice_create source answer memory _ rfl, Slice.units,
      readUnits_eq_iff]

theorem units_drop (vec : Vec16) (memory : Memory) :
    (vec.drop memory).units = memory.units := by
  unfold Vec16.drop
  split <;> rfl

/-- Dropping the vector that the units came from changes no unit. -/
theorem lossless_createFrom_iff
    (value : Vec16) (poolType : PoolFlags) (answer : Address)
    (memory : Memory) (expected : List UInt16) :
    Lossless (createFrom value poolType answer memory)
        (fun string after => string.asSlice after = expected) ↔
      Lossless (create value.asSlice poolType answer memory)
        (fun string after => string.asSlice after = expected) := by
  unfold createFrom
  cases create value.asSlice poolType answer memory with
  | error panic =>
      constructor <;> rintro ⟨_, _, ⟨⟩, _⟩
  | ok outcome =>
      refine lossless_ok_iff.trans (Iff.trans ?_ lossless_ok_iff.symm)
      simp only [asSlice, units_drop]

theorem lossless_vec_iff
    (value : Vec16) (tryNonPaged : Bool) (answer : Address)
    (memory : Memory) :
    Lossless (tryFromVec tryNonPaged value answer memory)
        (fun string after =>
          string.asSlice after = value.asSlice.units memory) ↔
      value.len < 0x8000 ∨ answer = nullPtr :=
  (lossless_createFrom_iff value _ answer memory _).trans
    (lossless_create_iff value.asSlice tryNonPaged answer memory)

/-! ### Rust strings -/

/-- A string with the units of a text displays that text. -/
theorem display_of_asSlice
    {string : WduUnicodeString} {memory : Memory} {text : String}
    (units : string.asSlice memory = Utf16.encode text.toList) :
    string.display memory = text := by
  rw [display, units, Utf16.decode_encode, String.ofList_toList]

theorem lossless_display_iff
    (outcome : Except Panic (WduUnicodeResult WduUnicodeString × Memory))
    (text : String) :
    Lossless outcome
        (fun string after =>
          string.asSlice after = Utf16.encode text.toList ∧
            string.display after = text) ↔
      Lossless outcome
        (fun string after =>
          string.asSlice after = Utf16.encode text.toList) := by
  constructor
  · intro given
    obtain ⟨result, after, returned, complete⟩ := given
    exact
      ⟨result, after, returned, fun string made => (complete string made).1⟩
  · intro given
    obtain ⟨result, after, returned, complete⟩ := given
    refine ⟨result, after, returned, fun string made => ?_⟩
    have units := complete string made
    exact ⟨units, display_of_asSlice units⟩

theorem units_extendBuffer
    (values : List UInt16) (vecAnswer : Address) (memory : Memory) :
    Slice.units ⟨vecAnswer, values.length⟩
        (extendBuffer values vecAnswer memory) =
      values :=
  readUnits_writeUnits _ vecAnswer values

theorem lossless_fromStr_iff
    (s : String) (tryNonPaged : Bool) (vecAnswer answer : Address)
    (memory : Memory) :
    Lossless (fromStr tryNonPaged s vecAnswer answer memory)
        (fun string after =>
          string.asSlice after = Utf16.encode s.toList ∧
            string.display after = s) ↔
      (Utf16.encode s.toList).length < 0x8000 ∨ answer = nullPtr ∨
        (Utf16.encode s.toList ≠ [] ∧ vecAnswer = nullPtr) := by
  rw [lossless_display_iff, fromStr, tryFromStr]
  generalize Utf16.encode s.toList = units
  have nonempty : units.length * 2 ≠ 0 ↔ units ≠ [] := by
    rw [ne_eq, Nat.mul_eq_zero, List.length_eq_zero_iff]
    simp
  by_cases refused : units ≠ [] ∧ vecAnswer = nullPtr
  · rw [if_pos ⟨nonempty.mpr refused.1, refused.2⟩]
    refine ⟨fun _ => Or.inr (Or.inr refused), fun _ => ?_⟩
    apply lossless_ok_iff.mpr
    intro string returned
    cases returned
  · rw [if_neg fun both => refused ⟨nonempty.mp both.1, both.2⟩,
      lossless_createFrom_iff]
    have created :=
      lossless_create_iff ⟨vecAnswer, units.length⟩ tryNonPaged answer
        (extendBuffer units vecAnswer memory)
    rw [units_extendBuffer] at created
    apply created.trans
    simp only [refused, or_false]

/-! ### UTF-8 -/

theorem length_toldBytes (source : List UInt8) :
    (toldBytes source).length = source.length % 0x10000 := by
  rw [toldBytes, List.length_take, UInt16.toNat_ofNat']
  exact Nat.min_eq_left (Nat.mod_le _ _)

theorem toldBytes_of_lt {source : List UInt8}
    (short : source.length < 0x10000) :
    toldBytes source = source := by
  rw [toldBytes, UInt16.toNat_ofNat', Nat.mod_eq_of_lt short,
    List.take_length]

/-- The units of the bytes that the kernel is told about are those of all
bytes exactly when the length is not cut. -/
theorem utf16Of_told_iff {source : List UInt8} {units : List UInt16}
    (told : Utf16Of (toldBytes source) units) :
    Utf16Of source units ↔ source.length < 0x10000 := by
  constructor
  · intro complete
    have lengths := congrArg List.length (complete.bytes_unique told)
    rw [length_toldBytes] at lengths
    omega
  · intro short
    rwa [toldBytes_of_lt short] at told

theorem units_memoryAfter (answer : KernelString) (memory : Memory) :
    (answer.memoryAfter memory).units = answer.units := by
  unfold KernelString.memoryAfter
  split
  · exact units_allocate _ _ _ _
  · rfl

theorem lossless_bytes_iff
    (value : List UInt8) (kernel : ∀ told : List UInt8, Utf8Answer told)
    (memory : Memory) :
    Lossless (.ok (tryFromBytes value kernel memory))
        (fun string after => Utf16Of value (string.asSlice after)) ↔
      value.length < 0x10000 ∨
        (kernel (toldBytes value)).status ≠ statusSuccess := by
  unfold tryFromBytes tryFromUtf8 fromKernel
  by_cases failed : (kernel (toldBytes value)).status ≠ statusSuccess
  · rw [if_pos failed]
    refine ⟨fun _ => Or.inr failed, fun _ => ?_⟩
    apply lossless_ok_iff.mpr
    intro string returned
    cases returned
  · rw [if_neg failed]
    apply lossless_ok_iff.trans
    have told := (kernel (toldBytes value)).exact (not_not.mp failed)
    simp only [Except.ok.injEq, forall_eq', failed, or_false, asSlice, len,
      units_memoryAfter]
    exact utf16Of_told_iff told

end WduUnicodeString

/-! ## All sources -/

inductive Source where
  | slice (value : Slice)
  | vec (value : Vec16)
  | utf16Str (value : Utf16Str)
  | u16CStr (value : U16CStr)
  | unicodeStr (value : WduUnicodeStr)
  | fromStr (value : String)
  | str (value : String)
  | bytes (value : List UInt8)

/-- What the allocators and the kernel answer to one conversion. -/
structure Answers where
  vec : Address
  pool : Address
  kernel : ∀ told : List UInt8, Utf8Answer told

namespace Source

def convert (source : Source) (tryNonPaged : Bool) (answers : Answers)
    (memory : Memory) :
    Except Panic (WduUnicodeResult WduUnicodeString × Memory) :=
  match source with
  | slice value =>
      WduUnicodeString.tryFromSlice tryNonPaged value answers.pool memory
  | vec value =>
      WduUnicodeString.tryFromVec tryNonPaged value answers.pool memory
  | utf16Str value =>
      WduUnicodeString.tryFromUtf16Str tryNonPaged value answers.pool memory
  | u16CStr value =>
      WduUnicodeString.tryFromU16CStr tryNonPaged value answers.pool memory
  | unicodeStr value => value.toOwned tryNonPaged answers.pool memory
  | fromStr value =>
      WduUnicodeString.fromStr tryNonPaged value answers.vec answers.pool
        memory
  | str value =>
      WduUnicodeString.tryFromStrRef tryNonPaged value answers.vec
        answers.pool memory
  | bytes value =>
      .ok (WduUnicodeString.tryFromBytes value answers.kernel memory)

/-- The string has all units of the source, which lay in `memory` when the
conversion began; a string of a text also displays that text. -/
def Complete (source : Source) (memory : Memory)
    (string : WduUnicodeString) (after : Memory) : Prop :=
  match source with
  | slice value => string.asSlice after = value.units memory
  | vec value => string.asSlice after = value.asSlice.units memory
  | utf16Str value => string.asSlice after = value.asSlice.units memory
  | u16CStr value => string.asSlice after = value.asSlice.units memory
  | unicodeStr value => string.asSlice after = value.slice.units memory
  | fromStr value | str value =>
      string.asSlice after = Utf16.encode value.toList ∧
        string.display after = value
  | bytes value => Utf16Of value (string.asSlice after)

/-- The length that the conversion cuts to 16 bits fits, or the conversion
fails before it returns a string. -/
def Fits (source : Source) (answers : Answers) : Prop :=
  match source with
  | slice value => value.len < 0x8000 ∨ answers.pool = nullPtr
  | vec value => value.len < 0x8000 ∨ answers.pool = nullPtr
  | utf16Str value =>
      value.asSlice.len < 0x8000 ∨ answers.pool = nullPtr
  | u16CStr value => value.asSlice.len < 0x8000 ∨ answers.pool = nullPtr
  | unicodeStr value => value.slice.len < 0x8000 ∨ answers.pool = nullPtr
  | fromStr value | str value =>
      (Utf16.encode value.toList).length < 0x8000 ∨
        answers.pool = nullPtr ∨
        (Utf16.encode value.toList ≠ [] ∧ answers.vec = nullPtr)
  | bytes value =>
      value.length < 0x10000 ∨
        (answers.kernel (WduUnicodeString.toldBytes value)).status ≠
          statusSuccess

end Source

/-- A conversion fails or returns the whole source exactly when the source
fits. -/
theorem conversions_lossless_iff
    (source : Source) (tryNonPaged : Bool) (answers : Answers)
    (memory : Memory) :
    WduUnicodeString.Lossless (source.convert tryNonPaged answers memory)
        (source.Complete memory) ↔
      source.Fits answers := by
  cases source with
  | slice value =>
      exact WduUnicodeString.lossless_create_iff value _ _ _
  | vec value =>
      exact WduUnicodeString.lossless_vec_iff value _ _ _
  | utf16Str value =>
      exact WduUnicodeString.lossless_create_iff value.asSlice _ _ _
  | u16CStr value =>
      exact WduUnicodeString.lossless_create_iff value.asSlice _ _ _
  | unicodeStr value =>
      exact WduUnicodeString.lossless_create_iff value.slice _ _ _
  | fromStr value =>
      exact WduUnicodeString.lossless_fromStr_iff value _ _ _ _
  | str value =>
      exact WduUnicodeString.lossless_fromStr_iff value _ _ _ _
  | bytes value =>
      exact WduUnicodeString.lossless_bytes_iff value _ _

def noStrings (told : List UInt8) : Utf8Answer told where
  status := statusNoMemory
  string := ⟨0, 0, nullPtr⟩
  units := fun _ => 0
  exact := fun success => absurd success (by decide)

def poolOnly : Answers := ⟨nullPtr, 0x20000, noStrings⟩

def filledMemory : Memory := ⟨fun _ => 0x41, fun _ => 0, Ledger.empty⟩

/-- 32768 units, so 65536 bytes. -/
def longSlice : Slice := ⟨0x1000, 0x8000⟩

/-- The conversion of `longSlice` returns the empty string. -/
theorem longSlice_convertsToEmpty :
    (∃ string after,
        (Source.slice longSlice).convert false poolOnly filledMemory =
            .ok (.ok string, after) ∧
          string.asSlice after = []) ∧
      ¬ WduUnicodeString.Lossless
          ((Source.slice longSlice).convert false poolOnly filledMemory)
          ((Source.slice longSlice).Complete filledMemory) := by
  refine ⟨⟨_, _, rfl, rfl⟩, fun lossless => ?_⟩
  have fits :=
    (WduUnicodeString.lossless_create_iff longSlice false 0x20000
      filledMemory).mp lossless
  exact absurd fits (by decide)

end WinDrvUtils

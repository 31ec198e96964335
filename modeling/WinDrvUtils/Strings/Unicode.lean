import WinDrvUtils.Nt
import WinDrvUtils.Library.Ledger
import WinDrvUtils.Library.Utf16

/-!
# Unicode strings

`WduUnicodeString` is a `UNICODE_STRING` together with the allocator that its
buffer came from. Memory has two sides: the 16-bit units at each address, and
a ledger of the blocks that were allocated for strings. A block is the token
of that ledger, with the allocator it came from, so a release through another
deallocator is of a block that does not exist.

Addresses count bytes; the lengths of a `UNICODE_STRING` do too, and have 16
bits. What an allocator or the kernel answers is an argument of each
constructor.
-/

namespace WinDrvUtils

structure UnicodeString where
  length : UInt16
  maximumLength : UInt16
  buffer : Address
  deriving DecidableEq, Repr

inductive WduUnicodeError where
  | invalid
  | createError
  | insufficientResources
  | ntStatus (status : NTSTATUS)
  deriving DecidableEq, Repr

abbrev WduUnicodeResult (α : Type) := Except WduUnicodeError α

inductive PoolFlags where
  | poolFlagUninit
  | poolFlagCacheAligned
  | poolFlagNonPaged
  | poolFlagNonPagedExecute
  | poolFlagPaged
  deriving DecidableEq, Repr

/-! ## Memory -/

/-- `ExAllocatePool2` with a tag, the buffers that kernel routines allocate
for strings, and the global allocator. -/
inductive Allocator where
  | exPool (tag : UInt32)
  | rtl
  | rust
  deriving DecidableEq, Repr

structure Block where
  address : Address
  allocator : Allocator
  deriving DecidableEq, Repr

/-- `sizes` has the bytes that were asked for the block at an address. -/
structure Memory where
  units : Address → UInt16
  sizes : Address → Nat
  blocks : Ledger Block

def readUnits (units : Address → UInt16) (buffer : Address) (count : Nat) :
    List UInt16 :=
  (List.range count).map fun index => units (buffer + 2 * index)

/-- `core::ptr::copy` of `count` units. -/
def copyUnits (units : Address → UInt16) (source dest : Address)
    (count : Nat) : Address → UInt16 := fun address =>
  if dest ≤ address ∧ address < dest + 2 * count ∧
      (address - dest) % 2 = 0 then
    units (source + (address - dest))
  else units address

def writeUnits (units : Address → UInt16) (dest : Address)
    (values : List UInt16) : Address → UInt16 := fun address =>
  if dest ≤ address ∧ (address - dest) % 2 = 0 then
    (values[(address - dest) / 2]?).getD (units address)
  else units address

namespace Memory

/-- The answer of an allocator; null is a refusal. -/
def allocate (memory : Memory) (allocator : Allocator) (size : Nat)
    (answer : Address) : Memory :=
  if answer = nullPtr then memory
  else
    { memory with
      sizes := Function.update memory.sizes answer size
      blocks := memory.blocks.issue ⟨answer, allocator⟩ }

def free (memory : Memory) (allocator : Allocator) (pointer : Address) :
    Memory :=
  { memory with blocks := memory.blocks.release ⟨pointer, allocator⟩ }

end Memory

structure Slice where
  pointer : Address
  len : Nat
  deriving DecidableEq, Repr

def Slice.units (slice : Slice) (memory : Memory) : List UInt16 :=
  readUnits memory.units slice.pointer slice.len

/-- `Vec<u16>`; a vector with no capacity has no block. -/
structure Vec16 where
  pointer : Address
  len : Nat
  capacity : Nat
  deriving DecidableEq, Repr

def Vec16.asSlice (vec : Vec16) : Slice :=
  ⟨vec.pointer, vec.len⟩

/-- A `Utf16Str` of `widestring`: a slice of valid UTF-16. -/
structure Utf16Str where
  inner : Slice
  deriving DecidableEq, Repr

def Utf16Str.asSlice (value : Utf16Str) : Slice := value.inner

/-- A `U16CStr` of `widestring`, with its nul; `as_slice` leaves that out. -/
structure U16CStr where
  inner : Slice
  deriving DecidableEq, Repr

def U16CStr.asSlice (value : U16CStr) : Slice :=
  ⟨value.inner.pointer, value.inner.len - 1⟩

def Vec16.drop (vec : Vec16) (memory : Memory) : Memory :=
  if vec.capacity = 0 then memory else memory.free .rust vec.pointer

/-! ## Kernel routines -/

/-- What a routine that allocates a string answers. `units` is memory when it
returns. -/
structure KernelString where
  status : NTSTATUS
  string : UnicodeString
  units : Address → UInt16

/-- The memory after such a routine: it has allocated the buffer when it
succeeds. -/
def KernelString.memoryAfter (answer : KernelString) (memory : Memory) :
    Memory :=
  let memory := { memory with units := answer.units }
  if ntSuccess answer.status then
    memory.allocate .rtl answer.string.maximumLength.toNat
      answer.string.buffer
  else memory

/-- The text that UTF-8 bytes encode, in units. -/
def Utf16Of (bytes : List UInt8) (units : List UInt16) : Prop :=
  ∃ text : List Char,
    bytes = text.flatMap String.utf8EncodeChar ∧ units = Utf16.encode text

/-- An answer of `RtlUTF8StringToUnicodeString`: when it is plain success, all
the bytes that the routine was told about have been converted. -/
structure Utf8Answer (told : List UInt8) extends KernelString where
  exact :
    status = statusSuccess →
      Utf16Of told
        (readUnits units string.buffer (string.length / 2).toNat)

/-- What `RtlIntegerToUnicodeString` and `RtlInt64ToUnicodeString` leave in a
string that has a buffer. -/
structure IntegerAnswer where
  status : NTSTATUS
  length : UInt16
  units : Address → UInt16

/-- `RtlCopyUnicodeString`: as much of the source as the destination has room
for, and a nul behind it if there is room for that too. -/
def rtlCopyUnicodeString (dest source : UnicodeString) (memory : Memory) :
    UnicodeString × Memory :=
  let bytes := min source.length dest.maximumLength
  let units :=
    copyUnits memory.units source.buffer dest.buffer (bytes / 2).toNat
  ({ dest with length := bytes },
    { memory with
      units :=
        if bytes.toNat + 2 ≤ dest.maximumLength.toNat then
          writeUnits units (dest.buffer + 2 * (bytes / 2).toNat) [0]
        else units })

/-- `RtlFreeUnicodeString` ignores a string without a buffer. -/
def rtlFreeUnicodeString (string : UnicodeString) (memory : Memory) :
    Memory :=
  if string.buffer = nullPtr then memory
  else memory.free .rtl string.buffer

/-! ## `WduUnicodeString` -/

inductive AllocType where
  | os
  | rust
  | pool
  deriving DecidableEq, Repr

structure WduUnicodeString where
  string : UnicodeString
  alloc : Option AllocType
  deriving DecidableEq, Repr

def maxLenU32String : UInt16 := 0x15

def maxLenU64String : UInt16 := 0x30

/-- `u32::from_ne_bytes(*b"WDUs")` -/
def stringAllocTag : UInt32 := 0x73554457

/-- `POOL_TYPE`, which the feature `try_non_paged` decides. -/
def poolType (tryNonPaged : Bool) : PoolFlags :=
  if tryNonPaged then .poolFlagNonPaged else .poolFlagPaged

namespace WduUnicodeString

def default : WduUnicodeString :=
  ⟨⟨0, 0, nullPtr⟩, none⟩

/-- A length in units as one in bytes, cut to 16 bits. -/
def toUnicodeLen (len : Nat) : UInt16 :=
  UInt16.ofNat (len * 2)

def len (string : WduUnicodeString) : UInt16 :=
  string.string.length / 2

def bytes (string : WduUnicodeString) : UInt16 :=
  string.string.length

def capacity (string : WduUnicodeString) : UInt16 :=
  string.string.maximumLength

/-- `from_raw_parts` does not allow a null buffer, not even for no units.
What Rust makes of one is left open: it is read like any other address. -/
def asSlice (string : WduUnicodeString) (memory : Memory) : List UInt16 :=
  readUnits memory.units string.string.buffer string.len.toNat

def display (string : WduUnicodeString) (memory : Memory) : String :=
  String.ofList (Utf16.decode (string.asSlice memory))

def freeBuffer (pointer : Address) (memory : Memory) : Memory :=
  memory.free (.exPool stringAllocTag) pointer

def drop (string : WduUnicodeString) (memory : Memory) : Memory :=
  match string.alloc with
  | none => memory
  | some .os => rtlFreeUnicodeString string.string memory
  | some .rust => memory.free .rust string.string.buffer
  | some .pool => freeBuffer string.string.buffer memory

/-- `wrap`; the source may be null. -/
def wrap (source : Option UnicodeString) : WduUnicodeString :=
  match source with
  | none => default
  | some source => ⟨source, none⟩

/-- The copy counts units, and `len` counts bytes. -/
def create (source : Slice) (poolType : PoolFlags) (answer : Address)
    (memory : Memory) :
    Except Panic (WduUnicodeResult WduUnicodeString × Memory) :=
  let len := toUnicodeLen source.len
  let allocated :=
    match poolType with
    | .poolFlagNonPaged =>
        some (memory.allocate (.exPool stringAllocTag) len.toNat answer)
    | .poolFlagPaged =>
        some (memory.allocate (.exPool stringAllocTag) len.toNat answer)
    | _ => none
  match allocated with
  | none =>
      .error (.explicit
        "Invalid PoolFlags for WduUnicodeString allocation")
  | some memory =>
      if answer = nullPtr then .ok (.error .insufficientResources, memory)
      else
        .ok
          (.ok ⟨⟨len, len, answer⟩, some .pool⟩,
            { memory with
              units :=
                copyUnits memory.units source.pointer answer len.toNat })

/-- The rest of a constructor that lets a kernel routine allocate. The string
that it drops when it fails has no `alloc`. -/
def fromKernel (answer : KernelString) (memory : Memory) :
    WduUnicodeResult WduUnicodeString × Memory :=
  let memory := answer.memoryAfter memory
  if answer.status ≠ statusSuccess then
    (.error (.ntStatus answer.status), memory)
  else (.ok ⟨answer.string, some .os⟩, memory)

/-- The bytes that `STRING.Length` tells the kernel about. -/
def toldBytes (source : List UInt8) : List UInt8 :=
  source.take (UInt16.ofNat source.length).toNat

def tryFromUtf8 (source : List UInt8)
    (kernel : ∀ told : List UInt8, Utf8Answer told) (memory : Memory) :
    WduUnicodeResult WduUnicodeString × Memory :=
  fromKernel (kernel (toldBytes source)).toKernelString memory

/-- `create` from a vector that is dropped afterwards. -/
def createFrom (value : Vec16) (poolType : PoolFlags) (answer : Address)
    (memory : Memory) :
    Except Panic (WduUnicodeResult WduUnicodeString × Memory) :=
  match create value.asSlice poolType answer memory with
  | .error panic => .error panic
  | .ok (result, memory) => .ok (result, value.drop memory)

/-- Memory once `try_from_str` has reserved its buffer and extended it. A
block is asked for only if there is something to reserve. -/
def extendBuffer (units : List UInt16) (vecAnswer : Address)
    (memory : Memory) : Memory :=
  let memory :=
    if units.length * 2 = 0 then memory
    else memory.allocate .rust (units.length * 2 * 2) vecAnswer
  { memory with units := writeUnits memory.units vecAnswer units }

/-- `vecAnswer` is the block for the vector. -/
def tryFromStr (source : String) (poolType : PoolFlags)
    (vecAnswer answer : Address) (memory : Memory) :
    Except Panic (WduUnicodeResult WduUnicodeString × Memory) :=
  let units := Utf16.encode source.toList
  let u16Size := units.length * 2
  if u16Size ≠ 0 ∧ vecAnswer = nullPtr then
    .ok (.error .insufficientResources, memory)
  else
    let buffer : Vec16 := ⟨vecAnswer, units.length, u16Size⟩
    createFrom buffer poolType answer (extendBuffer units vecAnswer memory)

/-! ### Conversions -/

/-- `TryFrom<&[u16]>` -/
def tryFromSlice (tryNonPaged : Bool) (value : Slice) (answer : Address)
    (memory : Memory) :
    Except Panic (WduUnicodeResult WduUnicodeString × Memory) :=
  create value (poolType tryNonPaged) answer memory

/-- `TryFrom<Vec<u16>>`, which drops the vector. -/
def tryFromVec (tryNonPaged : Bool) (value : Vec16) (answer : Address)
    (memory : Memory) :
    Except Panic (WduUnicodeResult WduUnicodeString × Memory) :=
  createFrom value (poolType tryNonPaged) answer memory

/-- `TryFrom<&Utf16Str>` -/
def tryFromUtf16Str (tryNonPaged : Bool) (value : Utf16Str)
    (answer : Address) (memory : Memory) :
    Except Panic (WduUnicodeResult WduUnicodeString × Memory) :=
  create value.asSlice (poolType tryNonPaged) answer memory

/-- `TryFrom<&U16CStr>` -/
def tryFromU16CStr (tryNonPaged : Bool) (value : U16CStr)
    (answer : Address) (memory : Memory) :
    Except Panic (WduUnicodeResult WduUnicodeString × Memory) :=
  create value.asSlice (poolType tryNonPaged) answer memory

/-- `FromStr` -/
def fromStr (tryNonPaged : Bool) (s : String) (vecAnswer answer : Address)
    (memory : Memory) :
    Except Panic (WduUnicodeResult WduUnicodeString × Memory) :=
  tryFromStr s (poolType tryNonPaged) vecAnswer answer memory

/-- `TryFrom<&str>` -/
def tryFromStrRef (tryNonPaged : Bool) (value : String)
    (vecAnswer answer : Address) (memory : Memory) :
    Except Panic (WduUnicodeResult WduUnicodeString × Memory) :=
  fromStr tryNonPaged value vecAnswer answer memory

/-- `TryFrom<&[u8]>` -/
def tryFromBytes (value : List UInt8)
    (kernel : ∀ told : List UInt8, Utf8Answer told) (memory : Memory) :
    WduUnicodeResult WduUnicodeString × Memory :=
  tryFromUtf8 value kernel memory

/-! ### The other constructors -/

/-- `try_from_u32` and `try_from_u64`, which differ in the length of the
buffer and in the kernel routine. -/
def tryFromInteger (maxLen : UInt16) (answer : Address)
    (integer : IntegerAnswer) (memory : Memory) :
    WduUnicodeResult WduUnicodeString × Memory :=
  let memory :=
    memory.allocate (.exPool stringAllocTag) maxLen.toNat answer
  if answer = nullPtr then (.error .insufficientResources, memory)
  else
    let string : WduUnicodeString :=
      ⟨⟨integer.length, maxLen, answer⟩, some .pool⟩
    let memory := { memory with units := integer.units }
    if integer.status ≠ statusSuccess then
      (.error (.ntStatus integer.status), string.drop memory)
    else (.ok string, memory)

def tryFromU32 (answer : Address) (integer : IntegerAnswer)
    (memory : Memory) : WduUnicodeResult WduUnicodeString × Memory :=
  tryFromInteger maxLenU32String answer integer memory

def tryFromU64 (answer : Address) (integer : IntegerAnswer)
    (memory : Memory) : WduUnicodeResult WduUnicodeString × Memory :=
  tryFromInteger maxLenU64String answer integer memory

/-- `size_of::<Vec<u16>>()` for 64 bits -/
def sizeOfVec : Nat := 24

/-- `copy`: a vector of zeros, moved into a box. The buffer of the copy is
the address of the box, which holds the vector's header. -/
def copy (source : WduUnicodeString) (vecAnswer boxAnswer : Address)
    (memory : Memory) : Except Panic (WduUnicodeString × Memory) :=
  if (source.len ≠ 0 ∧ vecAnswer = nullPtr) ∨ boxAnswer = nullPtr then
    .error .allocError
  else
    let memory :=
      if source.len = 0 then memory
      else
        { memory.allocate .rust (source.len.toNat * 2) vecAnswer with
          units :=
            writeUnits memory.units vecAnswer
              (List.replicate source.len.toNat 0) }
    let memory := memory.allocate .rust sizeOfVec boxAnswer
    let dest : UnicodeString := ⟨source.bytes, source.capacity, boxAnswer⟩
    let (dest, memory) := rtlCopyUnicodeString dest source.string memory
    .ok (⟨dest, some .rust⟩, memory)

def clone (source : WduUnicodeString) (vecAnswer boxAnswer : Address)
    (memory : Memory) : Except Panic (WduUnicodeString × Memory) :=
  source.copy vecAnswer boxAnswer memory

/-- The wrapped source is dropped again, which releases nothing. -/
def new (source : UnicodeString) (vecAnswer boxAnswer : Address)
    (memory : Memory) : Except Panic (WduUnicodeString × Memory) :=
  match (wrap (some source)).clone vecAnswer boxAnswer memory with
  | .error panic => .error panic
  | .ok (string, memory) => .ok (string, (wrap (some source)).drop memory)

/-- The answer to `RtlDuplicateUnicodeString` depends on the source and the
flags. -/
def duplicate (answer : KernelString) (memory : Memory) :
    WduUnicodeResult WduUnicodeString × Memory :=
  fromKernel answer memory

/-- With `RtlDowncaseUnicodeString` -/
def newLower (answer : KernelString) (memory : Memory) :
    WduUnicodeResult WduUnicodeString × Memory :=
  fromKernel answer memory

/-- With `RtlUpcaseUnicodeString` -/
def newUpper (answer : KernelString) (memory : Memory) :
    WduUnicodeResult WduUnicodeString × Memory :=
  fromKernel answer memory

end WduUnicodeString

structure WduUnicodeStr where
  slice : Slice
  deriving DecidableEq, Repr

def WduUnicodeStr.toOwned (tryNonPaged : Bool) (str : WduUnicodeStr)
    (answer : Address) (memory : Memory) :
    Except Panic (WduUnicodeResult WduUnicodeString × Memory) :=
  WduUnicodeString.tryFromSlice tryNonPaged str.slice answer memory

end WinDrvUtils

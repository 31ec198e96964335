import WinDrvUtils.Io.Irp
import WinDrvUtils.Memory.Mdl
import WinDrvUtils.Library.LittleEndian

/-!
# Device control requests

`WduDeviceControl::new` reads the parameters of the current stack location as
four words of 64 bits. In the layout of the WDK the two lengths and the code
have 32 bits, and four bytes of padding follow each of them. The code is cut
back to 32 bits, the lengths are not.

The macro `encode_ioctl!` builds the codes that drivers match on, and the
lower two bits of a code choose the buffers of the request.
-/

namespace WinDrvUtils

/-! ## The parameter block -/

/-- `Parameters` of a stack location. -/
structure ParameterBlock where
  bytes : List UInt8
  size : bytes.length = 32

namespace ParameterBlock

def slice (block : ParameterBlock) (offset length : Nat) : List UInt8 :=
  (block.bytes.drop offset).take length

def word (block : ParameterBlock) (offset length : Nat) : Nat :=
  LittleEndian.ofBytes (block.slice offset length)

/-! ## The layout of the WDK -/

def outputBufferLength (block : ParameterBlock) : UInt32 :=
  UInt32.ofNat (block.word 0 4)

def inputBufferLength (block : ParameterBlock) : UInt32 :=
  UInt32.ofNat (block.word 8 4)

def ioControlCode (block : ParameterBlock) : UInt32 :=
  UInt32.ofNat (block.word 16 4)

def type3InputBuffer (block : ParameterBlock) : Address :=
  block.word 24 8

/-- The offsets that belong to no field. -/
def padding : List Nat :=
  [4, 5, 6, 7, 12, 13, 14, 15, 20, 21, 22, 23]

/-- The padding behind the two lengths. -/
def lengthPadding (block : ParameterBlock) : List UInt8 :=
  block.slice 4 4 ++ block.slice 12 4

def set (block : ParameterBlock) (offset : Nat) (byte : UInt8) :
    ParameterBlock where
  bytes := block.bytes.set offset byte
  size := by simp [block.size]

def AgreeOffPadding (first second : ParameterBlock) : Prop :=
  ∀ offset, offset ∉ padding → first.bytes[offset]? = second.bytes[offset]?

theorem slice_length
    (block : ParameterBlock) {offset length : Nat}
    (inside : offset + length ≤ 32) :
    (block.slice offset length).length = length := by
  have size := block.size
  simp only [slice, List.length_take, List.length_drop]
  omega

theorem slice_add (block : ParameterBlock) (offset low high : Nat) :
    block.slice offset (low + high) =
      block.slice offset low ++ block.slice (offset + low) high := by
  simp [slice, List.take_add]

theorem word_lt
    (block : ParameterBlock) {offset length : Nat}
    (inside : offset + length ≤ 32) :
    block.word offset length < 256 ^ length := by
  have bound := LittleEndian.ofBytes_lt (block.slice offset length)
  rwa [block.slice_length inside] at bound

/-- A word of eight bytes is the word of the lower four exactly when the upper
four are clear. -/
theorem word_eight_eq_iff (block : ParameterBlock) (offset : Nat) :
    block.word offset 8 = block.word offset 4 ↔
      ∀ byte ∈ block.slice (offset + 4) 4, byte = 0 := by
  unfold word
  rw [block.slice_add offset 4 4]
  exact LittleEndian.ofBytes_append_eq_iff _ _

/-- Cutting a word of eight bytes back leaves the word of the lower four. -/
theorem word_eight_toUInt32
    (block : ParameterBlock) {offset : Nat} (inside : offset + 4 ≤ 32) :
    UInt32.ofNat (block.word offset 8) =
      UInt32.ofNat (block.word offset 4) := by
  have length := block.slice_length inside
  apply UInt32.toNat_inj.mp
  unfold word
  rw [block.slice_add offset 4 4, LittleEndian.ofBytes_append, length]
  simp only [UInt32.toNat_ofNat']
  omega

theorem word_four_toNat
    (block : ParameterBlock) {offset : Nat} (inside : offset + 4 ≤ 32) :
    (UInt32.ofNat (block.word offset 4)).toNat = block.word offset 4 := by
  have bound := block.word_lt inside
  rw [UInt32.toNat_ofNat']
  exact Nat.mod_eq_of_lt bound

/-- A field of 32 bits is the word of eight bytes at its place exactly when
what follows it is clear. -/
theorem word_eight_eq_field_iff
    (block : ParameterBlock) {offset : Nat} (inside : offset + 4 ≤ 32) :
    block.word offset 8 = (UInt32.ofNat (block.word offset 4)).toNat ↔
      ∀ byte ∈ block.slice (offset + 4) 4, byte = 0 := by
  rw [block.word_four_toNat inside]
  exact block.word_eight_eq_iff offset

theorem word_eq_iff
    (first second : ParameterBlock) {offset length : Nat}
    (inside : offset + length ≤ 32) :
    first.word offset length = second.word offset length ↔
      first.slice offset length = second.slice offset length := by
  apply LittleEndian.ofBytes_inj
  rw [first.slice_length inside, second.slice_length inside]

theorem AgreeOffPadding.slice_eq
    {first second : ParameterBlock} (agree : AgreeOffPadding first second)
    (offset length : Nat)
    (fields : ∀ index < length, offset + index ∉ padding) :
    first.slice offset length = second.slice offset length := by
  apply List.ext_getElem?
  intro index
  by_cases within : index < length
  · have same := agree (offset + index) (fields index within)
    simpa [slice, List.getElem?_take, within] using same
  · simp [slice, within]

theorem agreeOffPadding_set
    (block : ParameterBlock) {offset : Nat} (padded : offset ∈ padding)
    (byte : UInt8) :
    block.AgreeOffPadding (block.set offset byte) := by
  intro index field
  have other : offset ≠ index := by
    rintro rfl
    exact field padded
  simp [set, List.getElem?_set_ne other]

end ParameterBlock

/-! ## The request -/

/-- `DeviceIoControlRaw`, with a `usize` for each field but the pointer. -/
structure DeviceIoControlRaw where
  outputBufferLength : Nat
  inputBufferLength : Nat
  ioControlCode : Nat
  type3InputBuffer : Address
  deriving DecidableEq, Repr

/-- `core::mem::transmute` -/
def DeviceIoControlRaw.transmute (block : ParameterBlock) :
    DeviceIoControlRaw where
  outputBufferLength := block.word 0 8
  inputBufferLength := block.word 8 8
  ioControlCode := block.word 16 8
  type3InputBuffer := block.word 24 8

/-- A packet with what a device control request reads of it: the parameters of
its current stack location and the buffers. -/
structure DeviceControlIrp extends Irp where
  parameters : ParameterBlock
  systemBuffer : Address
  userBuffer : Address
  mdlAddress : Address

inductive WduIocltBuffers where
  | unknown
  | buffered (buffer : Address)
  | direct (buffer : Address) (mdl : WduMdl)
  | neither (input output : Address)
  deriving DecidableEq, Repr

structure WduDeviceControl where
  ioctl : UInt32
  outBufLen : Nat
  inBufLen : Nat
  buffer : WduIocltBuffers
  deriving DecidableEq, Repr

def methodBuffered : UInt32 := 0
def methodInDirect : UInt32 := 1
def methodOutDirect : UInt32 := 2
def methodNeither : UInt32 := 3

/-- `encode_ioctl!` -/
def encodeIoctl (deviceType functionCode method access : UInt32) : UInt32 :=
  (deviceType <<< 16) ||| (access <<< 14) ||| (functionCode <<< 2) ||| method

/-- `method_from_ioctl!` -/
def methodFromIoctl (ioctl : UInt32) : UInt32 :=
  ioctl &&& 0x3

namespace WduDeviceControl

def selectBuffers (irp : DeviceControlIrp) (data : DeviceIoControlRaw)
    (methodBits : UInt32) : WduIocltBuffers :=
  if methodBits = methodBuffered then .buffered irp.systemBuffer
  else if methodBits = methodInDirect ∨ methodBits = methodOutDirect then
    .direct irp.systemBuffer (WduMdl.wrap irp.mdlAddress)
  else if methodBits = methodNeither then
    .neither data.type3InputBuffer irp.userBuffer
  else .unknown

def new (irp : DeviceControlIrp) : Except Panic WduDeviceControl :=
  match irp.toIrp.currentStack with
  | .error panic => .error panic
  | .ok _ =>
      let data := DeviceIoControlRaw.transmute irp.parameters
      let ioctl := UInt32.ofNat data.ioControlCode
      .ok
        { ioctl := ioctl
          outBufLen := data.outputBufferLength
          inBufLen := data.inputBufferLength
          buffer := selectBuffers irp data (methodFromIoctl ioctl) }

def inputBufferSize (control : WduDeviceControl) : Nat :=
  control.inBufLen

def outputBufferSize (control : WduDeviceControl) : Nat :=
  control.outBufLen

def inputBuffer (control : WduDeviceControl) : Address :=
  match control.buffer with
  | .buffered buffer => buffer
  | .neither input _ => input
  | .direct input _ => input
  | .unknown => nullPtr

def outputBuffer (control : WduDeviceControl) (memory : MdlMemory) : Address :=
  match control.buffer with
  | .buffered buffer => buffer
  | .neither _ output => output
  | .direct _ mdl =>
      mdl.getSystemAddr
        (PagePriority.normal ||| PagePriority.mdlMappingNoExecute) memory
  | .unknown => nullPtr

def mdlByteCount (control : WduDeviceControl) (memory : MdlMemory) : Nat :=
  match control.buffer with
  | .direct _ mdl => mdl.byteCount memory
  | _ => 0

/-- What `new` makes of a packet. It always returns. -/
def decoded (irp : DeviceControlIrp) : WduDeviceControl where
  ioctl := irp.parameters.ioControlCode
  outBufLen := irp.parameters.word 0 8
  inBufLen := irp.parameters.word 8 8
  buffer :=
    selectBuffers irp (DeviceIoControlRaw.transmute irp.parameters)
      (methodFromIoctl irp.parameters.ioControlCode)

theorem new_eq_decoded (irp : DeviceControlIrp) :
    new irp = .ok (decoded irp) := by
  have code :
      UInt32.ofNat (irp.parameters.word 16 8) =
        UInt32.ofNat (irp.parameters.word 16 4) :=
    irp.parameters.word_eight_toUInt32 (by decide)
  simp [new, decoded, DeviceIoControlRaw.transmute,
    ParameterBlock.ioControlCode, code]

/-! ## Padding -/

/-- `new` yields the 32-bit fields of the block. -/
def ReadsFields (irp : DeviceControlIrp) : Prop :=
  ∃ control,
    new irp = .ok control ∧
      control.ioctl = irp.parameters.ioControlCode ∧
      control.inputBufferSize = irp.parameters.inputBufferLength.toNat ∧
      control.outputBufferSize = irp.parameters.outputBufferLength.toNat

/-- Both packets give requests that nobody can tell apart. -/
def SameRequest (first second : DeviceControlIrp) : Prop :=
  ∃ one other,
    new first = .ok one ∧ new second = .ok other ∧
      one.ioctl = other.ioctl ∧
      one.inputBufferSize = other.inputBufferSize ∧
      one.outputBufferSize = other.outputBufferSize ∧
      one.inputBuffer = other.inputBuffer ∧
      ∀ memory, one.outputBuffer memory = other.outputBuffer memory

theorem readsFields_iff (irp : DeviceControlIrp) :
    ReadsFields irp ↔ ∀ byte ∈ irp.parameters.lengthPadding, byte = 0 := by
  have input :
      (decoded irp).inputBufferSize =
          irp.parameters.inputBufferLength.toNat ↔
        ∀ byte ∈ irp.parameters.slice 12 4, byte = 0 :=
    irp.parameters.word_eight_eq_field_iff (by decide)
  have output :
      (decoded irp).outputBufferSize =
          irp.parameters.outputBufferLength.toNat ↔
        ∀ byte ∈ irp.parameters.slice 4 4, byte = 0 :=
    irp.parameters.word_eight_eq_field_iff (by decide)
  simp only [ReadsFields, new_eq_decoded, Except.ok.injEq, exists_eq_left',
    input, output, ParameterBlock.lengthPadding, List.mem_append]
  constructor
  · rintro ⟨_, inputClear, outputClear⟩ byte (outputByte | inputByte)
    · exact outputClear byte outputByte
    · exact inputClear byte inputByte
  · intro clear
    exact ⟨rfl, fun byte member => clear byte (.inr member),
      fun byte member => clear byte (.inl member)⟩

/-- A word of eight bytes over equal lower halves shows its upper half. -/
theorem word_eight_congr_iff
    {first second : ParameterBlock} {offset : Nat} (inside : offset + 8 ≤ 32)
    (low : first.slice offset 4 = second.slice offset 4) :
    first.word offset 8 = second.word offset 8 ↔
      first.slice (offset + 4) 4 = second.slice (offset + 4) 4 := by
  rw [ParameterBlock.word_eq_iff first second inside,
    first.slice_add offset 4 4, second.slice_add offset 4 4, low,
    List.append_cancel_left_eq]

theorem lengthPadding_eq_iff (first second : ParameterBlock) :
    first.lengthPadding = second.lengthPadding ↔
      first.slice 4 4 = second.slice 4 4 ∧
        first.slice 12 4 = second.slice 12 4 := by
  have lengths : (first.slice 4 4).length = (second.slice 4 4).length := by
    rw [first.slice_length (by decide), second.slice_length (by decide)]
  exact List.append_eq_append_iff_of_size_eq_left lengths

/-- The code and the buffers do not depend on padding. -/
theorem decoded_agree
    (irp : DeviceControlIrp) {other : ParameterBlock}
    (agree : irp.parameters.AgreeOffPadding other) :
    (decoded { irp with parameters := other }).ioctl = (decoded irp).ioctl ∧
      (decoded { irp with parameters := other }).buffer =
        (decoded irp).buffer := by
  have code : other.ioControlCode = irp.parameters.ioControlCode := by
    simp only [ParameterBlock.ioControlCode, ParameterBlock.word,
      agree.slice_eq 16 4 (by decide)]
  have buffer : other.word 24 8 = irp.parameters.word 24 8 := by
    simp only [ParameterBlock.word, agree.slice_eq 24 8 (by decide)]
  constructor
  · exact code
  · simp only [decoded, code]
    simp [selectBuffers, DeviceIoControlRaw.transmute, buffer]

theorem sameRequest_iff_decoded (first second : DeviceControlIrp) :
    SameRequest first second ↔
      (decoded first).ioctl = (decoded second).ioctl ∧
        (decoded first).inputBufferSize = (decoded second).inputBufferSize ∧
        (decoded first).outputBufferSize = (decoded second).outputBufferSize ∧
        (decoded first).inputBuffer = (decoded second).inputBuffer ∧
        ∀ memory,
          (decoded first).outputBuffer memory =
            (decoded second).outputBuffer memory := by
  constructor
  · rintro ⟨one, other, fromFirst, fromSecond, same⟩
    rw [new_eq_decoded, Except.ok.injEq] at fromFirst fromSecond
    rw [fromFirst, fromSecond]
    exact same
  · intro same
    exact ⟨_, _, new_eq_decoded first, new_eq_decoded second, same⟩

/-- Two packets that are equal but for the padding of their parameters. -/
theorem sameRequest_iff
    (irp : DeviceControlIrp) {other : ParameterBlock}
    (agree : irp.parameters.AgreeOffPadding other) :
    SameRequest irp { irp with parameters := other } ↔
      irp.parameters.lengthPadding = other.lengthPadding := by
  obtain ⟨ioctl, buffer⟩ := decoded_agree irp agree
  have output :
      (decoded irp).outputBufferSize =
          (decoded { irp with parameters := other }).outputBufferSize ↔
        irp.parameters.slice 4 4 = other.slice 4 4 :=
    word_eight_congr_iff (by decide) (agree.slice_eq 0 4 (by decide))
  have input :
      (decoded irp).inputBufferSize =
          (decoded { irp with parameters := other }).inputBufferSize ↔
        irp.parameters.slice 12 4 = other.slice 12 4 :=
    word_eight_congr_iff (by decide) (agree.slice_eq 8 4 (by decide))
  rw [sameRequest_iff_decoded, lengthPadding_eq_iff, input, output]
  simp only [inputBuffer, outputBuffer, ioctl, buffer, implies_true, and_true,
    true_and]
  exact and_comm

/-- A request shows the padding behind its two lengths, and no other. -/
theorem new_ignores_padding_iff
    (irp : DeviceControlIrp) (other : ParameterBlock) :
    (ReadsFields irp ↔ ∀ byte ∈ irp.parameters.lengthPadding, byte = 0) ∧
      (irp.parameters.AgreeOffPadding other →
        (SameRequest irp { irp with parameters := other } ↔
          irp.parameters.lengthPadding = other.lengthPadding)) :=
  ⟨readsFields_iff irp, sameRequest_iff irp⟩

end WduDeviceControl

/-- A buffered request for eight bytes in and four out. -/
def clearRequest : DeviceControlIrp where
  toIrp := Irp.ofMajor irpMjDeviceControl
  parameters :=
    { bytes :=
        [4, 0, 0, 0, 0, 0, 0, 0, 8, 0, 0, 0, 0, 0, 0, 0,
          0, 0x20, 0x22, 0, 0, 0, 0, 0, 0, 0, 0, 0, 0, 0, 0, 0]
      size := by decide }
  systemBuffer := 0x7000
  userBuffer := 0
  mdlAddress := 0

/-- The same fields, with a byte left over behind the output length. -/
def staleParameters : ParameterBlock :=
  clearRequest.parameters.set 4 1

/-- The request reads an output length of `2 ^ 32 + 4`. -/
theorem stale_padding_read :
    ¬WduDeviceControl.ReadsFields
        { clearRequest with parameters := staleParameters } ∧
      clearRequest.parameters.AgreeOffPadding staleParameters ∧
      ¬WduDeviceControl.SameRequest clearRequest
        { clearRequest with parameters := staleParameters } := by
  have agree : clearRequest.parameters.AgreeOffPadding staleParameters :=
    clearRequest.parameters.agreeOffPadding_set (by decide) 1
  refine ⟨?_, agree, ?_⟩
  · rw [WduDeviceControl.readsFields_iff]
    decide
  · rw [WduDeviceControl.sameRequest_iff clearRequest agree]
    decide

/-- A byte left over behind the code is not seen. -/
theorem stale_code_padding_ignored :
    WduDeviceControl.SameRequest clearRequest
      { clearRequest with parameters := clearRequest.parameters.set 20 1 } := by
  have seen := WduDeviceControl.new_ignores_padding_iff clearRequest
    (clearRequest.parameters.set 20 1)
  have agree := clearRequest.parameters.agreeOffPadding_set
    (by decide : 20 ∈ ParameterBlock.padding) 1
  exact (seen.2 agree).mpr (by decide)

/-! ## Control codes -/

/-- The four fields of a control code, each within its width. -/
structure IoctlFields where
  deviceType : UInt32
  functionCode : UInt32
  method : UInt32
  access : UInt32
  deviceType_lt : deviceType < 0x10000
  functionCode_lt : functionCode < 0x1000
  method_lt : method < 4
  access_lt : access < 4

namespace IoctlFields

def encode (fields : IoctlFields) : UInt32 :=
  encodeIoctl fields.deviceType fields.functionCode fields.method fields.access

/-- The code without a bound on its width. -/
def value (fields : IoctlFields) : Nat :=
  (fields.deviceType.toNat <<< 16) ||| (fields.access.toNat <<< 14) |||
    (fields.functionCode.toNat <<< 2) ||| fields.method.toNat

theorem bounds (fields : IoctlFields) :
    fields.deviceType.toNat < 0x10000 ∧ fields.functionCode.toNat < 0x1000 ∧
      fields.method.toNat < 4 ∧ fields.access.toNat < 4 :=
  ⟨fields.deviceType_lt, fields.functionCode_lt, fields.method_lt,
    fields.access_lt⟩

end IoctlFields

namespace WduDeviceControl

end WduDeviceControl

end WinDrvUtils

import WinDrvUtils.Common.Dispatch
import WinDrvUtils.Io.DeviceControl

/-!
# The sioctl driver

The sample `sioctl` answers one control code of each transfer method with a
text. For the method `neither` it describes both buffers by MDLs of its own,
which are unlocked and freed when they go out of scope, on every path. The
text is copied whole, whatever the length of the output buffer; only the count
that is reported is cut to that length.

Packets reach the sample through the slots that the builder has installed, and
so also those of major functions for which the sample has no handler.
-/

namespace WinDrvUtils

namespace Sioctl

open StepSystem

def sioctlType : UInt32 := 40000

def ioctlSioctlMethodInDirect : UInt32 :=
  encodeIoctl sioctlType 0x900 methodInDirect 0

def ioctlSioctlMethodOutDirect : UInt32 :=
  encodeIoctl sioctlType 0x901 methodOutDirect 0

def ioctlSioctlMethodBuffered : UInt32 :=
  encodeIoctl sioctlType 0x902 methodBuffered 0

def ioctlSioctlMethodNeither : UInt32 :=
  encodeIoctl sioctlType 0x903 methodNeither 0

/-- `0xC000009A` -/
def statusInsufficientResources : NTSTATUS := -0x3FFFFF66

/-- `0xC0000010` -/
def statusInvalidDeviceRequest : NTSTATUS := -0x3FFFFFF0

def data : String := "String from Rust Device Driver!"

def neitherData : String := "String from Rust Device Driver (Method Neither)!"

inductive SioctlError where
  | mdlError
  deriving DecidableEq, Repr

/-- A copy of `length` bytes to a buffer that has `room` for so many. -/
structure Write where
  address : Address
  length : Nat
  room : Nat
  deriving DecidableEq, Repr

/-- What the kernel answers during one request. -/
structure Answers where
  memory : MdlMemory
  allocator : MdlRequest → Address

/-- `PagePriority::Normal | PagePriority::MdlMappingNoExecute` -/
def priority : UInt32 :=
  PagePriority.normal ||| PagePriority.mdlMappingNoExecute

/-- The bytes behind `output_buffer`. The I/O manager makes the system buffer
of a buffered request as long as the longer of the two buffers of the caller,
and it knows their lengths by the fields of 32 bits, not by what
`WduDeviceControl` reads of the padding as well. -/
def outputRoom (parameters : ParameterBlock) (control : WduDeviceControl)
    (memory : MdlMemory) : Nat :=
  match control.buffer with
  | .buffered _ =>
      max parameters.inputBufferLength.toNat
        parameters.outputBufferLength.toNat
  | .direct _ mdl => mdl.byteCount memory
  | .neither _ _ => parameters.outputBufferLength.toNat
  | .unknown => 0

/-- One block of `method_neither`: an MDL is allocated for a buffer, locked
and mapped, and dropped at the end of the block. -/
def describe (buffer : Address) (size : Nat) (answers : Answers)
    (kernel : MdlKernel) : Except SioctlError (Address × Nat) × MdlKernel :=
  match
    WduMdl.allocate buffer (UInt32.ofNat size) false none answers.allocator
      kernel with
  | (.error _, kernel) => (.error .mdlError, kernel)
  | (.ok mdl, kernel) =>
      let (mdl, kernel) := mdl.probeAndLock kernel
      let mapped := mdl.getSystemAddr priority answers.memory
      let count := mdl.byteCount answers.memory
      let kernel := mdl.drop kernel
      if mapped = nullPtr then (.error .mdlError, kernel)
      else (.ok (mapped, count), kernel)

def methodNeither (control : WduDeviceControl) (answers : Answers)
    (kernel : MdlKernel) :
    Except SioctlError Nat × MdlKernel × List Write :=
  match
    describe control.inputBuffer control.inputBufferSize answers kernel with
  | (.error error, kernel) => (.error error, kernel, [])
  | (.ok _, kernel) =>
      match
        describe (control.outputBuffer answers.memory)
          control.outputBufferSize answers kernel with
      | (.error error, kernel) => (.error error, kernel, [])
      | (.ok (buffer, count), kernel) =>
          let length := neitherData.utf8ByteSize
          (.ok (if count < length then count else length), kernel,
            [⟨buffer, length, count⟩])

/-- The branches of the `match`: the status, the count that is reported, and
the copies. The parameters are only there for the room behind them. -/
def transfer (parameters : ParameterBlock) (control : WduDeviceControl)
    (answers : Answers) (kernel : MdlKernel) :
    NTSTATUS × Nat × MdlKernel × List Write :=
  let output := control.outputBuffer answers.memory
  let length := data.utf8ByteSize
  let write : Write :=
    ⟨output, length, outputRoom parameters control answers.memory⟩
  if control.ioctl = ioctlSioctlMethodBuffered ∨
      control.ioctl = ioctlSioctlMethodOutDirect then
    let written :=
      if control.outputBufferSize < length then control.outputBufferSize
      else length
    (statusSuccess, written, kernel, [write])
  else if control.ioctl = ioctlSioctlMethodInDirect then
    (statusSuccess, control.mdlByteCount answers.memory, kernel, [write])
  else if control.ioctl = ioctlSioctlMethodNeither then
    match methodNeither control answers kernel with
    | (.ok written, kernel, writes) =>
        (statusSuccess, written, kernel, writes)
    | (.error _, kernel, writes) =>
        (statusInsufficientResources, 0, kernel, writes)
  else (statusInvalidDeviceRequest, 0, kernel, [])

/-- What one request does: the packet is completed with `ioStatus`, and
`ioStatus.status` is returned. -/
structure Answered where
  ioStatus : WduIoStatus
  kernel : MdlKernel
  writes : List Write

def deviceControl (parameters : ParameterBlock)
    (control : WduDeviceControl) (answers : Answers)
    (kernel : MdlKernel) : Answered :=
  if control.inputBufferSize = 0 ∨ control.outputBufferSize = 0 then
    ⟨WduIoStatus.newWithStatus statusInvalidParameter, kernel, []⟩
  else if control.outputBuffer answers.memory = nullPtr then
    ⟨WduIoStatus.newWithStatus statusInsufficientResources, kernel, []⟩
  else
    let (status, info, kernel, writes) :=
      transfer parameters control answers kernel
    ⟨⟨status, info⟩, kernel, writes⟩

/-! ## The driver object -/

def createPfn : CodePtr := 1

def closePfn : CodePtr := 2

def deviceControlPfn : CodePtr := 3

def driverUnloadPfn : CodePtr := 4

/-- The calls of `init` on the builder. -/
def buildDriver (driverExtension : Bool) (status : NTSTATUS) :
    Except WduDriverError WduDriver × DriverObject :=
  let (driver, object) :=
    WduDriver.new.setUnload driverUnloadPfn
      (DriverObject.atEntry driverExtension)
  let (driver, object) :=
    driver.fileObject { create := some createPfn, close := some closePfn }
      object
  let (driver, object) :=
    driver.setIo { ioctl := some deviceControlPfn } object
  driver.build status object

/-- The driver object behind an `init` that succeeds. -/
def builtObject (driverExtension : Bool) : DriverObject :=
  (buildDriver driverExtension statusSuccess).2

def handlers (answered : Answered) : Handlers :=
  fun pfn _ =>
    if pfn = deviceControlPfn then
      ⟨.complete answered.ioStatus, answered.ioStatus.status⟩
    else ⟨.complete WduIoStatus.successNoInfo, statusSuccess⟩

/-! ## Packets -/

/-- A packet that came back from the driver. -/
structure Served where
  packet : DeviceControlIrp
  returned : NTSTATUS
  after : Irp

structure System where
  object : DriverObject
  kernel : MdlKernel
  writes : List Write
  served : List Served
  panicked : Option Panic

def System.start (driverExtension : Bool) : System where
  object := builtObject driverExtension
  kernel := MdlKernel.new
  writes := []
  served := []
  panicked := none

inductive Event where
  | dispatch (packet : DeviceControlIrp) (answers : Answers)

/-- The I/O manager sends a packet to the slot of its major function. Nothing
runs behind a panic. -/
def step (system : System) : Event → Option System
  | .dispatch packet answers =>
      if system.panicked.isSome then none
      else if
          system.object.majorFunction packet.majorFunction =
            some .dispatchHandler then
        match WduDeviceControl.new packet with
        | .error panic => some { system with panicked := some panic }
        | .ok control =>
            let answered :=
              deviceControl packet.parameters control answers system.kernel
            match
              WduDriver.dispatchHandler system.object (handlers answered)
                packet.toIrp with
            | .error panic => some { system with panicked := some panic }
            | .ok (returned, dispatch) =>
                let served :=
                  ⟨packet, returned, dispatch.irp⟩ :: system.served
                if deviceControlPfn ∈ dispatch.called then
                  some
                    { system with
                      kernel := answered.kernel
                      writes := answered.writes ++ system.writes
                      served := served }
                else some { system with served := served }
      else none

/-! ## What a packet does -/

/-- The part of a request that the ledger of the MDLs is about. -/
theorem describe_accounts
    {buffer : Address} {size : Nat} {answers : Answers}
    {kernel : MdlKernel} (accounts : Mdl.Accounts kernel [] []) :
    Mdl.Accounts (describe buffer size answers kernel).2 [] [] := by
  unfold describe WduMdl.allocate
  generalize answers.allocator _ = mdl
  by_cases refused : mdl = nullPtr
  · simp only [if_pos refused]
    exact accounts
  · simp only [if_neg refused]
    let wrapper : WduMdl := ⟨mdl, false, true⟩
    have allocated :
        Mdl.Accounts (kernel.ioAllocateMdl mdl) (wrapper.allocated ++ [])
          (wrapper.locked ++ []) :=
      ⟨accounts.mdls.issue mdl, accounts.locks, accounts.proper⟩
    have arrived : mdl ∉ (kernel.ioAllocateMdl mdl).freed := by
      simp [MdlKernel.ioAllocateMdl, MdlKernel.arrive]
    have unowned : mdl ∉ (kernel.ioAllocateMdl mdl).ownerLocked := by
      simp [MdlKernel.ioAllocateMdl, MdlKernel.arrive]
    have unlocked : ¬ (kernel.ioAllocateMdl mdl).IsLocked mdl := by
      rintro (live | owned)
      · exact List.not_mem_nil ((accounts.locks.mem_iff mdl).mp live)
      · exact unowned owned
    have locked :=
      (Mdl.accounts_probeAndLock_iff allocated).mpr ⟨arrived, unlocked⟩
    have dropped :=
      (Mdl.accounts_drop_iff locked).mpr fun _ =>
        ⟨unowned, List.not_mem_nil⟩
    split
    · exact dropped
    · exact dropped

theorem methodNeither_accounts
    {control : WduDeviceControl} {answers : Answers} {kernel : MdlKernel}
    (accounts : Mdl.Accounts kernel [] []) :
    Mdl.Accounts (methodNeither control answers kernel).2.1 [] [] := by
  unfold methodNeither
  have input :=
    @describe_accounts control.inputBuffer control.inputBufferSize answers
      kernel accounts
  split
  case h_1 error middle described =>
      rw [described] at input
      exact input
  case h_2 mapped middle described =>
      rw [described] at input
      have output :=
        @describe_accounts (control.outputBuffer answers.memory)
          control.outputBufferSize answers middle input
      split
      case h_1 error after described =>
          rw [described] at output
          exact output
      case h_2 buffer count after described =>
          rw [described] at output
          exact output

theorem transfer_accounts
    {parameters : ParameterBlock} {control : WduDeviceControl}
    {answers : Answers} {kernel : MdlKernel}
    (accounts : Mdl.Accounts kernel [] []) :
    Mdl.Accounts (transfer parameters control answers kernel).2.2.1 []
      [] := by
  have neither :=
    @methodNeither_accounts control answers kernel accounts
  unfold transfer
  dsimp only
  split
  · exact accounts
  · split
    · exact accounts
    · split
      · split
        case h_1 written after writes described =>
            rw [described] at neither
            exact neither
        case h_2 error after writes described =>
            rw [described] at neither
            exact neither
      · exact accounts

theorem deviceControl_accounts
    {parameters : ParameterBlock} {control : WduDeviceControl}
    {answers : Answers} {kernel : MdlKernel}
    (accounts : Mdl.Accounts kernel [] []) :
    Mdl.Accounts (deviceControl parameters control answers kernel).kernel []
      [] := by
  unfold deviceControl
  split
  · exact accounts
  · split
    · exact accounts
    · exact transfer_accounts accounts

/-- The sample has a handler for the packet. -/
def Handled (packet : DeviceControlIrp) : Prop :=
  packet.majorFunction = irpMjCreate ∨ packet.majorFunction = irpMjClose ∨
    packet.majorFunction = irpMjDeviceControl

instance (packet : DeviceControlIrp) : Decidable (Handled packet) :=
  inferInstanceAs (Decidable (_ ∨ _ ∨ _))

/-- The value that `build` has copied to the extension. -/
def builtDriver : WduDriver where
  init := true
  unload := some driverUnloadPfn
  io := { ioctl := some deviceControlPfn }
  fileobj := { create := some createPfn, close := some closePfn }

theorem builtObject_extension (driverExtension : Bool) :
    (builtObject driverExtension).wduExtension = some builtDriver := rfl

theorem builtObject_decodes
    {driverExtension : Bool} {major : Nat}
    (installed :
      (builtObject driverExtension).majorFunction major =
        some .dispatchHandler) :
    ∃ decoded, MajorFunction.fromU32 major = .ok decoded := by
  have reached :
      run DriverEntry.step (DriverEntry.start driverExtension)
          [.unload driverUnloadPfn,
            .fileObject { create := some createPfn, close := some closePfn },
            .io { ioctl := some deviceControlPfn },
            .build statusSuccess] =
        some ⟨builtDriver, true, builtObject driverExtension⟩ :=
    rfl
  exact DriverEntry.slotsDecode_run reached major installed

/-- A packet to a slot without a handler comes back as it was, one to create
or to close is completed, and one that asks for a transfer is answered. -/
inductive Effect (system : System) (packet : DeviceControlIrp)
    (answers : Answers) : System → Prop
  | lost (absent : ¬ Handled packet) :
      Effect system packet answers
        { system with
          served := ⟨packet, statusSuccess, packet.toIrp⟩ :: system.served }
  | opened
      (major :
        packet.majorFunction = irpMjCreate ∨
          packet.majorFunction = irpMjClose) :
      Effect system packet answers
        { system with
          served :=
            ⟨packet, statusSuccess,
              packet.toIrp.complete WduIoStatus.successNoInfo⟩ ::
              system.served }
  | answered (answered : Answered)
      (same :
        answered =
          deviceControl packet.parameters
            (WduDeviceControl.decoded packet) answers system.kernel)
      (major : packet.majorFunction = irpMjDeviceControl) :
      Effect system packet answers
        { system with
          kernel := answered.kernel
          writes := answered.writes ++ system.writes
          served :=
            ⟨packet, answered.ioStatus.status,
              packet.toIrp.complete answered.ioStatus⟩ :: system.served }

theorem fromU32_eq_ok
    {value : Nat} {major : MajorFunction}
    (decoded : MajorFunction.fromU32 value = .ok major) :
    value =
      match major with
      | .create => irpMjCreate
      | .close => irpMjClose
      | .cleanup => irpMjCleanup
      | .read => irpMjRead
      | .write => irpMjWrite
      | .deviceControl => irpMjDeviceControl := by
  unfold MajorFunction.fromU32 at decoded
  split_ifs at decoded with create close cleanup read write control
  all_goals cases decoded
  all_goals assumption

theorem effect_of_step
    {driverExtension : Bool} {system next : System}
    {packet : DeviceControlIrp} {answers : Answers}
    (built : system.object = builtObject driverExtension)
    (stepped : step system (.dispatch packet answers) = some next) :
    Effect system packet answers next := by
  simp only [step, WduDeviceControl.new_eq_decoded] at stepped
  split at stepped
  · cases stepped
  · split at stepped
    case isFalse => cases stepped
    case isTrue installed =>
        rw [built] at installed
        obtain ⟨major, decoded⟩ := builtObject_decodes installed
        have value := fromU32_eq_ok decoded
        have extended : system.object.wduExtension = some builtDriver := by
          rw [built, builtObject_extension]
        cases major with
        | create =>
            have present :
                builtDriver.handler .create = some createPfn :=
              rfl
            rw [WduDriver.dispatchHandler_of_handler _ extended decoded
              present] at stepped
            cases stepped
            exact .opened (.inl value)
        | close =>
            have present :
                builtDriver.handler .close = some closePfn :=
              rfl
            rw [WduDriver.dispatchHandler_of_handler _ extended decoded
              present] at stepped
            cases stepped
            exact .opened (.inr value)
        | deviceControl =>
            have present :
                builtDriver.handler .deviceControl = some deviceControlPfn :=
              rfl
            rw [WduDriver.dispatchHandler_of_handler _ extended decoded
              present] at stepped
            cases stepped
            exact .answered _ rfl value
        | cleanup | read | write =>
            rw [WduDriver.dispatchHandler_of_absent _ extended decoded
              rfl] at stepped
            cases stepped
            refine .lost fun handled => ?_
            simp only [Handled, value] at handled
            revert handled
            decide

/-- What every packet leaves alone. -/
structure Built (driverExtension : Bool) (system : System) : Prop where
  object : system.object = builtObject driverExtension
  calm : system.panicked = none

theorem built_start (driverExtension : Bool) :
    Built driverExtension (System.start driverExtension) :=
  ⟨rfl, rfl⟩

theorem built_step
    {driverExtension : Bool} {system next : System} {event : Event}
    (built : Built driverExtension system)
    (stepped : step system event = some next) :
    Built driverExtension next := by
  obtain ⟨packet, answers⟩ := event
  cases effect_of_step built.object stepped with
  | lost absent => exact ⟨built.object, built.calm⟩
  | opened major => exact ⟨built.object, built.calm⟩
  | answered answered same major => exact ⟨built.object, built.calm⟩

/-! ## Completion -/

/-- The packet was completed once, with the status that went back. -/
structure Served.Completed (served : Served) : Prop where
  once : served.after.completions = served.packet.completions + 1
  status : served.after.status = served.returned

theorem deviceControl_status
    {packet : DeviceControlIrp} (answered : Answered) :
    Served.Completed
      ⟨packet, answered.ioStatus.status,
        packet.toIrp.complete answered.ioStatus⟩ :=
  ⟨rfl, rfl⟩

theorem not_completed_lost (packet : DeviceControlIrp) :
    ¬ Served.Completed ⟨packet, statusSuccess, packet.toIrp⟩ := by
  intro completed
  exact absurd completed.once (by simp)

/-- No packet made the driver panic, and every one that came back was
completed. -/
structure AllCompleted (system : System) : Prop where
  calm : system.panicked = none
  completed : ∀ served ∈ system.served, served.Completed

def ToHandler (_ : System) : Event → Prop
  | .dispatch packet _ => Handled packet

theorem allCompleted_step_iff
    {driverExtension : Bool} {system next : System} {event : Event}
    (built : Built driverExtension system)
    (before : AllCompleted system)
    (stepped : step system event = some next) :
    AllCompleted next ↔ ToHandler system event := by
  obtain ⟨packet, answers⟩ := event
  cases effect_of_step built.object stepped with
  | lost absent =>
      refine iff_of_false (fun after => ?_) absent
      exact
        not_completed_lost packet
          (after.completed _ List.mem_cons_self)
  | opened major =>
      refine iff_of_true ⟨before.calm, ?_⟩ ?_
      · exact List.forall_mem_cons.mpr ⟨⟨rfl, rfl⟩, before.completed⟩
      · exact major.imp_right Or.inl
  | answered answered same major =>
      refine iff_of_true ⟨before.calm, ?_⟩ (.inr (.inr major))
      exact
        List.forall_mem_cons.mpr
          ⟨deviceControl_status answered, before.completed⟩

/-- For every sequence of packets that the I/O manager sends: each one that
comes back was completed once, with the status that went back, exactly when
all of them are about opening, closing or a transfer. The slots for reading,
writing and cleanup are installed with the others, and what is sent there
comes back as a success that nobody has completed. -/
theorem allCompleted_iff (driverExtension : Bool) (events : List Event) :
    Always step AllCompleted (System.start driverExtension) events ↔
      Guarded step ToHandler (System.start driverExtension) events := by
  refine
    @always_iff_guarded_of_step _ _ step (Built driverExtension)
      AllCompleted ToHandler
      (fun _ _ _ built stepped => built_step built stepped)
      (fun _ _ _ built before stepped =>
        allCompleted_step_iff built before stepped)
      _ events (built_start driverExtension) ⟨rfl, ?_⟩
  intro served member
  cases member

/-! ## The MDLs -/

/-- Between two packets the sample holds no MDL and no lock, and whatever it
has allocated or locked, it has freed or unlocked as often. -/
structure NothingHeld (system : System) : Prop where
  accounts : Mdl.Accounts system.kernel [] []
  mdls :
    ∀ mdl,
      system.kernel.mdls.released.count mdl =
        system.kernel.mdls.issued.count mdl
  locks :
    ∀ mdl,
      system.kernel.locks.released.count mdl =
        system.kernel.locks.issued.count mdl

theorem nothingHeld_of_accounts
    {system : System} (accounts : Mdl.Accounts system.kernel [] []) :
    NothingHeld system :=
  ⟨accounts, Ledger.count_eq_of_live_nil accounts.mdls.2.eq_nil,
    Ledger.count_eq_of_live_nil accounts.locks.2.eq_nil⟩

theorem accounts_step
    {driverExtension : Bool} {system next : System} {event : Event}
    (built : Built driverExtension system)
    (accounts : Mdl.Accounts system.kernel [] [])
    (stepped : step system event = some next) :
    Mdl.Accounts next.kernel [] [] := by
  obtain ⟨packet, answers⟩ := event
  cases effect_of_step built.object stepped with
  | lost absent => exact accounts
  | opened major => exact accounts
  | answered answered same major =>
      rw [same]
      exact deviceControl_accounts accounts

/-- Whatever is asked for, and whichever allocation or mapping fails on the
way. -/
theorem nothingHeld_always (driverExtension : Bool) (events : List Event) :
    Always step NothingHeld (System.start driverExtension) events := by
  refine
    always_of_preserved
      (fun system
        (now :
          Built driverExtension system ∧
            Mdl.Accounts system.kernel [] []) =>
        nothingHeld_of_accounts now.2)
      (fun system event next now stepped =>
        ⟨built_step now.1 stepped, accounts_step now.1 now.2 stepped⟩)
      ⟨built_start driverExtension, ?_⟩ events
  exact ⟨Ledger.heldBy_empty, Ledger.heldBy_empty, rfl⟩

/-! ## The copies -/

def Write.Fits (write : Write) : Prop := write.length ≤ write.room

/-- The MDL that the sample gets for a buffer. -/
def described (buffer : Address) (size : Nat) (answers : Answers) : WduMdl :=
  WduMdl.wrap
    (answers.allocator ⟨buffer, UInt32.ofNat size, false, false, nullPtr⟩)

/-- The kernel has an MDL for the buffer and maps it. -/
def Maps (buffer : Address) (size : Nat) (answers : Answers) : Prop :=
  (described buffer size answers).mdl ≠ nullPtr ∧
    (described buffer size answers).getSystemAddr priority answers.memory ≠
      nullPtr

theorem describe_fst
    (buffer : Address) (size : Nat) (answers : Answers)
    (kernel : MdlKernel) :
    (Maps buffer size answers ∧
        ∃ mapped,
          (describe buffer size answers kernel).1 =
            .ok
              (mapped,
                (described buffer size answers).byteCount answers.memory)) ∨
      (¬ Maps buffer size answers ∧
        (describe buffer size answers kernel).1 = .error .mdlError) := by
  unfold Maps describe WduMdl.allocate described
  generalize
    same :
      answers.allocator ⟨buffer, UInt32.ofNat size, false, false, nullPtr⟩ =
        mdl
  simp only [Option.getD_none, same]
  by_cases refused : mdl = nullPtr
  · simp only [if_pos refused]
    exact .inr ⟨fun maps => maps.1 refused, trivial⟩
  · simp only [if_neg refused]
    by_cases unmapped :
        (WduMdl.wrap mdl).getSystemAddr priority answers.memory = nullPtr
    · refine .inr ⟨fun maps => maps.2 unmapped, ?_⟩
      split
      · rfl
      · rename_i mapped
        exact absurd unmapped mapped
    · refine
        .inl
          ⟨⟨refused, unmapped⟩,
            (WduMdl.wrap mdl).getSystemAddr priority answers.memory, ?_⟩
      split
      · rename_i mapped
        exact absurd mapped unmapped
      · rfl

/-- The copy of `method_neither` fits where it is made. -/
def NeitherFits (control : WduDeviceControl) (answers : Answers) : Prop :=
  let output := control.outputBuffer answers.memory
  Maps control.inputBuffer control.inputBufferSize answers →
    Maps output control.outputBufferSize answers →
      neitherData.utf8ByteSize ≤
        (described output control.outputBufferSize answers).byteCount
          answers.memory

theorem methodNeither_fits_iff
    (control : WduDeviceControl) (answers : Answers) (kernel : MdlKernel) :
    (∀ write ∈ (methodNeither control answers kernel).2.2, write.Fits) ↔
      NeitherFits control answers := by
  unfold methodNeither NeitherFits
  have input :=
    describe_fst control.inputBuffer control.inputBufferSize answers kernel
  split
  case h_1 error middle same =>
      rw [same] at input
      refine iff_of_true (fun _ none => nomatch none) fun maps => ?_
      rcases input with ⟨_, _, ok⟩ | ⟨unmapped, _⟩
      · cases ok
      · exact absurd maps unmapped
  case h_2 mapped middle same =>
      rw [same] at input
      have output :=
        describe_fst (control.outputBuffer answers.memory)
          control.outputBufferSize answers middle
      rcases input with ⟨maps, _⟩ | ⟨_, error⟩
      · split
        case h_1 error after same =>
            rw [same] at output
            refine iff_of_true (fun _ none => nomatch none) fun _ maps => ?_
            rcases output with ⟨_, _, ok⟩ | ⟨unmapped, _⟩
            · cases ok
            · exact absurd maps unmapped
        case h_2 buffer count after same =>
            rw [same] at output
            rcases output with ⟨mapsOutput, _, ok⟩ | ⟨_, error⟩
            · cases ok
              simp [Write.Fits, maps, mapsOutput]
            · cases error
      · cases error

/-- The copies of a transfer fit where they are made. The text of the other
three methods goes to the buffer that the I/O manager has passed. -/
def TransferFits (parameters : ParameterBlock) (control : WduDeviceControl)
    (answers : Answers) : Prop :=
  (control.ioctl = ioctlSioctlMethodBuffered ∨
      control.ioctl = ioctlSioctlMethodOutDirect ∨
      control.ioctl = ioctlSioctlMethodInDirect →
    data.utf8ByteSize ≤ outputRoom parameters control answers.memory) ∧
  (control.ioctl = ioctlSioctlMethodNeither → NeitherFits control answers)

theorem ioctls_distinct :
    ioctlSioctlMethodBuffered ≠ ioctlSioctlMethodNeither ∧
      ioctlSioctlMethodOutDirect ≠ ioctlSioctlMethodNeither ∧
      ioctlSioctlMethodInDirect ≠ ioctlSioctlMethodNeither := by
  decide

theorem transfer_fits_iff
    (parameters : ParameterBlock) (control : WduDeviceControl)
    (answers : Answers) (kernel : MdlKernel) :
    (∀ write ∈ (transfer parameters control answers kernel).2.2.2,
        write.Fits) ↔
      TransferFits parameters control answers := by
  obtain ⟨buffered, outDirect, inDirect⟩ := ioctls_distinct
  have neither := methodNeither_fits_iff control answers kernel
  unfold transfer TransferFits
  dsimp only
  split
  case isTrue code =>
      have other : control.ioctl ≠ ioctlSioctlMethodNeither := by
        rcases code with code | code <;> rw [code] <;> assumption
      have listed :
          control.ioctl = ioctlSioctlMethodBuffered ∨
            control.ioctl = ioctlSioctlMethodOutDirect ∨
            control.ioctl = ioctlSioctlMethodInDirect :=
        code.imp_right Or.inl
      simp [Write.Fits, listed, other]
  case isFalse code =>
      obtain ⟨notBuffered, notOutDirect⟩ := not_or.mp code
      split
      case isTrue code =>
          have other : control.ioctl ≠ ioctlSioctlMethodNeither := by
            rw [code]
            exact inDirect
          simp [Write.Fits, code, inDirect]
      case isFalse notInDirect =>
          simp only [notBuffered, notOutDirect, notInDirect, or_self,
            false_implies, true_and]
          split
          case isTrue code =>
              rw [← neither]
              simp only [code, true_implies]
              split
              case h_1 written after writes same => simp [same]
              case h_2 error after writes same => simp [same]
          case isFalse code =>
              exact
                iff_of_true (fun _ none => nomatch none) fun same =>
                  absurd same code

/-- A transfer is not refused before the branches of the `match`. -/
def Accepted (control : WduDeviceControl) (answers : Answers) : Prop :=
  ¬ (control.inputBufferSize = 0 ∨ control.outputBufferSize = 0) ∧
    control.outputBuffer answers.memory ≠ nullPtr

theorem deviceControl_fits_iff
    (parameters : ParameterBlock) (control : WduDeviceControl)
    (answers : Answers) (kernel : MdlKernel) :
    (∀ write ∈ (deviceControl parameters control answers kernel).writes,
        write.Fits) ↔
      (Accepted control answers →
        TransferFits parameters control answers) := by
  unfold deviceControl Accepted
  split
  case isTrue empty =>
      exact
        iff_of_true (fun _ none => nomatch none) fun accepted =>
          absurd empty accepted.1
  case isFalse sized =>
      split
      case isTrue missing =>
          exact
            iff_of_true (fun _ none => nomatch none) fun accepted =>
              absurd missing accepted.2
      case isFalse present =>
          have fits := transfer_fits_iff parameters control answers kernel
          exact
            ⟨fun all _ => fits.mp all, fun given =>
              fits.mpr (given ⟨sized, present⟩)⟩

/-- A transfer that is accepted finds room for the whole text. -/
def RoomForText (_ : System) : Event → Prop
  | .dispatch packet answers =>
      packet.majorFunction = irpMjDeviceControl →
        Accepted (WduDeviceControl.decoded packet) answers →
          TransferFits packet.parameters (WduDeviceControl.decoded packet)
            answers

theorem fits_step_iff
    {driverExtension : Bool} {system next : System} {event : Event}
    (built : Built driverExtension system)
    (before : ∀ write ∈ system.writes, write.Fits)
    (stepped : step system event = some next) :
    (∀ write ∈ next.writes, write.Fits) ↔ RoomForText system event := by
  obtain ⟨packet, answers⟩ := event
  cases effect_of_step built.object stepped with
  | lost absent =>
      refine iff_of_true before fun major => ?_
      exact absurd (.inr (.inr major)) absent
  | opened opening =>
      refine iff_of_true before fun major => ?_
      rw [major] at opening
      exact absurd opening (by decide)
  | answered answered same major =>
      have fits :=
        deviceControl_fits_iff packet.parameters
          (WduDeviceControl.decoded packet) answers system.kernel
      rw [← same] at fits
      constructor
      · intro all _
        exact
          fits.mp fun write member =>
            all write (List.mem_append_left _ member)
      · intro given write member
        rcases List.mem_append.mp member with new | old
        · exact fits.mpr (given major) write new
        · exact before write old

/-- For every sequence of packets, no copy runs past the buffer that it is
made to exactly when each accepted transfer has room for the whole text:
31 bytes behind the output buffer of the request, or 48 in the MDL of the
sample for the method `neither`. The length that the request gives for its
output buffer is never compared with that of the text before the copy, and
where the padding behind it is not clear it says nothing about the room. -/
theorem copiesFit_iff (driverExtension : Bool) (events : List Event) :
    Always step (fun system => ∀ write ∈ system.writes, write.Fits)
        (System.start driverExtension) events ↔
      Guarded step RoomForText (System.start driverExtension) events := by
  refine
    @always_iff_guarded_of_step _ _ step (Built driverExtension)
      (fun system => ∀ write ∈ system.writes, write.Fits) RoomForText
      (fun _ _ _ built stepped => built_step built stepped)
      (fun _ _ _ built before stepped =>
        fits_step_iff built before stepped)
      _ events (built_start driverExtension) ?_
  intro write member
  cases member

/-- With a byte left over in the padding the driver reads an output length of
more than 4 GiB, and the system buffer still has four bytes. -/
example (memory : MdlMemory) :
    let packet : DeviceControlIrp :=
      { toIrp := Irp.ofMajor irpMjDeviceControl
        parameters :=
          ⟨[4, 0, 0, 0, 1, 0, 0, 0, 4, 0, 0, 0, 0, 0, 0, 0,
            0x08, 0x24, 0x40, 0x9C, 0, 0, 0, 0, 0, 0, 0, 0, 0, 0, 0, 0], rfl⟩
        systemBuffer := 0x7000
        userBuffer := nullPtr
        mdlAddress := nullPtr }
    let control := WduDeviceControl.decoded packet
    control.ioctl = ioctlSioctlMethodBuffered ∧
      control.outputBufferSize = 2 ^ 32 + 4 ∧
      outputRoom packet.parameters control memory = 4 := by
  exact ⟨by decide, by decide, rfl⟩

end Sioctl

end WinDrvUtils

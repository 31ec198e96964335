import WinDrvUtils.Callbacks.HandleLifecycle
import WinDrvUtils.Callbacks.Notify
import WinDrvUtils.Callbacks.ObDispatch
import WinDrvUtils.Io.DeviceControl
import WinDrvUtils.Samples.Lifecycle
import WinDrvUtils.Strings.Contains

/-!
# The obcallback driver

The sample `obcallback` protects a process that has a certain name: an object
callback takes the right to terminate it from whoever opens it. The name comes
with a device control request, and a process notify routine looks for it in
the name of each new process.

The state of the driver is in statics. `protect_name_cb` pushes two
registrations each time that it is reached, and nothing removes them; the
flags that it sets are not cleared when the callback is unregistered.
-/

namespace WinDrvUtils

open StepSystem Lifecycle

namespace ObCallbackDriver

def fileDeviceUnknown : UInt32 := 0x22

/-- `FILE_SPECIAL_ACCESS` -/
def fileSpecialAccess : UInt32 := 0

def tdIoctlProtectNameCallback : UInt32 :=
  encodeIoctl fileDeviceUnknown (0x800 + 2) methodBuffered fileSpecialAccess

def tdIoctlUnprotectCallback : UInt32 :=
  encodeIoctl fileDeviceUnknown (0x800 + 3) methodBuffered fileSpecialAccess

/-- `0xC0000225` -/
def statusNotFound : NTSTATUS := -0x3FFFFDDB

def protectNameProtect : UInt32 := 0

def protectNameReject : UInt32 := 1

def nameSize : Nat := 200

/-- `size_of::<ProtectNameInput>()`: the operation, the units of the name, and
padding to a multiple of four. -/
def sizeOfProtectNameInput : Nat := 408

structure ProtectNameInput where
  operation : UInt32
  name : List UInt16
  sized : name.length = nameSize + 1

inductive ObCallbackError where
  | callbackError
  | invalidParameter
  | unicodeError
  deriving DecidableEq, Repr

/-- `name` has the units of the string. -/
structure ProtectData where
  targetProcess : Option Address
  targetProcessId : Option Nat
  name : List UInt16
  deriving DecidableEq, Repr

structure Protect where
  callbackInstalled : Bool
  protectData : ProtectData
  callback : WduObCallback
  deriving DecidableEq, Repr

/-! ## Places in the image -/

def createPfn : CodePtr := 1

def closePfn : CodePtr := 2

def cleanupPfn : CodePtr := 3

def deviceControlPfn : CodePtr := 4

def driverUnloadPfn : CodePtr := 5

def processNotifyPfn : CodePtr := 6

def preOperationPfn : CodePtr := 7

def postOperationPfn : CodePtr := 8

def protectCallbackAddress : Address := 0x10000

def protectDataAddress : Address := 0x10100

def Protect.constNew : Protect where
  callbackInstalled := false
  protectData := ⟨none, none, []⟩
  callback := WduObCallback.constNew protectCallbackAddress

/-! ## `Protect` -/

/-- The two registrations are the same but for the type. -/
def registration (obType : ObjectType) : WduObOpRegistration where
  obType := obType
  operations := obOperationHandleCreate ||| obOperationHandleDuplicate
  pre := some preOperationPfn
  post := some postOperationPfn
  context := protectDataAddress

def altitude : List UInt16 := Utf16.encode "1000".toList

namespace Protect

def registerCallback (protect : Protect) (answer : ObAnswer)
    (kernel : ObKernel) :
    Except Panic (Except ObCallbackError Unit × Protect × ObKernel) :=
  let callback := protect.callback.pushOpRegistration (registration .process)
  let callback := callback.pushOpRegistration (registration .thread)
  match callback.register altitude answer kernel with
  | .error panic => .error panic
  | .ok (.error _, callback, kernel) =>
      .ok
        (.error .callbackError, { protect with callback := callback },
          kernel)
  | .ok (.ok (), callback, kernel) =>
      .ok
        (.ok (),
          { protect with callback := callback, callbackInstalled := true },
          kernel)

def deleteProtectNameCb (protect : Protect) (kernel : ObKernel) :
    Except ObCallbackError Unit × Protect × ObKernel :=
  match protect.callback.unregister kernel with
  | (.error _, callback, kernel) =>
      (.error .callbackError, { protect with callback := callback }, kernel)
  | (.ok (), callback, kernel) =>
      (.ok (),
        { protect with callback := callback, callbackInstalled := false },
        kernel)

end Protect

/-- `contains` for strings that have these units, with case ignored. -/
def containsUnits (toLowercase : String → String)
    (units needle : List UInt16) : Bool :=
  if units.length < needle.length then false
  else
    strContains
      (toLowercase (String.ofList (Utf16.decode units)))
      (toLowercase (String.ofList (Utf16.decode needle)))

def Protect.checkProcessMatch (toLowercase : String → String)
    (protect : Protect) (process : Address) (pid : Nat)
    (filename : List UInt16) : NTSTATUS × Protect :=
  if containsUnits toLowercase filename protect.protectData.name = false then
    (statusNotFound, protect)
  else
    (statusSuccess,
      { protect with
        protectData :=
          { protect.protectData with
            targetProcess := some process
            targetProcessId := some pid } })

/-! ## The driver -/

inductive Phase where
  | entry
  | loaded (object : DriverObject)
  | gone

/-- `denied` are the processes whose creation was refused. -/
structure System where
  phase : Phase
  devices : DeviceKernel
  notify : Notify.NotifyState Notify.PsCallbackVersion Notify.PsRoutine
  ob : ObKernel
  protect : Protect
  protectNameFlag : Bool
  rejectNameFlag : Bool
  denied : List Nat
  panicked : Option Panic

def System.start : System where
  phase := .entry
  devices := DeviceKernel.new
  notify := .constNew
  ob := ⟨Ledger.empty, []⟩
  protect := Protect.constNew
  protectNameFlag := false
  rejectNameFlag := false
  denied := []
  panicked := none

def deviceName : DeviceName :=
  Utf16.encode "\\Device\\ObCallbackTest".toList

def win32Name : DeviceName :=
  Utf16.encode "\\DosDevices\\ObCallbackTest".toList

def buildDriver (driverExtension : Bool) (status : NTSTATUS) :
    Except WduDriverError WduDriver × DriverObject :=
  let (driver, object) :=
    WduDriver.new.setUnload driverUnloadPfn
      (DriverObject.atEntry driverExtension)
  let (driver, object) :=
    driver.fileObject
      { create := some createPfn
        close := some closePfn
        cleanup := some cleanupPfn }
      object
  let (driver, object) :=
    driver.setIo { ioctl := some deviceControlPfn } object
  driver.build status object

/-- `notify` is the answer to the registration of the notify routine, and
`unlink` the one to the deletion of the link, if that one is refused. -/
structure LoadAnswers extends InitAnswers where
  notify : NTSTATUS
  unlink : NTSTATUS

/-- The last step of `init`: without the notify routine the link and the
device are deleted, for the second time if the link was refused before. -/
def registerNotify (answers : LoadAnswers) (device : WduDevice)
    (system : System) : System :=
  match
    Notify.WduPsCallback.register (.notifyRoutineEx2 processNotifyPfn)
      answers.notify system.notify with
  | (.ok (), notify) => { system with notify := notify }
  | (.error _, notify) =>
      let (_, devices) :=
        WduDevice.deleteSymbolicName win32Name answers.unlink system.devices
      { system with notify := notify, devices := device.delete devices }

/-- Whether it succeeds. -/
def init (driverExtension : Bool) (answers : LoadAnswers)
    (system : System) : Bool × DriverObject × System :=
  match buildDriver driverExtension answers.driver with
  | (.error _, object) => (false, object, system)
  | (.ok _, object) =>
      match
        createDevice 0 deviceName win32Name answers.toInitAnswers
          system.devices with
      | (.error _, devices) =>
          (false, object, { system with devices := devices })
      | (.ok device, devices) =>
          (true, object,
            registerNotify answers device { system with devices := devices })

structure LeaveAnswers where
  notify : NTSTATUS
  link : NTSTATUS

def driverUnload (answers : LeaveAnswers) (system : System) : System :=
  let device := WduDriver.device system.devices
  let (_, notify) :=
    Notify.WduPsCallback.unregister answers.notify system.notify
  let (protect, ob) :=
    if system.protect.callbackInstalled then
      (system.protect.deleteProtectNameCb system.ob).2
    else (system.protect, system.ob)
  let (_, devices) :=
    WduDevice.deleteSymbolicName win32Name answers.link system.devices
  { system with
    notify := notify
    protect := protect
    ob := ob
    devices := device.delete devices }

/-! ## Requests -/

/-- What the environment decides during a request: the input behind the
pointer, which may be null, whether the string of the name can be made, and
the answer of `ObRegisterCallbacks`. -/
structure RequestAnswers where
  input : Option ProtectNameInput
  granted : Bool
  register : ObAnswer

def protectNameCb (answers : RequestAnswers) (system : System) :
    Except Panic (Except ObCallbackError NTSTATUS × System) :=
  match answers.input with
  | none => .ok (.error .invalidParameter, system)
  | some input =>
      if answers.granted = false then .ok (.error .unicodeError, system)
      else
        let protect :=
          { system.protect with
            protectData :=
              { system.protect.protectData with name := input.name } }
        match protect.registerCallback answers.register system.ob with
        | .error panic => .error panic
        | .ok (.error error, protect, ob) =>
            .ok (.error error, { system with protect := protect, ob := ob })
        | .ok (.ok (), protect, ob) =>
            let system := { system with protect := protect, ob := ob }
            if input.operation = protectNameProtect then
              .ok
                (.ok statusSuccess,
                  { system with
                    protectNameFlag := true, rejectNameFlag := false })
            else if input.operation = protectNameReject then
              .ok
                (.ok statusSuccess,
                  { system with
                    protectNameFlag := false, rejectNameFlag := true })
            else .ok (.error .invalidParameter, system)

def protectName (inputSize : Nat) (answers : RequestAnswers)
    (system : System) :
    Except Panic (Except ObCallbackError NTSTATUS × System) :=
  if inputSize < sizeOfProtectNameInput then
    .ok (.error .invalidParameter, system)
  else if system.protect.callbackInstalled then
    .ok (.ok statusSuccess, system)
  else
    match protectNameCb answers system with
    | .error panic => .error panic
    | .ok (.error error, system) => .ok (.error error, system)
    | .ok (.ok _, system) => .ok (.ok statusSuccess, system)

def unprotect (system : System) :
    Except ObCallbackError NTSTATUS × System :=
  if system.protect.callbackInstalled then
    match system.protect.deleteProtectNameCb system.ob with
    | (.error error, protect, ob) =>
        (.error error, { system with protect := protect, ob := ob })
    | (.ok (), protect, ob) =>
        (.ok statusSuccess, { system with protect := protect, ob := ob })
  else (.ok statusSuccess, system)

/-- `unwrap_or(STATUS_UNSUCCESSFUL)` -/
def statusOf : Except ObCallbackError NTSTATUS → NTSTATUS
  | .ok status => status
  | .error _ => statusUnsuccessful

/-- The status that the request is completed with. -/
def deviceControl (ioctl : UInt32) (inputSize : Nat)
    (answers : RequestAnswers) (system : System) :
    Except Panic (NTSTATUS × System) :=
  if ioctl = tdIoctlProtectNameCallback then
    match protectName inputSize answers system with
    | .error panic => .error panic
    | .ok (result, system) => .ok (statusOf result, system)
  else if ioctl = tdIoctlUnprotectCallback then
    let (result, system) := unprotect system
    .ok (statusOf result, system)
  else .ok (Sioctl.statusInvalidDeviceRequest, system)

/-! ## New processes -/

/-- The first critical section of `process_notify_cb`, for a process that is
not about to exit. The file name is empty where there is none. -/
def protectMatch (toLowercase : String → String) (process : Address)
    (pid : Nat) (filename : List UInt16) (system : System) : System :=
  if system.protectNameFlag ∧ filename ≠ [] then
    { system with
      protect :=
        (system.protect.checkProcessMatch toLowercase process pid
          filename).2 }
  else system

/-- The second one. -/
def rejectMatch (toLowercase : String → String) (process : Address)
    (pid : Nat) (filename : List UInt16) (system : System) : System :=
  if system.rejectNameFlag ∧ filename ≠ [] then
    let (status, protect) :=
      system.protect.checkProcessMatch toLowercase process pid filename
    { system with
      protect := protect
      denied :=
        if status = statusSuccess then pid :: system.denied
        else system.denied }
  else system

/-! ## Runs -/

/-- Requests and new processes come in any order; each event is what runs
under the mutex at once. -/
inductive Event where
  | load (driverExtension : Bool) (answers : LoadAnswers)
  | deviceControl (ioctl : UInt32) (inputSize : Nat)
      (answers : RequestAnswers)
  | protectMatch (process : Address) (pid : Nat) (filename : List UInt16)
  | rejectMatch (process : Address) (pid : Nat) (filename : List UInt16)
  | unload (answers : LeaveAnswers)

/-- The kernel calls the notify routine while it has one, and never issues a
handle that is null or live. -/
def step (toLowercase : String → String) (system : System)
    (event : Event) : Option System :=
  if system.panicked.isSome then none
  else
    match event, system.phase with
    | .load driverExtension answers, .entry =>
        if system.devices.CanCreate answers.device ∧
            CanLink system.devices win32Name answers.link then
          match init driverExtension answers system with
          | (false, _, system) => some { system with phase := .gone }
          | (true, object, system) =>
              some { system with phase := .loaded object }
        else none
    | .deviceControl ioctl inputSize answers, .loaded _ =>
        if WduObCallback.possible system.ob answers.register then
          match deviceControl ioctl inputSize answers system with
          | .error panic => some { system with panicked := some panic }
          | .ok (_, system) => some system
        else none
    | .protectMatch process pid filename, .loaded _ =>
        if system.notify.kernel = [] then none
        else some (protectMatch toLowercase process pid filename system)
    | .rejectMatch process pid filename, .loaded _ =>
        if system.notify.kernel = [] then none
        else some (rejectMatch toLowercase process pid filename system)
    | .unload answers, .loaded object =>
        if object.driverUnload = some .driverUnload then
          match WduDriver.driverUnload object with
          | .error panic => some { system with panicked := some panic }
          | .ok none => some { system with phase := .gone }
          | .ok (some _) =>
              some { driverUnload answers system with phase := .gone }
        else none
    | _, _ => none

/-! ## The registrations of the wrapper -/

/-- What is in the wrapper after so many calls of `register_callback`. -/
def pairs : Nat → List WduObOpRegistration
  | 0 => []
  | count + 1 =>
      pairs count ++ [registration .process, registration .thread]

/-- The entry that the kernel gets for one of them. -/
def entry (objectType : NtObjectType) : ObOperationRegistration where
  objectType := objectType
  operations := obOperationHandleCreate ||| obOperationHandleDuplicate
  preOperation := some .preOpInternal
  postOperation := some .postOpInternal

def entries : Nat → List ObOperationRegistration
  | 0 => []
  | count + 1 => entries count ++ [entry .psProcessType, entry .psThreadType]

def native (count : Nat) : ObCallbackRegistration where
  version := obFltRegistrationVersion
  operationRegistrationCount := UInt16.ofNat (pairs count).length
  altitude := altitude
  registrationContext := protectCallbackAddress
  operationRegistration := entries count

theorem pairs_succ (count : Nat) :
    pairs (count + 1) =
      registration .process :: registration .thread :: pairs count := by
  induction count with
  | zero => rfl
  | succ count inductionHypothesis =>
      exact
        congrArg (· ++ [registration .process, registration .thread])
          inductionHypothesis

theorem entries_succ (count : Nat) :
    entries (count + 1) =
      entry .psProcessType :: entry .psThreadType :: entries count := by
  induction count with
  | zero => rfl
  | succ count inductionHypothesis =>
      exact
        congrArg (· ++ [entry .psProcessType, entry .psThreadType])
          inductionHypothesis

theorem mapM_pairs (count : Nat) :
    (pairs count).mapM WduObOpRegistration.intoNative =
      .ok (entries count) := by
  induction count with
  | zero => rfl
  | succ count inductionHypothesis =>
      rw [pairs_succ, entries_succ, List.mapM_cons, List.mapM_cons,
        inductionHypothesis]
      rfl

/-- The wrapper lies in the image, and has the registrations of so many
attempts. -/
structure Pushed (callback : WduObCallback) (count : Nat) : Prop where
  address : callback.address = protectCallbackAddress
  operations : callback.operations = pairs count

theorem Pushed.push
    {callback : WduObCallback} {count : Nat}
    (pushed : Pushed callback count) :
    Pushed
      ((callback.pushOpRegistration
        (registration .process)).pushOpRegistration (registration .thread))
      (count + 1) := by
  refine ⟨pushed.address, ?_⟩
  rw [pairs, ← pushed.operations]
  simp [WduObCallback.pushOpRegistration]

theorem Pushed.native
    {callback : WduObCallback} {count : Nat}
    (pushed : Pushed callback count) :
    callback.nativeRegistration altitude = .ok (native count) := by
  unfold WduObCallback.nativeRegistration
  rw [pushed.operations, mapM_pairs]
  dsimp only
  rw [pushed.address]
  rfl

/-! ## What a request does -/

/-- The request comes as far as `register_callback`. -/
structure Attempts (system : System) (ioctl : UInt32) (inputSize : Nat)
    (answers : RequestAnswers) : Prop where
  protects : ioctl = tdIoctlProtectNameCallback
  sized : sizeOfProtectNameInput ≤ inputSize
  free : system.protect.callbackInstalled = false
  input : answers.input.isSome = true
  granted : answers.granted = true

/-- The kernel takes the registration. -/
def Accepted (answer : ObAnswer) : Prop :=
  answer.reserved = true ∧ ntSuccess answer.status

/-- What a request leaves alone. -/
structure Framed (system next : System) : Prop where
  phase : next.phase = system.phase
  devices : next.devices = system.devices
  notify : next.notify = system.notify
  denied : next.denied = system.denied
  panicked : next.panicked = system.panicked
  target :
    next.protect.protectData.targetProcess =
        system.protect.protectData.targetProcess ∧
      next.protect.protectData.targetProcessId =
        system.protect.protectData.targetProcessId

/-- A request that is not about the callback, or finds it as it should be,
does nothing. Another one unregisters it, or pushes two registrations, which
the kernel refuses or takes. -/
inductive Requested (system : System) (ioctl : UInt32) (inputSize : Nat)
    (answers : RequestAnswers) (count : Nat) : System → Prop
  | quiet (other : ¬ Attempts system ioctl inputSize answers) :
      Requested system ioctl inputSize answers count system
  | released
      (other : ¬ Attempts system ioctl inputSize answers)
      (installed : system.protect.callbackInstalled = true) :
      Requested system ioctl inputSize answers count
        { system with
          protect := (system.protect.deleteProtectNameCb system.ob).2.1
          ob := (system.protect.deleteProtectNameCb system.ob).2.2 }
  | refused {next}
      (attempts : Attempts system ioctl inputSize answers)
      (refused : ¬ Accepted answers.register)
      (framed : Framed system next)
      (pushed : Pushed next.protect.callback (count + 1))
      (handle :
        next.protect.callback.handle = system.protect.callback.handle)
      (ob : next.ob = system.ob)
      (free : next.protect.callbackInstalled = false)
      (name :
        ∃ input ∈ answers.input,
          next.protect.protectData.name = input.name)
      (flags :
        next.protectNameFlag = system.protectNameFlag ∧
          next.rejectNameFlag = system.rejectNameFlag) :
      Requested system ioctl inputSize answers count next
  | registered {next}
      (attempts : Attempts system ioctl inputSize answers)
      (accepted : Accepted answers.register)
      (framed : Framed system next)
      (pushed : Pushed next.protect.callback (count + 1))
      (handle : next.protect.callback.handle = answers.register.handle)
      (ob :
        next.ob =
          ⟨system.ob.handles.issue answers.register.handle,
            (answers.register.handle, native (count + 1)) ::
              system.ob.registrations⟩)
      (installed :
        next.protect.callbackInstalled = true ↔
          answers.register.status = statusSuccess)
      (name :
        ∃ input ∈ answers.input,
          next.protect.protectData.name = input.name) :
      Requested system ioctl inputSize answers count next

/-- The two ends of `register_callback`, of which the first is reached by
every registration that the kernel refuses. -/
theorem registerCallback_cases
    {protect : Protect} {answer : ObAnswer} {kernel : ObKernel}
    {count : Nat} (pushed : Pushed protect.callback count) :
    ∃ result after kernelAfter,
      protect.registerCallback answer kernel =
          .ok (result, after, kernelAfter) ∧
        after.protectData = protect.protectData ∧
        Pushed after.callback (count + 1) ∧
        ((¬ Accepted answer ∧ (∃ error, result = .error error) ∧
            after.callback.handle = protect.callback.handle ∧
            kernelAfter = kernel ∧
            after.callbackInstalled = protect.callbackInstalled) ∨
          (Accepted answer ∧
            after.callback.handle = answer.handle ∧
            kernelAfter =
              ⟨kernel.handles.issue answer.handle,
                (answer.handle, native (count + 1)) ::
                  kernel.registrations⟩ ∧
            ((answer.status = statusSuccess ∧ result = .ok () ∧
                after.callbackInstalled = true) ∨
              (answer.status ≠ statusSuccess ∧
                (∃ error, result = .error error) ∧
                after.callbackInstalled =
                  protect.callbackInstalled)))) := by
  have grown := pushed.push
  have notEmpty :
      ((protect.callback.pushOpRegistration
        (registration .process)).pushOpRegistration
          (registration .thread)).operations ≠ [] := by
    rw [grown.operations, pairs_succ]
    exact List.cons_ne_nil _ _
  cases returned :
      ((protect.callback.pushOpRegistration
        (registration .process)).pushOpRegistration
          (registration .thread)).register altitude answer kernel with
  | error panic =>
      exfalso
      unfold WduObCallback.register at returned
      rw [grown.native] at returned
      split at returned
      · cases returned
      · split at returned
        · cases returned
        · dsimp only at returned
          split at returned <;> cases returned
  | ok triple =>
      obtain ⟨result, callback, after⟩ := triple
      unfold Protect.registerCallback
      simp only [returned]
      rcases WduObCallback.register_effect returned with
        ⟨rfl, rfl, ⟨error, rfl⟩, refused⟩ |
          ⟨made, native, reached, rfl, rfl, rfl⟩
      · exact
          ⟨_, _, _, rfl, rfl, grown,
            .inl
              ⟨fun accepted => refused ⟨notEmpty, accepted⟩, ⟨_, rfl⟩, rfl,
                rfl, rfl⟩⟩
      · have same := Except.ok.inj (native.symm.trans grown.native)
        subst same
        by_cases plain : answer.status = statusSuccess
        · rw [if_pos plain]
          exact
            ⟨_, _, _, rfl, rfl, ⟨grown.address, grown.operations⟩,
              .inr ⟨reached.2, rfl, rfl, .inl ⟨plain, rfl, rfl⟩⟩⟩
        · rw [if_neg plain]
          exact
            ⟨_, _, _, rfl, rfl, ⟨grown.address, grown.operations⟩,
              .inr
                ⟨reached.2, rfl, rfl, .inr ⟨plain, ⟨_, rfl⟩, rfl⟩⟩⟩

/-- A request that comes as far as `register_callback`. -/
theorem protectNameCb_requested
    {system : System} {ioctl : UInt32} {inputSize : Nat}
    {answers : RequestAnswers} {count : Nat}
    (pushed : Pushed system.protect.callback count)
    (attempts : Attempts system ioctl inputSize answers) :
    ∃ result next,
      protectNameCb answers system = .ok (result, next) ∧
        Requested system ioctl inputSize answers count next := by
  obtain ⟨input, same⟩ := Option.isSome_iff_exists.mp attempts.input
  have granted := attempts.granted
  unfold protectNameCb
  rw [same]
  dsimp only
  rw [if_neg (by simp [granted])]
  let protect : Protect :=
    { system.protect with
      protectData := { system.protect.protectData with name := input.name } }
  obtain ⟨result, after, kernelAfter, returned, data, grown, outcome⟩ :=
    @registerCallback_cases protect answers.register system.ob count pushed
  rw [returned]
  have named :
      ∃ given ∈ answers.input, after.protectData.name = given.name :=
    ⟨input, same, by rw [data]⟩
  have target :
      after.protectData.targetProcess =
          system.protect.protectData.targetProcess ∧
        after.protectData.targetProcessId =
          system.protect.protectData.targetProcessId := by
    rw [data]
    exact ⟨rfl, rfl⟩
  rcases outcome with
    ⟨refused, ⟨error, rfl⟩, handle, ob, installed⟩ |
      ⟨accepted, handle, ob, done⟩
  · exact
      ⟨_, _, rfl,
        .refused attempts refused ⟨rfl, rfl, rfl, rfl, rfl, target⟩ grown
          handle ob (installed.trans attempts.free) named ⟨rfl, rfl⟩⟩
  · rcases done with
      ⟨plain, rfl, installed⟩ | ⟨unplain, ⟨error, rfl⟩, installed⟩
    · have known :
          after.callbackInstalled = true ↔
            answers.register.status = statusSuccess :=
        iff_of_true installed plain
      dsimp only
      split
      · exact
          ⟨_, _, rfl,
            .registered attempts accepted ⟨rfl, rfl, rfl, rfl, rfl, target⟩
              grown handle ob known named⟩
      · split
        · exact
            ⟨_, _, rfl,
              .registered attempts accepted
                ⟨rfl, rfl, rfl, rfl, rfl, target⟩ grown handle ob known
                named⟩
        · exact
            ⟨_, _, rfl,
              .registered attempts accepted
                ⟨rfl, rfl, rfl, rfl, rfl, target⟩ grown handle ob known
                named⟩
    · have free : after.callbackInstalled = false :=
        installed.trans attempts.free
      have known :
          after.callbackInstalled = true ↔
            answers.register.status = statusSuccess :=
        iff_of_false (by simp [free]) unplain
      exact
        ⟨_, _, rfl,
          .registered attempts accepted ⟨rfl, rfl, rfl, rfl, rfl, target⟩
            grown handle ob known named⟩

theorem protectName_requested
    {system : System} {inputSize : Nat} {answers : RequestAnswers}
    {count : Nat} (pushed : Pushed system.protect.callback count) :
    ∃ result next,
      protectName inputSize answers system = .ok (result, next) ∧
        Requested system tdIoctlProtectNameCallback inputSize answers count
          next := by
  unfold protectName
  split
  case isTrue small =>
      refine ⟨_, _, rfl, .quiet fun attempts => ?_⟩
      exact absurd attempts.sized (by omega)
  case isFalse sized =>
      split
      case isTrue installed =>
          refine ⟨_, _, rfl, .quiet fun attempts => ?_⟩
          rw [attempts.free] at installed
          cases installed
      case isFalse free =>
          by_cases reaches :
              answers.input.isSome = true ∧ answers.granted = true
          · have attempts :
                Attempts system tdIoctlProtectNameCallback inputSize
                  answers :=
              ⟨rfl, Nat.le_of_not_lt sized, Bool.eq_false_iff.mpr free,
                reaches.1, reaches.2⟩
            obtain ⟨result, next, returned, requested⟩ :=
              protectNameCb_requested pushed attempts
            rw [returned]
            cases result with
            | error error => exact ⟨_, _, rfl, requested⟩
            | ok status => exact ⟨_, _, rfl, requested⟩
          · have early :
                ∃ error,
                  protectNameCb answers system =
                    .ok (.error error, system) := by
              unfold protectNameCb
              cases input : answers.input with
              | none => exact ⟨_, rfl⟩
              | some given =>
                  have notGranted : answers.granted = false := by
                    rw [input] at reaches
                    simpa using reaches
                  exact ⟨_, if_pos notGranted⟩
            obtain ⟨error, returned⟩ := early
            rw [returned]
            refine ⟨_, _, rfl, .quiet fun attempts => ?_⟩
            exact reaches ⟨attempts.input, attempts.granted⟩

theorem unprotect_eq (system : System) :
    (unprotect system).2 =
      if system.protect.callbackInstalled then
        { system with
          protect := (system.protect.deleteProtectNameCb system.ob).2.1
          ob := (system.protect.deleteProtectNameCb system.ob).2.2 }
      else system := by
  unfold unprotect
  split
  · cases system.protect.deleteProtectNameCb system.ob with
    | mk result pair => cases result <;> rfl
  · rfl

/-- No request makes the driver panic, since only two types are pushed. -/
theorem deviceControl_requested
    {system : System} {count : Nat}
    (pushed : Pushed system.protect.callback count) (ioctl : UInt32)
    (inputSize : Nat) (answers : RequestAnswers) :
    ∃ status next,
      deviceControl ioctl inputSize answers system = .ok (status, next) ∧
        Requested system ioctl inputSize answers count next := by
  unfold deviceControl
  split
  case isTrue protects =>
      subst protects
      obtain ⟨result, next, returned, requested⟩ :=
        @protectName_requested system inputSize answers count pushed
      rw [returned]
      exact ⟨_, _, rfl, requested⟩
  case isFalse other =>
      have notAttempts : ¬ Attempts system ioctl inputSize answers :=
        fun attempts => other attempts.protects
      split
      case isTrue unprotects =>
          refine
            ⟨statusOf (unprotect system).1, (unprotect system).2, rfl, ?_⟩
          rw [unprotect_eq]
          split
          case isTrue installed => exact .released notAttempts installed
          case isFalse free => exact .quiet notAttempts
      case isFalse unknown => exact ⟨_, _, rfl, .quiet notAttempts⟩

/-! ## What an event does -/

/-- All that a step can do, if the wrapper has the registrations of so many
attempts. A driver object without `driver_unload` is left alone at the end, or
makes the library panic. -/
inductive Change (toLowercase : String → String) (system : System)
    (count : Nat) : Event → System → Prop
  | notLoaded {driverExtension answers object after}
      (entered : system.phase = .entry)
      (possible : system.devices.CanCreate answers.device)
      (ended :
        init driverExtension answers system = (false, object, after)) :
      Change toLowercase system count (.load driverExtension answers)
        { after with phase := .gone }
  | loaded {driverExtension answers object after}
      (entered : system.phase = .entry)
      (possible : system.devices.CanCreate answers.device)
      (ended :
        init driverExtension answers system = (true, object, after)) :
      Change toLowercase system count (.load driverExtension answers)
        { after with phase := .loaded object }
  | deviceControl {ioctl inputSize answers object next}
      (loaded : system.phase = .loaded object)
      (possible : WduObCallback.possible system.ob answers.register)
      (requested :
        Requested system ioctl inputSize answers count next) :
      Change toLowercase system count
        (.deviceControl ioctl inputSize answers) next
  | protectMatch {process pid filename object}
      (loaded : system.phase = .loaded object) :
      Change toLowercase system count (.protectMatch process pid filename)
        (protectMatch toLowercase process pid filename system)
  | rejectMatch {process pid filename object}
      (loaded : system.phase = .loaded object) :
      Change toLowercase system count (.rejectMatch process pid filename)
        (rejectMatch toLowercase process pid filename system)
  | unloaded {answers object pfn}
      (loaded : system.phase = .loaded object)
      (called : WduDriver.driverUnload object = .ok (some pfn)) :
      Change toLowercase system count (.unload answers)
        { driverUnload answers system with phase := .gone }
  | left {answers object}
      (loaded : system.phase = .loaded object)
      (called : WduDriver.driverUnload object = .ok none) :
      Change toLowercase system count (.unload answers)
        { system with phase := .gone }
  | panicked {answers object panic}
      (loaded : system.phase = .loaded object)
      (called : WduDriver.driverUnload object = .error panic) :
      Change toLowercase system count (.unload answers)
        { system with phase := .loaded object, panicked := some panic }

theorem change_of_step
    {toLowercase : String → String} {system next : System} {event : Event}
    {count : Nat} (pushed : Pushed system.protect.callback count)
    (stepped : step toLowercase system event = some next) :
    Change toLowercase system count event next := by
  obtain ⟨_, stepped⟩ := Option.ite_none_left_eq_some.mp stepped
  cases phase : system.phase with
  | entry =>
      rw [phase] at stepped
      cases event with
      | load driverExtension answers =>
          obtain ⟨⟨possible, _⟩, stepped⟩ :=
            Option.ite_none_right_eq_some.mp stepped
          cases ended : init driverExtension answers system with
          | mk succeeded pair =>
              obtain ⟨object, after⟩ := pair
              rw [ended] at stepped
              cases succeeded with
              | false =>
                  cases stepped
                  exact .notLoaded phase possible ended
              | true =>
                  cases stepped
                  exact .loaded phase possible ended
      | deviceControl ioctl inputSize answers => cases stepped
      | protectMatch process pid filename => cases stepped
      | rejectMatch process pid filename => cases stepped
      | unload answers => cases stepped
  | gone =>
      rw [phase] at stepped
      cases event <;> cases stepped
  | loaded object =>
      rw [phase] at stepped
      cases event with
      | load driverExtension answers => cases stepped
      | deviceControl ioctl inputSize answers =>
          obtain ⟨possible, stepped⟩ :=
            Option.ite_none_right_eq_some.mp stepped
          obtain ⟨status, after, returned, requested⟩ :=
            deviceControl_requested pushed ioctl inputSize answers
          rw [returned] at stepped
          cases stepped
          exact .deviceControl phase possible requested
      | protectMatch process pid filename =>
          obtain ⟨_, stepped⟩ := Option.ite_none_left_eq_some.mp stepped
          cases stepped
          exact .protectMatch phase
      | rejectMatch process pid filename =>
          obtain ⟨_, stepped⟩ := Option.ite_none_left_eq_some.mp stepped
          cases stepped
          exact .rejectMatch phase
      | unload answers =>
          obtain ⟨_, stepped⟩ :=
            Option.ite_none_right_eq_some.mp stepped
          cases called : WduDriver.driverUnload object with
          | error panic =>
              rw [called] at stepped
              cases stepped
              exact .panicked phase called
          | ok result =>
              rw [called] at stepped
              cases result with
              | none =>
                  cases stepped
                  exact .left phase called
              | some pfn =>
                  cases stepped
                  exact .unloaded phase called

end ObCallbackDriver

end WinDrvUtils

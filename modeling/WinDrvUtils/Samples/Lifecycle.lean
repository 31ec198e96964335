import WinDrvUtils.Io.Device
import WinDrvUtils.Library.Utf16
import WinDrvUtils.Samples.Event
import WinDrvUtils.Samples.Sioctl

/-!
# Loading and unloading a sample

`init` of a sample makes one device and a symbolic link to it, and
`driver_unload` deletes both. When the link is refused, `init` deletes the
device at once and still returns `Ok`, so the driver stays loaded without a
device. What follows in `init`, and later in `driver_unload`, has to be ready
for that; in `event` it is not.
-/

namespace WinDrvUtils

open StepSystem

/-- The trampoline `driver_unload`: the handler that it calls. -/
def WduDriver.driverUnload (object : DriverObject) :
    Except Panic (Option CodePtr) :=
  match object.wduExtension with
  | none => .ok none
  | some driver =>
      if driver.init then .ok driver.unload
      else .error (.assertion "(*wdu_driver).init")

namespace Lifecycle

/-- How the kernel answers during `init`: the driver extension, the device
and the link. -/
structure InitAnswers where
  driver : NTSTATUS
  device : DeviceAnswer
  link : NTSTATUS
  deriving DecidableEq, Repr

/-- How the kernel answers during `driver_unload`, and whether the event
queue of the extension is empty. -/
structure UnloadAnswers where
  link : NTSTATUS
  queueEmpty : Bool
  deriving DecidableEq, Repr

def deviceBuilder : WduDevice :=
  (WduDevice.default.setDeviceType .unknown).setCharacteristics .secureOpen

/-- The part that the samples share: a device of an unknown type with
`SecureOpen`, and a link to it. -/
def createDevice (sizeOfT : Nat) (deviceName win32Name : DeviceName)
    (answers : InitAnswers) (kernel : DeviceKernel) :
    WduDeviceResult WduDevice × DeviceKernel :=
  match
    deviceBuilder.build sizeOfT (some deviceName) answers.device kernel with
  | (.error error, kernel) => (.error error, kernel)
  | (.ok device, kernel) =>
      match
        device.symbolicName deviceName win32Name answers.link kernel with
      | (.error _, kernel) => (.ok device, device.delete kernel)
      | (.ok _, kernel) => (.ok device, kernel)

end Lifecycle

open Lifecycle

/-! ## `sioctl` -/

namespace Sioctl

def deviceName : DeviceName := Utf16.encode "\\Device\\SIOCTL".toList

def win32Name : DeviceName := Utf16.encode "\\DosDevices\\IoctlTest".toList

/-- Whether it succeeds; the extension of the device is of size zero. -/
def init (driverExtension : Bool) (answers : InitAnswers)
    (kernel : DeviceKernel) : Bool × DriverObject × DeviceKernel :=
  match buildDriver driverExtension answers.driver with
  | (.error _, object) => (false, object, kernel)
  | (.ok _, object) =>
      match createDevice 0 deviceName win32Name answers kernel with
      | (.error _, kernel) => (false, object, kernel)
      | (.ok _, kernel) => (true, object, kernel)

def driverUnload (answers : UnloadAnswers) (kernel : DeviceKernel) :
    Except Panic DeviceKernel :=
  let device := WduDriver.device kernel
  let (_, kernel) :=
    WduDevice.deleteSymbolicName win32Name answers.link kernel
  .ok (device.delete kernel)

end Sioctl

/-! ## `event` -/

namespace EventDriver

def deviceName : DeviceName :=
  Utf16.encode "\\Device\\Event_Sample".toList

def win32Name : DeviceName :=
  Utf16.encode "\\DosDevices\\Event_Sample".toList

/-- `DO_BUFFERED_IO` -/
def doBufferedIo : UInt32 := 0x4

/-- A vector, and a spin lock with its queue handle. -/
def sizeOfDeviceExtension : Nat := 72

def createPfn : CodePtr := 1

def closePfn : CodePtr := 2

def cleanupPfn : CodePtr := 3

def deviceControlPfn : CodePtr := 4

def driverUnloadPfn : CodePtr := 5

def buildDriver (driverExtension : Bool) (status : NTSTATUS) :
    Except WduDriverError WduDriver × DriverObject :=
  let (driver, object) :=
    WduDriver.new.setUnload driverUnloadPfn
      (DriverObject.atEntry driverExtension)
  let (driver, object) :=
    driver.fileObject
      { create := some createPfn
        close := some closePfn
        cleanup := some cleanupPfn }
      object
  let (driver, object) :=
    driver.setIo { ioctl := some deviceControlPfn } object
  driver.build status object

/-- The queue and its lock are set up in the extension, and the flag is set,
whether the device is still there or not. -/
def init (driverExtension : Bool) (answers : InitAnswers)
    (kernel : DeviceKernel) : Bool × DriverObject × DeviceKernel :=
  match buildDriver driverExtension answers.driver with
  | (.error _, object) => (false, object, kernel)
  | (.ok _, object) =>
      match
        createDevice sizeOfDeviceExtension deviceName win32Name answers
          kernel with
      | (.error _, kernel) => (false, object, kernel)
      | (.ok device, kernel) =>
          let kernel := device.extension sizeOfDeviceExtension kernel
          (true, object, device.setFlags doBufferedIo kernel)

/-- The extension is read before anything is deleted. -/
def driverUnload (answers : UnloadAnswers) (kernel : DeviceKernel) :
    Except Panic DeviceKernel :=
  let device := WduDriver.device kernel
  let kernel := device.extension sizeOfDeviceExtension kernel
  if answers.queueEmpty = false then
    .error (.assertion "Event Queue is not empty")
  else
    let (_, kernel) :=
      WduDevice.deleteSymbolicName win32Name answers.link kernel
    .ok (device.delete kernel)

end EventDriver

/-! ## Loading and unloading over and over -/

namespace Lifecycle

/-- What a sample is to the system that loads it. -/
structure Sample where
  win32Name : DeviceName
  init : Bool → InitAnswers → DeviceKernel →
    Bool × DriverObject × DeviceKernel
  driverUnload : UnloadAnswers → DeviceKernel → Except Panic DeviceKernel

def sioctl : Sample where
  win32Name := Sioctl.win32Name
  init := Sioctl.init
  driverUnload := Sioctl.driverUnload

def event : Sample where
  win32Name := EventDriver.win32Name
  init := EventDriver.init
  driverUnload := EventDriver.driverUnload

/-- `loaded` is the driver object while the driver is loaded. -/
structure System where
  kernel : DeviceKernel
  loaded : Option DriverObject
  panicked : Option Panic

def System.new : System :=
  ⟨DeviceKernel.new, none, none⟩

inductive Event where
  | load (driverExtension : Bool) (answers : InitAnswers)
  | unload (answers : UnloadAnswers)

/-- A link that exists cannot be made again. -/
def CanLink (kernel : DeviceKernel) (link : DeviceName)
    (status : NTSTATUS) : Prop :=
  ntSuccess status → link ∉ kernel.links.map Prod.fst

instance (kernel : DeviceKernel) (link : DeviceName) (status : NTSTATUS) :
    Decidable (CanLink kernel link status) :=
  inferInstanceAs (Decidable (_ → _))

/-- The I/O manager loads a driver that is not loaded, and calls the unload
routine of one that is. A failed `init` leaves the driver unloaded. The
deletion of the link may be refused, whether the link is there or not. -/
def step (sample : Sample) (system : System) (event : Event) :
    Option System :=
  if system.panicked.isSome then none
  else
    match event, system.loaded with
    | .load driverExtension answers, none =>
        if system.kernel.CanCreate answers.device ∧
            CanLink system.kernel sample.win32Name answers.link then
          match sample.init driverExtension answers system.kernel with
          | (false, _, kernel) => some { system with kernel := kernel }
          | (true, object, kernel) =>
              some { system with kernel := kernel, loaded := some object }
        else none
    | .unload answers, some object =>
        if object.driverUnload = some .driverUnload then
          match WduDriver.driverUnload object with
          | .error panic => some { system with panicked := some panic }
          | .ok none => some { system with loaded := none }
          | .ok (some _) =>
              match sample.driverUnload answers system.kernel with
              | .error panic => some { system with panicked := some panic }
              | .ok kernel => some ⟨kernel, none, none⟩
        else none
    | _, _ => none

/-- No device was deleted that is not there or accessed after that, and a
driver that is not loaded has left neither a device nor a link. -/
structure Tidy (system : System) : Prop where
  clean : system.kernel.devices.stray = []
  reached : system.kernel.astray = []
  calm : system.panicked = none
  left :
    system.loaded = none →
      system.kernel.devices.live = [] ∧ system.kernel.links = []

/-! ## One device and its link -/

section Device

variable {kernel : DeviceKernel}

/-- What a link is about is not what a device is about. -/
theorem sound_of_same
    {other : DeviceKernel} (sound : Device.Sound kernel)
    (devices : other.devices = kernel.devices)
    (objects : other.objects = kernel.objects)
    (astray : other.astray = kernel.astray) :
    Device.Sound other := by
  refine ⟨by rw [devices, sound.clean], by rw [astray, sound.reached], ?_⟩
  intro device live
  rw [devices] at live
  obtain ⟨wrapper, found, same⟩ := sound.copied device live
  refine ⟨wrapper, ?_, same⟩
  rw [WduDevice.getWduDevice, objects]
  exact found

/-- The driver has at most one device, with the extension that was asked for,
and no links but its own. -/
structure OneDevice (sizeOfT : Nat) (win32Name : DeviceName)
    (kernel : DeviceKernel) : Prop where
  sound : Device.Sound kernel
  one :
    kernel.devices.live = [] ∨
      ∃ device,
        device ≠ nullPtr ∧ kernel.devices.live = [device] ∧
          kernel.Reaches device (sizeOfWduDevice + sizeOfT)
  own : ∀ entry ∈ kernel.links, entry.1 = win32Name

/-- The driver has nothing. -/
structure NoDevice (kernel : DeviceKernel) : Prop where
  sound : Device.Sound kernel
  live : kernel.devices.live = []
  links : kernel.links = []

/-- The four ends of `createDevice`. The second one leaves a device that
nobody knows of, and the last one a driver without a device. -/
inductive Created (sizeOfT : Nat) (win32Name : DeviceName)
    (answers : InitAnswers) (kernel : DeviceKernel) :
    WduDeviceResult WduDevice × DeviceKernel → Prop
  | refused {error} (refused : ¬ ntSuccess answers.device.status) :
      Created sizeOfT win32Name answers kernel (.error error, kernel)
  | unreported {error after}
      (unplain : ¬ PlainStatus answers.device.status)
      (live : after.devices.live ≠ []) :
      Created sizeOfT win32Name answers kernel (.error error, after)
  | linked {device after}
      (created : answers.device.status = statusSuccess)
      (link : answers.link = statusSuccess)
      (kept : OneDevice sizeOfT win32Name after)
      (reaches :
        after.Reaches device.device (sizeOfWduDevice + sizeOfT)) :
      Created sizeOfT win32Name answers kernel (.ok device, after)
  | unlinked {device after}
      (created : answers.device.status = statusSuccess)
      (link : answers.link ≠ statusSuccess)
      (set : device.device ≠ nullPtr)
      (kept : OneDevice sizeOfT win32Name after)
      (live : after.devices.live = []) :
      Created sizeOfT win32Name answers kernel (.ok device, after)

/-- What `build` leaves when the creation is reported plainly. -/
theorem build_success
    {builder : WduDevice} {sizeOfT : Nat} {name : DeviceName}
    {answer : DeviceAnswer} (none : NoDevice kernel)
    (possible : kernel.CanCreate answer)
    (room : sizeOfWduDevice + sizeOfT < 2 ^ 32)
    (success : answer.status = statusSuccess) :
    ∃ after,
      builder.build sizeOfT (some name) answer kernel =
          (.ok { builder with device := answer.device }, after) ∧
        Device.Sound after ∧ after.links = [] ∧
        after.devices.live = [answer.device] ∧
        answer.device ≠ nullPtr ∧
        after.Reaches answer.device (sizeOfWduDevice + sizeOfT) := by
  have accepted : ntSuccess answer.status := by
    rw [success]
    exact ntSuccess_statusSuccess
  have size :
      (builder.request sizeOfT (some name)).extensionSize.toNat =
        sizeOfWduDevice + sizeOfT := by
    rw [WduDevice.request, UInt32.toNat_ofNat']
    exact Nat.mod_eq_of_lt room
  have sound :=
    (Device.sound_build_iff none.sound builder sizeOfT (some name)
      answer).mpr
      ⟨fun _ => success, fun _ => by rw [size]; exact Nat.le_add_right _ _⟩
  rw [WduDevice.build_of_success success] at sound ⊢
  have created :
      kernel.ioCreateDevice (builder.request sizeOfT (some name)) answer =
        { kernel with
          devices := kernel.devices.issue answer.device
          objects :=
            Function.update kernel.objects answer.device
              (some ⟨builder.request sizeOfT (some name), 0, .none⟩) } :=
    if_pos accepted
  have live :
      (kernel.devices.issue answer.device).live = [answer.device] := by
    rw [Ledger.issue_live, none.live]
  refine ⟨_, rfl, sound, ?_, ?_, (possible accepted).1, ?_, ?_⟩
  · rw [DeviceKernel.write, DeviceKernel.access_links, created]
    exact none.links
  · rw [DeviceKernel.write, DeviceKernel.access_devices, created, live]
  · rw [DeviceKernel.write, DeviceKernel.access_devices, created, live]
    exact List.mem_singleton_self _
  · refine ⟨{
      request := builder.request sizeOfT (some name)
      flags := 0
      extension := some { builder with device := answer.device } }, ?_, ?_⟩
    · rw [DeviceKernel.write, DeviceKernel.access_objects, created]
      simp
    · exact size.ge

/-- The link that was just made is the only one. -/
theorem own_of_create
    (none : kernel.links = []) (link target : DeviceName)
    (status : NTSTATUS) :
    ∀ entry ∈ (kernel.ioCreateSymbolicLink link target status).links,
      entry.1 = link := by
  intro entry member
  unfold DeviceKernel.ioCreateSymbolicLink at member
  split at member
  · rw [none] at member
    rw [List.mem_singleton.mp member]
  · rw [none] at member
    cases member

/-- The driver's link, if it is there, is deleted when the driver asks for
it. `driver_unload` logs a refusal with `error!` and goes on. -/
def Unlinks (kernel : DeviceKernel) (link : DeviceName)
    (status : NTSTATUS) : Prop :=
  link ∈ kernel.links.map Prod.fst → ntSuccess status

/-- Where there are only links of one name, none is left exactly when that
name is deleted. -/
theorem links_of_delete_iff
    {link : DeviceName} (own : ∀ entry ∈ kernel.links, entry.1 = link)
    (status : NTSTATUS) :
    (kernel.ioDeleteSymbolicLink link status).links = [] ↔
      Unlinks kernel link status := by
  unfold DeviceKernel.ioDeleteSymbolicLink Unlinks
  by_cases deleted : ntSuccess status
  · rw [if_pos deleted]
    refine ⟨fun _ _ => deleted, fun _ => ?_⟩
    apply List.filter_eq_nil_iff.mpr
    intro entry member
    simp [own entry member]
  · rw [if_neg deleted]
    constructor
    · intro none member
      rw [none] at member
      cases member
    · intro unlinks
      apply List.eq_nil_iff_forall_not_mem.mpr
      intro entry member
      apply mt unlinks deleted
      rw [← own entry member]
      exact List.mem_map_of_mem member

theorem own_of_delete
    {link : DeviceName} (own : ∀ entry ∈ kernel.links, entry.1 = link)
    (status : NTSTATUS) :
    ∀ entry ∈ (kernel.ioDeleteSymbolicLink link status).links,
      entry.1 = link := by
  intro entry member
  unfold DeviceKernel.ioDeleteSymbolicLink at member
  split at member
  · exact own entry (List.mem_filter.mp member).1
  · exact own entry member

theorem delete_only
    {device : WduDevice} (sound : Device.Sound kernel)
    (set : device.device ≠ nullPtr)
    (live : kernel.devices.live = [device.device]) :
    Device.Sound (device.delete kernel) ∧
      (device.delete kernel).devices.live = [] ∧
      (device.delete kernel).links = kernel.links := by
  have member : device.device ∈ kernel.devices.live := by
    rw [live]
    exact List.mem_singleton_self _
  refine
    ⟨(Device.sound_delete_iff sound device).mpr fun _ => member, ?_, ?_⟩
  · rw [WduDevice.delete, if_pos set]
    refine (Ledger.release_live_of_mem member).trans ?_
    rw [live, List.erase_cons_head]
  · rw [WduDevice.delete, if_pos set]
    rfl

theorem createDevice_created
    {sizeOfT : Nat} {name win32Name : DeviceName} {answers : InitAnswers}
    (none : NoDevice kernel) (possible : kernel.CanCreate answers.device)
    (room : sizeOfWduDevice + sizeOfT < 2 ^ 32) :
    Created sizeOfT win32Name answers kernel
      (createDevice sizeOfT name win32Name answers kernel) := by
  unfold createDevice
  by_cases success : answers.device.status = statusSuccess
  · obtain ⟨after, built, sound, links, live, set, reaches⟩ :=
      @build_success kernel deviceBuilder sizeOfT name answers.device none
        possible room success
    rw [built]
    dsimp only [WduDevice.symbolicName]
    have own := own_of_create links win32Name name answers.link
    have linkedSound :
        Device.Sound
          (after.ioCreateSymbolicLink win32Name name answers.link) :=
      sound_of_same sound (by simp) (by simp) (by simp)
    have linkedLive :
        (after.ioCreateSymbolicLink win32Name name
          answers.link).devices.live = [answers.device.device] := by
      rw [DeviceKernel.ioCreateSymbolicLink_devices, live]
    by_cases link : answers.link = statusSuccess
    · rw [if_neg (not_not.mpr link)]
      have linkedReaches :
          (after.ioCreateSymbolicLink win32Name name answers.link).Reaches
            answers.device.device (sizeOfWduDevice + sizeOfT) := by
        unfold DeviceKernel.Reaches
        rw [DeviceKernel.ioCreateSymbolicLink_devices,
          DeviceKernel.ioCreateSymbolicLink_objects]
        exact reaches
      refine .linked success link ⟨linkedSound, ?_, own⟩ linkedReaches
      exact .inr ⟨answers.device.device, set, linkedLive, linkedReaches⟩
    · rw [if_pos link]
      let device : WduDevice :=
        { deviceBuilder with device := answers.device.device }
      obtain ⟨deletedSound, deletedLive, deletedLinks⟩ :=
        @delete_only _ device linkedSound set linkedLive
      refine
        .unlinked success link set ⟨deletedSound, .inl deletedLive, ?_⟩
          deletedLive
      rw [deletedLinks]
      exact own
  · rw [WduDevice.build_of_failure success]
    by_cases accepted : ntSuccess answers.device.status
    · refine .unreported (not_plainStatus accepted success) ?_
      rw [DeviceKernel.ioCreateDevice, if_pos accepted]
      exact List.cons_ne_nil _ _
    · rw [DeviceKernel.ioCreateDevice, if_neg accepted]
      exact .refused accepted

/-- The link is to be deleted, and then the device, if there is one: the
device goes whatever becomes of the link. -/
theorem delete_unlinked
    {sizeOfT : Nat} {win32Name : DeviceName} {device : WduDevice}
    (before : OneDevice sizeOfT win32Name kernel)
    (found : device.device = kernel.deviceObject) (status : NTSTATUS) :
    let after :=
      device.delete (kernel.ioDeleteSymbolicLink win32Name status)
    OneDevice sizeOfT win32Name after ∧ after.devices.live = [] ∧
      after.links =
        (kernel.ioDeleteSymbolicLink win32Name status).links := by
  intro after
  have sound :
      Device.Sound (kernel.ioDeleteSymbolicLink win32Name status) :=
    sound_of_same before.sound (by simp) (by simp) (by simp)
  have own := own_of_delete before.own status
  rcases before.one with none | ⟨only, set, live, _⟩
  · have null : device.device = nullPtr := by
      rw [found, DeviceKernel.deviceObject, none]
      rfl
    have same :
        after = kernel.ioDeleteSymbolicLink win32Name status :=
      if_neg (not_not.mpr null)
    have gone :
        (kernel.ioDeleteSymbolicLink win32Name status).devices.live =
          [] := by
      rw [DeviceKernel.ioDeleteSymbolicLink_devices, none]
    rw [same]
    exact ⟨⟨sound, .inl gone, own⟩, gone, rfl⟩
  · have same : device.device = only := by
      rw [found, DeviceKernel.deviceObject, live]
      rfl
    have remains :
        (kernel.ioDeleteSymbolicLink win32Name status).devices.live =
          [device.device] := by
      rw [DeviceKernel.ioDeleteSymbolicLink_devices, live, same]
    have known : device.device ≠ nullPtr := by
      rw [same]
      exact set
    obtain ⟨deletedSound, deletedLive, deletedLinks⟩ :=
      delete_only sound known remains
    refine ⟨⟨deletedSound, .inl deletedLive, ?_⟩, deletedLive, deletedLinks⟩
    intro entry member
    rw [deletedLinks] at member
    exact own entry member

/-- Nothing is left exactly when the link goes as well. -/
theorem delete_cases
    {sizeOfT : Nat} {win32Name : DeviceName} {device : WduDevice}
    (before : OneDevice sizeOfT win32Name kernel)
    (found : device.device = kernel.deviceObject) (status : NTSTATUS) :
    let after :=
      device.delete (kernel.ioDeleteSymbolicLink win32Name status)
    (Unlinks kernel win32Name status ∧ NoDevice after) ∨
      (¬ Unlinks kernel win32Name status ∧ after.links ≠ []) := by
  intro after
  obtain ⟨kept, live, links⟩ := delete_unlinked before found status
  have settled := links_of_delete_iff before.own status
  by_cases unlinks : Unlinks kernel win32Name status
  · exact
      .inl ⟨unlinks, kept.sound, live, links.trans (settled.mpr unlinks)⟩
  · refine .inr ⟨unlinks, fun none => unlinks (settled.mp ?_)⟩
    exact links.symm.trans none

end Device

/-! ## What a sample has to keep to -/

/-- The driver object sends the unload of the driver to a handler. -/
def Unloads (object : DriverObject) : Prop :=
  object.driverUnload = some .driverUnload ∧
    ∃ pfn, WduDriver.driverUnload object = .ok (some pfn)

/-- A load that `loads` allows leaves nothing when it fails and what is to be
`kept` when it succeeds, another one leaves a device or an access that went
astray. What is kept can be unloaded without a rest if `unloads` allows it,
and otherwise this panics or leaves the link. -/
structure Sample.Keeps (sample : Sample) (kept : DeviceKernel → Prop)
    (loads : InitAnswers → Prop)
    (unloads : DeviceKernel → UnloadAnswers → Prop) : Prop where
  sound : ∀ kernel, kept kernel → Device.Sound kernel
  opened :
    ∀ driverExtension answers kernel,
      NoDevice kernel → kernel.CanCreate answers.device →
        ∀ succeeded object after,
          sample.init driverExtension answers kernel =
              (succeeded, object, after) →
            (loads answers ∧
                (succeeded = false → NoDevice after) ∧
                (succeeded = true → Unloads object ∧ kept after)) ∨
              (¬ loads answers ∧
                (after.astray ≠ [] ∨
                  succeeded = false ∧ after.devices.live ≠ []))
  closed :
    ∀ answers kernel,
      kept kernel →
        (unloads kernel answers ∧
            ∃ after,
              sample.driverUnload answers kernel = .ok after ∧
                NoDevice after) ∨
          (¬ unloads kernel answers ∧
            ((∃ panic, sample.driverUnload answers kernel = .error panic) ∨
              ∃ after,
                sample.driverUnload answers kernel = .ok after ∧
                  after.links ≠ []))

def InOrder (loads : InitAnswers → Prop)
    (unloads : DeviceKernel → UnloadAnswers → Prop) (system : System) :
    Event → Prop
  | .load _ answers => loads answers
  | .unload answers => unloads system.kernel answers

structure Invariant (kept : DeviceKernel → Prop) (system : System) :
    Prop where
  calm : system.panicked = none
  left : system.loaded = none → NoDevice system.kernel
  held :
    ∀ object, system.loaded = some object →
      Unloads object ∧ kept system.kernel

section Sample

variable {sample : Sample} {kept : DeviceKernel → Prop}
    {loads : InitAnswers → Prop}
    {unloads : DeviceKernel → UnloadAnswers → Prop}

theorem Invariant.tidy
    (keeps : sample.Keeps kept loads unloads) {system : System}
    (invariant : Invariant kept system) :
    Tidy system := by
  have sound : Device.Sound system.kernel := by
    cases loaded : system.loaded with
    | none => exact (invariant.left loaded).sound
    | some object =>
        exact keeps.sound _ (invariant.held object loaded).2
  refine ⟨sound.clean, sound.reached, invariant.calm, fun unloaded => ?_⟩
  have none := invariant.left unloaded
  exact ⟨none.live, none.links⟩

/-- One load or unload: in order it keeps the invariant, and out of order it
leaves something untidy. -/
theorem invariant_step
    (keeps : sample.Keeps kept loads unloads) {system next : System}
    {event : Event} (invariant : Invariant kept system)
    (stepped : step sample system event = some next) :
    (InOrder loads unloads system event ∧ Invariant kept next) ∨
      (¬ InOrder loads unloads system event ∧ ¬ Tidy next) := by
  obtain ⟨_, stepped⟩ := Option.ite_none_left_eq_some.mp stepped
  cases loaded : system.loaded with
  | none =>
      cases event with
      | unload answers =>
          rw [loaded] at stepped
          cases stepped
      | load driverExtension answers =>
          rw [loaded] at stepped
          obtain ⟨possible, stepped⟩ :=
            Option.ite_none_right_eq_some.mp stepped
          cases ended :
              sample.init driverExtension answers system.kernel with
          | mk succeeded pair =>
              obtain ⟨object, after⟩ := pair
              rw [ended] at stepped
              have outcome :=
                keeps.opened driverExtension answers system.kernel
                  (invariant.left loaded) possible.1 succeeded object after
                  ended
              cases succeeded with
              | false =>
                  cases stepped
                  rcases outcome with ⟨met, failed, _⟩ | ⟨unmet, rest⟩
                  · refine
                      .inl
                        ⟨met, invariant.calm, fun _ => failed rfl,
                          fun _ some => ?_⟩
                    cases some
                  · refine .inr ⟨unmet, fun tidy => ?_⟩
                    rcases rest with astray | ⟨_, live⟩
                    · exact astray tidy.reached
                    · exact live (tidy.left rfl).1
              | true =>
                  cases stepped
                  rcases outcome with ⟨met, _, opened⟩ | ⟨unmet, rest⟩
                  · refine
                      .inl
                        ⟨met, invariant.calm, (fun none => nomatch none),
                          fun _ same => ?_⟩
                    cases same
                    exact opened rfl
                  · refine .inr ⟨unmet, fun tidy => ?_⟩
                    rcases rest with astray | ⟨failed, _⟩
                    · exact astray tidy.reached
                    · cases failed
  | some object =>
      cases event with
      | load driverExtension answers =>
          rw [loaded] at stepped
          cases stepped
      | unload answers =>
          rw [loaded] at stepped
          obtain ⟨_, stepped⟩ :=
            Option.ite_none_right_eq_some.mp stepped
          obtain ⟨⟨_, pfn, called⟩, held⟩ := invariant.held object loaded
          rw [called] at stepped
          rcases keeps.closed answers system.kernel held with
            ⟨met, after, returned, none⟩ |
              ⟨unmet, ⟨panic, failed⟩ | ⟨after, returned, links⟩⟩
          · rw [returned] at stepped
            cases stepped
            refine .inl ⟨met, rfl, fun _ => none, fun _ some => ?_⟩
            cases some
          · rw [failed] at stepped
            cases stepped
            refine .inr ⟨unmet, fun tidy => ?_⟩
            have calm : some panic = none := tidy.calm
            cases calm
          · rw [returned] at stepped
            cases stepped
            exact .inr ⟨unmet, fun tidy => links (tidy.left rfl).2⟩

theorem invariant_new : Invariant kept System.new where
  calm := rfl
  left _ := ⟨Device.sound_new, rfl, rfl⟩
  held _ loaded := nomatch loaded

/-- A sample that keeps to this is tidy along exactly the runs whose loads and
unloads are allowed. -/
theorem Sample.Keeps.tidy_iff
    (keeps : sample.Keeps kept loads unloads) (events : List Event) :
    Always (step sample) Tidy System.new events ↔
      Guarded (step sample) (InOrder loads unloads) System.new events := by
  refine
    always_iff_guarded (fun _ invariant => invariant.tidy keeps)
      (fun system event next invariant met stepped => ?_)
      (fun system event next invariant stepped tidy => ?_)
      invariant_new
  · rcases invariant_step keeps invariant stepped with
      ⟨_, kept⟩ | ⟨unmet, _⟩
    · exact kept
    · exact absurd met unmet
  · rcases invariant_step keeps invariant stepped with
      ⟨met, _⟩ | ⟨_, untidy⟩
    · exact met
    · exact absurd tidy untidy

end Sample

/-! ## The two samples -/

/-- A device that is made is reported plainly. -/
def ReportsDevice (answers : InitAnswers) : Prop :=
  answers.driver = statusSuccess → PlainStatus answers.device.status

/-- And the link to it is made. -/
def MakesLink (answers : InitAnswers) : Prop :=
  answers.driver = statusSuccess →
    PlainStatus answers.device.status ∧
      (answers.device.status = statusSuccess →
        answers.link = statusSuccess)

theorem reportsDevice_of_success
    {answers : InitAnswers}
    (success : answers.device.status = statusSuccess) :
    ReportsDevice answers :=
  fun _ _ => success

end Lifecycle

namespace Sioctl

theorem unloads_builtObject (driverExtension : Bool) :
    Unloads (builtObject driverExtension) :=
  ⟨rfl, driverUnloadPfn, rfl⟩

theorem buildDriver_of_failure
    {status : NTSTATUS} (failure : status ≠ statusSuccess)
    (driverExtension : Bool) :
    ∃ object,
      buildDriver driverExtension status =
        (.error .driverExtAllocFailed, object) :=
  ⟨_, if_pos failure⟩

theorem driverUnload_eq (answers : UnloadAnswers) (kernel : DeviceKernel) :
    driverUnload answers kernel =
      .ok
        ((WduDriver.device kernel).delete
          (kernel.ioDeleteSymbolicLink win32Name answers.link)) := by
  rw [← WduDevice.deleteSymbolicName_snd]
  rfl

theorem sample_keeps :
    Sample.Keeps sioctl (OneDevice 0 win32Name) ReportsDevice
      (fun kernel answers => Unlinks kernel win32Name answers.link) where
  sound _ kept := kept.sound
  opened driverExtension answers kernel none possible succeeded object
      after ended := by
    change init driverExtension answers kernel = _ at ended
    unfold init at ended
    by_cases driver : answers.driver = statusSuccess
    · rw [driver] at ended
      have created :=
        @createDevice_created kernel 0 deviceName win32Name answers none
          possible (by decide)
      have built :
          buildDriver driverExtension statusSuccess =
            (.ok builtDriver, builtObject driverExtension) :=
        rfl
      rw [built] at ended
      cases outcome :
          createDevice 0 deviceName win32Name answers kernel with
      | mk result final =>
          simp only [outcome] at created ended
          cases created with
          | refused refused =>
              cases ended
              exact
                .inl
                  ⟨fun _ accepted => absurd accepted refused,
                    fun _ => none, fun yes => nomatch yes⟩
          | unreported unplain live =>
              cases ended
              exact
                .inr
                  ⟨fun reports => unplain (reports driver),
                    .inr ⟨rfl, live⟩⟩
          | linked success link kept reaches =>
              cases ended
              exact
                .inl
                  ⟨reportsDevice_of_success success, (fun no => nomatch no),
                    fun _ => ⟨unloads_builtObject driverExtension, kept⟩⟩
          | unlinked success link set kept live =>
              cases ended
              exact
                .inl
                  ⟨reportsDevice_of_success success, (fun no => nomatch no),
                    fun _ => ⟨unloads_builtObject driverExtension, kept⟩⟩
    · obtain ⟨failed, same⟩ := buildDriver_of_failure driver driverExtension
      rw [same] at ended
      cases ended
      exact
        .inl
          ⟨fun success => absurd success driver, fun _ => none,
            fun yes => nomatch yes⟩
  closed answers kernel kept := by
    have unloaded := driverUnload_eq answers kernel
    rcases
      @delete_cases kernel 0 win32Name (WduDriver.device kernel) kept rfl
        answers.link with
      ⟨unlinks, none⟩ | ⟨refused, links⟩
    · exact .inl ⟨unlinks, _, unloaded, none⟩
    · exact .inr ⟨refused, .inr ⟨_, unloaded, links⟩⟩

/-- Over every sequence of loads and unloads, whatever fails on the way, the
driver deletes its device once and leaves neither a device nor a link, exactly
when `IoCreateDevice` never reports a device that it makes with another
success than `STATUS_SUCCESS`, and `IoDeleteSymbolicLink` never refuses to
delete the link while it is there. -/
theorem sioctl_tidy_iff (events : List Lifecycle.Event) :
    Always (Lifecycle.step sioctl) Tidy Lifecycle.System.new events ↔
      Guarded (Lifecycle.step sioctl)
        (Lifecycle.InOrder ReportsDevice fun kernel answers =>
          Unlinks kernel win32Name answers.link)
        Lifecycle.System.new events :=
  sample_keeps.tidy_iff events

end Sioctl

namespace EventDriver

/-- The value that `build` has copied to the extension. -/
def builtDriver : WduDriver where
  init := true
  unload := some driverUnloadPfn
  io := { ioctl := some deviceControlPfn }
  fileobj :=
    { create := some createPfn
      close := some closePfn
      cleanup := some cleanupPfn }

theorem unloads_built (driverExtension : Bool) :
    Unloads (buildDriver driverExtension statusSuccess).2 :=
  ⟨rfl, driverUnloadPfn, rfl⟩

theorem buildDriver_of_failure
    {status : NTSTATUS} (failure : status ≠ statusSuccess)
    (driverExtension : Bool) :
    ∃ object,
      buildDriver driverExtension status =
        (.error .driverExtAllocFailed, object) :=
  ⟨_, if_pos failure⟩

/-- While the driver is loaded its device is there. -/
structure DeviceThere (kernel : DeviceKernel) : Prop where
  kept : OneDevice sizeOfDeviceExtension win32Name kernel
  live : kernel.devices.live ≠ []

theorem deviceThere_found
    {kernel : DeviceKernel} (there : DeviceThere kernel) :
    kernel.Reaches (WduDriver.device kernel).device
      (sizeOfWduDevice + sizeOfDeviceExtension) := by
  rcases there.kept.one with none | ⟨device, set, live, reaches⟩
  · exact absurd none there.live
  · have found : (WduDriver.device kernel).device = device := by
      show kernel.devices.live.headD nullPtr = device
      rw [live]
      rfl
    rw [found]
    exact reaches

/-- Setting up the extension and the flags of a device that is there. -/
theorem deviceThere_setUp
    {kernel : DeviceKernel} {device : WduDevice}
    (kept : OneDevice sizeOfDeviceExtension win32Name kernel)
    (reaches :
      kernel.Reaches device.device
        (sizeOfWduDevice + sizeOfDeviceExtension)) :
    DeviceThere
      (device.setFlags doBufferedIo
        (device.extension sizeOfDeviceExtension kernel)) := by
  rw [WduDevice.extension, DeviceKernel.access, if_pos reaches]
  have set : kernel.Reaches device.device 0 :=
    ⟨reaches.1, reaches.2.imp fun _ found => ⟨found.1, Nat.zero_le _⟩⟩
  have devices :
      (device.setFlags doBufferedIo kernel).devices = kernel.devices := by
    rw [WduDevice.setFlags, DeviceKernel.write,
      DeviceKernel.access_devices]
  have links :
      (device.setFlags doBufferedIo kernel).links = kernel.links := by
    rw [WduDevice.setFlags, DeviceKernel.write, DeviceKernel.access_links]
  refine ⟨⟨?_, ?_, ?_⟩, ?_⟩
  · exact
      (Device.sound_setFlags_iff kept.sound device doBufferedIo).mpr set
  · rw [devices]
    rcases kept.one with none | ⟨other, known, live, _⟩
    · exact .inl none
    · have same : device.device = other := by
        have member := reaches.1
        rw [live] at member
        exact List.mem_singleton.mp member
      refine .inr ⟨other, known, live, ?_⟩
      obtain ⟨member, object, found, room⟩ := reaches
      rw [same] at member found
      refine
        ⟨by rw [devices]; exact member,
          { object with flags := object.flags ||| doBufferedIo }, ?_, room⟩
      rw [WduDevice.setFlags, DeviceKernel.write,
        DeviceKernel.access_objects, same, found]
      exact Function.update_self _ _ _
  · rw [links]
    exact kept.own
  · rw [devices]
    exact List.ne_nil_of_mem reaches.1

/-- Setting up what is no longer there goes astray. -/
theorem astray_setUp
    {kernel : DeviceKernel} {device : WduDevice}
    (live : kernel.devices.live = []) :
    (device.setFlags doBufferedIo
      (device.extension sizeOfDeviceExtension kernel)).astray ≠ [] := by
  intro none
  have flags :=
    (DeviceKernel.access_astray_iff _ device.device 0).mp none
  have extension :=
    (DeviceKernel.access_astray_iff kernel device.device
      (sizeOfWduDevice + sizeOfDeviceExtension)).mp flags.1
  have member := extension.2.1
  rw [live] at member
  cases member

theorem driverUnload_eq
    {kernel : DeviceKernel} (there : DeviceThere kernel)
    (answers : UnloadAnswers) :
    driverUnload answers kernel =
      if answers.queueEmpty = false then
        .error (.assertion "Event Queue is not empty")
      else
        .ok
          ((WduDriver.device kernel).delete
            (kernel.ioDeleteSymbolicLink win32Name answers.link)) := by
  have same :
      (WduDriver.device kernel).extension sizeOfDeviceExtension kernel =
        kernel :=
    if_pos (deviceThere_found there)
  rw [← WduDevice.deleteSymbolicName_snd]
  unfold driverUnload
  dsimp only
  rw [same]

theorem sample_keeps :
    Sample.Keeps event DeviceThere MakesLink
      (fun kernel answers =>
        answers.queueEmpty = true ∧
          Unlinks kernel win32Name answers.link) where
  sound _ there := there.kept.sound
  opened driverExtension answers kernel none possible succeeded object
      after ended := by
    change init driverExtension answers kernel = _ at ended
    unfold init at ended
    by_cases driver : answers.driver = statusSuccess
    · rw [driver] at ended
      have created :=
        @createDevice_created kernel sizeOfDeviceExtension deviceName
          win32Name answers none possible (by decide)
      have built :
          buildDriver driverExtension statusSuccess =
            (.ok builtDriver,
              (buildDriver driverExtension statusSuccess).2) :=
        rfl
      rw [built] at ended
      cases outcome :
          createDevice sizeOfDeviceExtension deviceName win32Name answers
            kernel with
      | mk result final =>
          simp only [outcome] at created ended
          cases created with
          | refused refused =>
              cases ended
              exact
                .inl
                  ⟨fun _ =>
                      ⟨fun accepted => absurd accepted refused,
                        fun success =>
                          absurd success
                            (ne_statusSuccess_of_refused refused)⟩,
                    fun _ => none, fun yes => nomatch yes⟩
          | unreported unplain live =>
              cases ended
              exact
                .inr
                  ⟨fun makes => unplain (makes driver).1,
                    .inr ⟨rfl, live⟩⟩
          | linked success link kept reaches =>
              cases ended
              exact
                .inl
                  ⟨fun _ => ⟨fun _ => success, fun _ => link⟩,
                    (fun no => nomatch no),
                    fun _ =>
                      ⟨unloads_built driverExtension,
                        deviceThere_setUp kept reaches⟩⟩
          | unlinked success link set kept live =>
              cases ended
              exact
                .inr
                  ⟨fun makes => link ((makes driver).2 success),
                    .inl (astray_setUp live)⟩
    · obtain ⟨failed, same⟩ := buildDriver_of_failure driver driverExtension
      rw [same] at ended
      cases ended
      exact
        .inl
          ⟨fun success => absurd success driver, fun _ => none,
            fun yes => nomatch yes⟩
  closed answers kernel there := by
    have unloaded := driverUnload_eq there answers
    by_cases empty : answers.queueEmpty = true
    · rw [if_neg (by simp [empty])] at unloaded
      rcases
        @delete_cases kernel sizeOfDeviceExtension win32Name
          (WduDriver.device kernel) there.kept rfl answers.link with
        ⟨unlinks, none⟩ | ⟨refused, links⟩
      · exact .inl ⟨⟨empty, unlinks⟩, _, unloaded, none⟩
      · exact
          .inr ⟨fun both => refused both.2, .inr ⟨_, unloaded, links⟩⟩
    · rw [if_pos (by simpa using empty)] at unloaded
      exact .inr ⟨fun both => empty both.1, .inl ⟨_, unloaded⟩⟩

/-- Over every sequence of loads and unloads the driver is tidy exactly when
each device that is made is reported plainly and gets its link, and at each
unload the event queue is empty and the link, if it is there, is deleted.
Without its link the device is deleted, and `init` writes to its extension and
sets its flags all the same. -/
theorem event_tidy_iff (events : List Lifecycle.Event) :
    Always (Lifecycle.step event) Tidy Lifecycle.System.new events ↔
      Guarded (Lifecycle.step event)
        (Lifecycle.InOrder MakesLink fun kernel answers =>
          answers.queueEmpty = true ∧
            Unlinks kernel win32Name answers.link)
        Lifecycle.System.new events :=
  sample_keeps.tidy_iff events

end EventDriver

end WinDrvUtils

import WinDrvUtils.Nt
import WinDrvUtils.Library.Ledger
import WinDrvUtils.Library.StepSystem

/-!
# Device objects

`WduDevice` is a pointer to a device object and the settings that it is
created with. `build` writes a copy of the wrapper to the front of the device
extension, and `get_wdu_device` finds it there when a packet is dispatched.

A wrapper neither owns its device nor learns that it was deleted: `delete`
leaves the pointer, and `WduDriver::device` makes any number of wrappers of
the same device. Nor does the type of the extension say what `build` asked
for. The kernel notes in `astray` every access to a device that it does not
have, or to more of an extension than there is.
-/

namespace WinDrvUtils

inductive WduDeviceType where
  | acpi
  | diskFileSystem
  | disk
  | fileSystem
  | massStorage
  | unknown
  deriving DecidableEq, Repr

/-- `Into<u32>` -/
def WduDeviceType.toU32 : WduDeviceType → UInt32
  | .acpi => 0x32
  | .diskFileSystem => 0x8
  | .disk => 0x7
  | .fileSystem => 0x9
  | .massStorage => 0x2D
  | .unknown => 0x22

inductive WduDeviceChars where
  | none
  | removableMedia
  | readOnly
  | writeOnce
  | remote
  | mounted
  | virtualVolume
  | autoGeneratedName
  | secureOpen
  | allowAppContainerTraversal
  | portableDevice
  | requireSecCheck
  deriving DecidableEq, Repr

/-- `Into<u32>` -/
def WduDeviceChars.toU32 : WduDeviceChars → UInt32
  | .none => 0x0
  | .removableMedia => 0x1
  | .readOnly => 0x2
  | .writeOnce => 0x8
  | .remote => 0x10
  | .mounted => 0x20
  | .virtualVolume => 0x40
  | .autoGeneratedName => 0x80
  | .secureOpen => 0x100
  | .allowAppContainerTraversal => 0x20000
  | .portableDevice => 0x40000
  | .requireSecCheck => 0x100000

structure WduDevice where
  deviceType : WduDeviceType
  characteristics : WduDeviceChars
  exclusive : Bool
  device : Address
  deriving DecidableEq, Repr

/-- Three fields of one byte, and the pointer behind the padding. -/
def sizeOfWduDevice : Nat := 16

inductive WduDeviceError where
  | createError (status : NTSTATUS)
  | invalidBuilderState
  | genericError (status : NTSTATUS)
  deriving DecidableEq, Repr

abbrev WduDeviceResult (α : Type) := Except WduDeviceError α

abbrev DeviceName := List UInt16

/-- The arguments of `IoCreateDevice`. -/
structure DeviceRequest where
  extensionSize : UInt32
  name : DeviceName
  deviceType : UInt32
  characteristics : UInt32
  exclusive : Bool
  deriving DecidableEq, Repr

/-- `extension` is what stands at the front of the extension, where there is
nothing but zeros before `build` writes to it. -/
structure DeviceObject where
  request : DeviceRequest
  flags : UInt32
  extension : Option WduDevice
  deriving DecidableEq, Repr

/-- The answer of `IoCreateDevice`. -/
structure DeviceAnswer where
  status : NTSTATUS
  device : Address
  deriving DecidableEq, Repr

/-- `objects` is the object that came last to an address. -/
structure DeviceKernel where
  devices : Ledger Address
  objects : Address → Option DeviceObject
  links : List (DeviceName × DeviceName)
  astray : List Address

namespace DeviceKernel

def new : DeviceKernel :=
  ⟨Ledger.empty, fun _ => none, [], []⟩

def ioCreateDevice (kernel : DeviceKernel) (request : DeviceRequest)
    (answer : DeviceAnswer) : DeviceKernel :=
  if ntSuccess answer.status then
    { kernel with
      devices := kernel.devices.issue answer.device
      objects :=
        Function.update kernel.objects answer.device
          (some ⟨request, 0, none⟩) }
  else kernel

def ioDeleteDevice (kernel : DeviceKernel) (device : Address) :
    DeviceKernel :=
  { kernel with devices := kernel.devices.release device }

/-- The kernel has the device, and so many bytes in its extension. -/
def Reaches (kernel : DeviceKernel) (device : Address) (size : Nat) : Prop :=
  device ∈ kernel.devices.live ∧
    ∃ object ∈ kernel.objects device,
      size ≤ object.request.extensionSize.toNat

instance (kernel : DeviceKernel) (device : Address) (size : Nat) :
    Decidable (kernel.Reaches device size) :=
  inferInstanceAs (Decidable (_ ∧ _))

/-- An access to a device object and the first bytes of its extension. -/
def access (kernel : DeviceKernel) (device : Address) (size : Nat) :
    DeviceKernel :=
  if kernel.Reaches device size then kernel
  else { kernel with astray := device :: kernel.astray }

/-- An access that changes the object. -/
def write (kernel : DeviceKernel) (device : Address) (size : Nat)
    (change : DeviceObject → DeviceObject) : DeviceKernel :=
  let kernel := kernel.access device size
  { kernel with
    objects :=
      Function.update kernel.objects device
        ((kernel.objects device).map change) }

def ioCreateSymbolicLink (kernel : DeviceKernel)
    (link target : DeviceName) (status : NTSTATUS) : DeviceKernel :=
  if ntSuccess status then
    { kernel with links := (link, target) :: kernel.links }
  else kernel

def ioDeleteSymbolicLink (kernel : DeviceKernel) (link : DeviceName)
    (status : NTSTATUS) : DeviceKernel :=
  if ntSuccess status then
    { kernel with
      links := kernel.links.filter fun entry => entry.1 != link }
  else kernel

/-- `DeviceObject` of the driver object: the device that came last. -/
def deviceObject (kernel : DeviceKernel) : Address :=
  kernel.devices.live.headD nullPtr

/-- The kernel has no two devices at one address. -/
def CanCreate (kernel : DeviceKernel) (answer : DeviceAnswer) : Prop :=
  ntSuccess answer.status →
    answer.device ≠ nullPtr ∧ answer.device ∉ kernel.devices.live

instance (kernel : DeviceKernel) (answer : DeviceAnswer) :
    Decidable (kernel.CanCreate answer) :=
  inferInstanceAs (Decidable (_ → _))

@[simp]
theorem access_devices
    (kernel : DeviceKernel) (device : Address) (size : Nat) :
    (kernel.access device size).devices = kernel.devices := by
  unfold access
  split <;> rfl

@[simp]
theorem access_objects
    (kernel : DeviceKernel) (device : Address) (size : Nat) :
    (kernel.access device size).objects = kernel.objects := by
  unfold access
  split <;> rfl

@[simp]
theorem access_links
    (kernel : DeviceKernel) (device : Address) (size : Nat) :
    (kernel.access device size).links = kernel.links := by
  unfold access
  split <;> rfl

theorem access_astray_iff
    (kernel : DeviceKernel) (device : Address) (size : Nat) :
    (kernel.access device size).astray = [] ↔
      kernel.astray = [] ∧ kernel.Reaches device size := by
  unfold access
  split
  case isTrue reached => exact ⟨fun none => ⟨none, reached⟩, And.left⟩
  case isFalse missed =>
      exact
        ⟨fun none => absurd none (List.cons_ne_nil _ _), fun both =>
          absurd both.2 missed⟩

@[simp]
theorem ioCreateSymbolicLink_devices
    (kernel : DeviceKernel) (link target : DeviceName)
    (status : NTSTATUS) :
    (kernel.ioCreateSymbolicLink link target status).devices =
      kernel.devices := by
  unfold ioCreateSymbolicLink
  split <;> rfl

@[simp]
theorem ioCreateSymbolicLink_objects
    (kernel : DeviceKernel) (link target : DeviceName)
    (status : NTSTATUS) :
    (kernel.ioCreateSymbolicLink link target status).objects =
      kernel.objects := by
  unfold ioCreateSymbolicLink
  split <;> rfl

@[simp]
theorem ioCreateSymbolicLink_astray
    (kernel : DeviceKernel) (link target : DeviceName)
    (status : NTSTATUS) :
    (kernel.ioCreateSymbolicLink link target status).astray =
      kernel.astray := by
  unfold ioCreateSymbolicLink
  split <;> rfl

@[simp]
theorem ioDeleteSymbolicLink_devices
    (kernel : DeviceKernel) (link : DeviceName) (status : NTSTATUS) :
    (kernel.ioDeleteSymbolicLink link status).devices = kernel.devices := by
  unfold ioDeleteSymbolicLink
  split <;> rfl

@[simp]
theorem ioDeleteSymbolicLink_objects
    (kernel : DeviceKernel) (link : DeviceName) (status : NTSTATUS) :
    (kernel.ioDeleteSymbolicLink link status).objects = kernel.objects := by
  unfold ioDeleteSymbolicLink
  split <;> rfl

@[simp]
theorem ioDeleteSymbolicLink_astray
    (kernel : DeviceKernel) (link : DeviceName) (status : NTSTATUS) :
    (kernel.ioDeleteSymbolicLink link status).astray = kernel.astray := by
  unfold ioDeleteSymbolicLink
  split <;> rfl

end DeviceKernel

namespace WduDevice

def default : WduDevice where
  deviceType := .unknown
  characteristics := .none
  exclusive := false
  device := nullPtr

def wrapDevice (device : Address) : WduDevice :=
  { default with device := device }

/-- The setter `exclusive`. -/
def setExclusive (wrapper : WduDevice) (exclusive : Bool) : WduDevice :=
  { wrapper with exclusive := exclusive }

/-- The setter `device_type`. -/
def setDeviceType (wrapper : WduDevice) (deviceType : WduDeviceType) :
    WduDevice :=
  { wrapper with deviceType := deviceType }

/-- The setter `characteristics`. -/
def setCharacteristics (wrapper : WduDevice)
    (characteristics : WduDeviceChars) : WduDevice :=
  { wrapper with characteristics := characteristics }

def setFlags (wrapper : WduDevice) (flags : UInt32)
    (kernel : DeviceKernel) : DeviceKernel :=
  kernel.write wrapper.device 0 fun object =>
    { object with flags := object.flags ||| flags }

/-- `sizeOfT` is the size of the part of the extension that the driver has for
itself. -/
def request (wrapper : WduDevice) (sizeOfT : Nat)
    (deviceName : Option DeviceName) : DeviceRequest where
  extensionSize := UInt32.ofNat (sizeOfWduDevice + sizeOfT)
  name := deviceName.getD []
  deviceType := wrapper.deviceType.toU32
  characteristics := wrapper.characteristics.toU32
  exclusive := wrapper.exclusive

def build (wrapper : WduDevice) (sizeOfT : Nat)
    (deviceName : Option DeviceName) (answer : DeviceAnswer)
    (kernel : DeviceKernel) : WduDeviceResult WduDevice × DeviceKernel :=
  let kernel :=
    kernel.ioCreateDevice (wrapper.request sizeOfT deviceName) answer
  if answer.status ≠ statusSuccess then
    (.error (.createError answer.status), kernel)
  else
    let wrapper := { wrapper with device := answer.device }
    (.ok wrapper,
      kernel.write wrapper.device sizeOfWduDevice fun object =>
        { object with extension := some wrapper })

theorem build_of_success
    {answer : DeviceAnswer} (success : answer.status = statusSuccess)
    (wrapper : WduDevice) (sizeOfT : Nat) (deviceName : Option DeviceName)
    (kernel : DeviceKernel) :
    wrapper.build sizeOfT deviceName answer kernel =
      (.ok { wrapper with device := answer.device },
        (kernel.ioCreateDevice (wrapper.request sizeOfT deviceName)
            answer).write answer.device sizeOfWduDevice fun object =>
          { object with
            extension := some { wrapper with device := answer.device } }) :=
  if_neg (not_not.mpr success)

theorem build_of_failure
    {answer : DeviceAnswer} (failure : answer.status ≠ statusSuccess)
    (wrapper : WduDevice) (sizeOfT : Nat) (deviceName : Option DeviceName)
    (kernel : DeviceKernel) :
    wrapper.build sizeOfT deviceName answer kernel =
      (.error (.createError answer.status),
        kernel.ioCreateDevice (wrapper.request sizeOfT deviceName) answer) :=
  if_pos failure

def delete (wrapper : WduDevice) (kernel : DeviceKernel) : DeviceKernel :=
  if wrapper.device ≠ nullPtr then kernel.ioDeleteDevice wrapper.device
  else kernel

/-- The wrapper is not read. -/
def symbolicName (_ : WduDevice) (deviceName symbolicName : DeviceName)
    (status : NTSTATUS) (kernel : DeviceKernel) :
    WduDeviceResult Unit × DeviceKernel :=
  let kernel := kernel.ioCreateSymbolicLink symbolicName deviceName status
  if status ≠ statusSuccess then (.error (.genericError status), kernel)
  else (.ok (), kernel)

def deleteSymbolicName (symbolicName : DeviceName) (status : NTSTATUS)
    (kernel : DeviceKernel) : WduDeviceResult Unit × DeviceKernel :=
  let kernel := kernel.ioDeleteSymbolicLink symbolicName status
  if status ≠ statusSuccess then (.error (.genericError status), kernel)
  else (.ok (), kernel)

theorem deleteSymbolicName_snd
    (symbolicName : DeviceName) (status : NTSTATUS)
    (kernel : DeviceKernel) :
    (deleteSymbolicName symbolicName status kernel).2 =
      kernel.ioDeleteSymbolicLink symbolicName status := by
  unfold deleteSymbolicName
  dsimp only
  split <;> rfl

/-- What a packet is dispatched with. -/
def getWduDevice (device : Address) (kernel : DeviceKernel) :
    Option WduDevice :=
  (kernel.objects device).bind DeviceObject.extension

/-- `extension`, `extension_as_ref`, `extension_as_mut_ref` and the two that
give pointers: the part of the driver is behind the copy of the wrapper. -/
def extension (wrapper : WduDevice) (sizeOfT : Nat)
    (kernel : DeviceKernel) : DeviceKernel :=
  kernel.access wrapper.device (sizeOfWduDevice + sizeOfT)

end WduDevice

/-- The method, which makes a wrapper of null when there is no device. -/
def WduDriver.device (kernel : DeviceKernel) : WduDevice :=
  WduDevice.wrapDevice kernel.deviceObject

/-! ## Runs over the wrappers of a driver -/

namespace Device

open StepSystem

structure System where
  kernel : DeviceKernel
  wrappers : List WduDevice

def System.new : System :=
  ⟨DeviceKernel.new, []⟩

/-- A wrapper is named by its place in the list. -/
inductive Event where
  | build (settings : WduDevice) (sizeOfT : Nat)
      (deviceName : Option DeviceName) (answer : DeviceAnswer)
  | device
  | setFlags (index : Nat) (flags : UInt32)
  | extension (index : Nat) (sizeOfT : Nat)
  | delete (index : Nat)
  | drop (index : Nat)

def step (system : System) : Event → Option System
  | .build settings sizeOfT deviceName answer =>
      if system.kernel.CanCreate answer then
        match settings.build sizeOfT deviceName answer system.kernel with
        | (.error _, kernel) => some { system with kernel := kernel }
        | (.ok wrapper, kernel) =>
            some ⟨kernel, wrapper :: system.wrappers⟩
      else none
  | .device =>
      some
        { system with
          wrappers :=
            WduDriver.device system.kernel :: system.wrappers }
  | .setFlags index flags =>
      system.wrappers[index]?.map fun wrapper =>
        { system with kernel := wrapper.setFlags flags system.kernel }
  | .extension index sizeOfT =>
      system.wrappers[index]?.map fun wrapper =>
        { system with kernel := wrapper.extension sizeOfT system.kernel }
  | .delete index =>
      system.wrappers[index]?.map fun wrapper =>
        { system with kernel := wrapper.delete system.kernel }
  | .drop index =>
      system.wrappers[index]?.map fun _ =>
        { system with wrappers := system.wrappers.eraseIdx index }

/-! ## What the wrappers find -/

/-- No device was deleted that the kernel does not have, no access went
astray, and a packet to a device finds a wrapper of that device. -/
structure Sound (kernel : DeviceKernel) : Prop where
  clean : kernel.devices.stray = []
  reached : kernel.astray = []
  copied :
    ∀ device ∈ kernel.devices.live,
      ∃ wrapper,
        WduDevice.getWduDevice device kernel = some wrapper ∧
          wrapper.device = device

def System.At (system : System) (index : Nat)
    (condition : WduDevice → Prop) : Prop :=
  ∀ wrapper, system.wrappers[index]? = some wrapper → condition wrapper

/-- What keeps the wrappers sound. -/
def InOrder (system : System) : Event → Prop
  | .build settings sizeOfT deviceName answer =>
      PlainStatus answer.status ∧
        (answer.status = statusSuccess →
          sizeOfWduDevice ≤
            (settings.request sizeOfT deviceName).extensionSize.toNat)
  | .device | .drop _ => True
  | .setFlags index _ =>
      system.At index fun wrapper =>
        system.kernel.Reaches wrapper.device 0
  | .extension index sizeOfT =>
      system.At index fun wrapper =>
        system.kernel.Reaches wrapper.device (sizeOfWduDevice + sizeOfT)
  | .delete index =>
      system.At index fun wrapper =>
        wrapper.device ≠ nullPtr →
          wrapper.device ∈ system.kernel.devices.live

section Calls

variable {kernel : DeviceKernel}

theorem sound_access_iff
    (sound : Sound kernel) (device : Address) (size : Nat) :
    Sound (kernel.access device size) ↔ kernel.Reaches device size := by
  constructor
  · intro after
    exact ((kernel.access_astray_iff device size).mp after.reached).2
  · intro reaches
    rw [DeviceKernel.access, if_pos reaches]
    exact sound

theorem getWduDevice_write
    (device other : Address) (size : Nat)
    (change : DeviceObject → DeviceObject) :
    WduDevice.getWduDevice other (kernel.write device size change) =
      if other = device then
        ((kernel.objects device).map change).bind DeviceObject.extension
      else WduDevice.getWduDevice other kernel := by
  unfold WduDevice.getWduDevice DeviceKernel.write
  by_cases same : other = device
  · subst same
    simp
  · simp [same]

theorem sound_setFlags_iff
    (sound : Sound kernel) (wrapper : WduDevice) (flags : UInt32) :
    Sound (wrapper.setFlags flags kernel) ↔
      kernel.Reaches wrapper.device 0 := by
  have accessed := sound_access_iff sound wrapper.device 0
  constructor
  · intro after
    exact
      ((kernel.access_astray_iff wrapper.device 0).mp after.reached).2
  · intro reaches
    have before := accessed.mpr reaches
    refine ⟨before.clean, before.reached, fun device live => ?_⟩
    obtain ⟨found, get, same⟩ := before.copied device live
    refine ⟨found, ?_, same⟩
    rw [WduDevice.setFlags, getWduDevice_write]
    split
    case isTrue equal =>
        subst equal
        rw [WduDevice.getWduDevice, DeviceKernel.access_objects] at get
        obtain ⟨object, present, extension⟩ :=
          Option.bind_eq_some_iff.mp get
        simp [present, extension]
    case isFalse other =>
        rw [WduDevice.getWduDevice, DeviceKernel.access_objects] at get
        exact get

theorem sound_delete_iff
    (sound : Sound kernel) (wrapper : WduDevice) :
    Sound (wrapper.delete kernel) ↔
      (wrapper.device ≠ nullPtr →
        wrapper.device ∈ kernel.devices.live) := by
  unfold WduDevice.delete
  split
  case isTrue set =>
      constructor
      · intro after _
        exact Ledger.mem_live_of_release_clean after.clean
      · intro given
        have live := given set
        refine ⟨?_, sound.reached, fun device remains => ?_⟩
        · exact (Ledger.release_stray_of_mem live).trans sound.clean
        · apply sound.copied device
          have kept : device ∈ (kernel.devices.release wrapper.device).live :=
            remains
          rw [Ledger.release_live_of_mem live] at kept
          exact List.mem_of_mem_erase kept
  case isFalse null => exact iff_of_true sound fun set => absurd set null

theorem getWduDevice_create
    (request : DeviceRequest) {answer : DeviceAnswer}
    (accepted : ntSuccess answer.status) (device : Address) :
    WduDevice.getWduDevice device (kernel.ioCreateDevice request answer) =
      if device = answer.device then none
      else WduDevice.getWduDevice device kernel := by
  unfold WduDevice.getWduDevice
  rw [DeviceKernel.ioCreateDevice, if_pos accepted]
  by_cases same : device = answer.device
  · subst same
    simp
  · simp [same]

/-- An answer that is not plain leaves a device without a copy. -/
theorem not_sound_create
    {request : DeviceRequest} {answer : DeviceAnswer}
    (accepted : ntSuccess answer.status) :
    ¬ Sound (kernel.ioCreateDevice request answer) := by
  intro sound
  have live :
      answer.device ∈
        (kernel.ioCreateDevice request answer).devices.live := by
    rw [DeviceKernel.ioCreateDevice, if_pos accepted]
    exact List.mem_cons_self
  obtain ⟨wrapper, found, _⟩ := sound.copied answer.device live
  rw [getWduDevice_create request accepted, if_pos rfl] at found
  cases found

theorem sound_copy_iff
    (sound : Sound kernel) (request : DeviceRequest)
    {answer : DeviceAnswer} {wrapper : WduDevice}
    (accepted : ntSuccess answer.status)
    (same : wrapper.device = answer.device) :
    Sound
        ((kernel.ioCreateDevice request answer).write wrapper.device
          sizeOfWduDevice fun object =>
            { object with extension := some wrapper }) ↔
      sizeOfWduDevice ≤ request.extensionSize.toNat := by
  rw [same]
  have created :
      kernel.ioCreateDevice request answer =
        { kernel with
          devices := kernel.devices.issue answer.device
          objects :=
            Function.update kernel.objects answer.device
              (some ⟨request, 0, none⟩) } :=
    if_pos accepted
  have object :
      (kernel.ioCreateDevice request answer).objects answer.device =
        some ⟨request, 0, none⟩ := by
    rw [created]
    exact Function.update_self _ _ _
  have reaches :
      (kernel.ioCreateDevice request answer).Reaches answer.device
          sizeOfWduDevice ↔
        sizeOfWduDevice ≤ request.extensionSize.toNat := by
    unfold DeviceKernel.Reaches
    rw [object, created]
    simp
  have accessed :=
    (kernel.ioCreateDevice request answer).access_astray_iff answer.device
      sizeOfWduDevice
  constructor
  · intro after
    exact reaches.mp (accessed.mp after.reached).2
  · intro room
    refine ⟨?_, ?_, fun device live => ?_⟩
    · rw [DeviceKernel.write, DeviceKernel.access_devices, created]
      exact sound.clean
    · refine accessed.mpr ⟨?_, reaches.mpr room⟩
      rw [created]
      exact sound.reached
    · rw [getWduDevice_write]
      by_cases new : device = answer.device
      · rw [if_pos new, object]
        exact ⟨wrapper, rfl, same.trans new.symm⟩
      · rw [if_neg new, getWduDevice_create request accepted, if_neg new]
        rw [DeviceKernel.write, DeviceKernel.access_devices,
          created] at live
        exact
          sound.copied device ((List.mem_cons.mp live).resolve_left new)

/-- A device whose creation is reported plainly is found again through the
copy that `build` makes, if the extension has the room for it. -/
theorem sound_build_iff
    (sound : Sound kernel) (settings : WduDevice) (sizeOfT : Nat)
    (deviceName : Option DeviceName) (answer : DeviceAnswer) :
    Sound (settings.build sizeOfT deviceName answer kernel).2 ↔
      PlainStatus answer.status ∧
        (answer.status = statusSuccess →
          sizeOfWduDevice ≤
            (settings.request sizeOfT deviceName).extensionSize.toNat) := by
  unfold WduDevice.build
  split
  case isTrue failed =>
      by_cases accepted : ntSuccess answer.status
      · exact
          iff_of_false (not_sound_create accepted) fun both =>
            not_plainStatus accepted failed both.1
      · rw [DeviceKernel.ioCreateDevice, if_neg accepted]
        exact
          iff_of_true sound
            ⟨fun given => absurd given accepted, fun given =>
              absurd given failed⟩
  case isFalse plain =>
      have success : answer.status = statusSuccess := not_not.mp plain
      have accepted : ntSuccess answer.status := by
        rw [success]
        exact ntSuccess_statusSuccess
      refine
        (sound_copy_iff sound (settings.request sizeOfT deviceName) accepted
          rfl).trans ?_
      exact
        ⟨fun room => ⟨fun _ => success, fun _ => room⟩, fun both =>
          both.2 success⟩

end Calls

theorem at_iff
    {system : System} {index : Nat} {wrapper : WduDevice}
    (found : system.wrappers[index]? = some wrapper)
    {condition : WduDevice → Prop} :
    system.At index condition ↔ condition wrapper := by
  constructor
  · intro all
    exact all wrapper found
  · intro holds other same
    rw [found] at same
    cases same
    exact holds

/-- A step keeps the wrappers sound exactly when it is in order. -/
theorem sound_step_iff
    {system next : System} {event : Event} (sound : Sound system.kernel)
    (stepped : step system event = some next) :
    Sound next.kernel ↔ InOrder system event := by
  cases event with
  | build settings sizeOfT deviceName answer =>
      obtain ⟨_, stepped⟩ := Option.ite_none_right_eq_some.mp stepped
      have kept :=
        sound_build_iff sound settings sizeOfT deviceName answer
      cases built :
          settings.build sizeOfT deviceName answer system.kernel with
      | mk result kernel =>
          rw [built] at kept stepped
          cases result with
          | error error =>
              cases stepped
              exact kept
          | ok wrapper =>
              cases stepped
              exact kept
  | device =>
      cases stepped
      exact iff_of_true sound trivial
  | setFlags index flags =>
      obtain ⟨wrapper, found, rfl⟩ := Option.map_eq_some_iff.mp stepped
      rw [InOrder, at_iff found]
      exact sound_setFlags_iff sound wrapper flags
  | extension index sizeOfT =>
      obtain ⟨wrapper, found, rfl⟩ := Option.map_eq_some_iff.mp stepped
      rw [InOrder, at_iff found]
      exact sound_access_iff sound wrapper.device _
  | delete index =>
      obtain ⟨wrapper, found, rfl⟩ := Option.map_eq_some_iff.mp stepped
      rw [InOrder, at_iff found]
      exact sound_delete_iff sound wrapper
  | drop index =>
      obtain ⟨wrapper, found, rfl⟩ := Option.map_eq_some_iff.mp stepped
      exact iff_of_true sound trivial

theorem sound_new : Sound DeviceKernel.new :=
  ⟨rfl, rfl, fun _ live => nomatch live⟩

/-- For every run over the wrappers of a driver: devices are deleted once,
every access finds its device and as much of the extension as it asks for,
and packets find their wrapper, if and only if devices are made with an
extension that has room for the wrapper when its size is cut to 32 bits, and
are reported plainly, and wrappers are used and deleted only while their
device is there, with a type that this extension has room for. -/
theorem devices_sound_iff (events : List Event) :
    Always step (fun system => Sound system.kernel) System.new events ↔
      Guarded step InOrder System.new events :=
  always_iff_guarded (fun _ sound => sound)
    (fun _ _ _ sound inOrder stepped =>
      (sound_step_iff sound stepped).mpr inOrder)
    (fun _ _ _ sound stepped => (sound_step_iff sound stepped).mp)
    sound_new

end Device

end WinDrvUtils

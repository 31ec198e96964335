import WinDrvUtils.Io.Irp

/-!
# The driver builder and its dispatch routine

`WduDriver` is built by calls that write both the builder value and the
`DRIVER_OBJECT`; `build` copies the value into the driver object's extension,
and later calls change only the value that `build` returned.
`dispatch_handler`, the routine that every installed slot points to, works
from the copy.

A handler is a function pointer of the driver. What it does to the packet it
gets is the environment's: complete it, or mark it pending. Its other
arguments are read from the packet, so its behaviour is a function of the
packet.
-/

namespace WinDrvUtils

structure FileObjDispatch where
  create : Option CodePtr := none
  close : Option CodePtr := none
  cleanup : Option CodePtr := none
  deriving DecidableEq, Repr

structure IoDispath where
  read : Option CodePtr := none
  write : Option CodePtr := none
  ioctl : Option CodePtr := none
  deriving DecidableEq, Repr

inductive WduDriverError where
  | driverExtAllocFailed
  | alreadyInit
  deriving DecidableEq, Repr

structure WduDriver where
  init : Bool := false
  addDevice : Option CodePtr := none
  unload : Option CodePtr := none
  io : IoDispath := {}
  fileobj : FileObjDispatch := {}
  deriving DecidableEq, Repr

/-- The library routines that the slots of a driver object can point to. -/
inductive DriverTrampoline where
  | dispatchHandler
  | driverUnload
  | addDevice
  deriving DecidableEq, Repr

/-- `driverExtension` tells whether `DriverExtension` is not null, and
`addDevice` is the slot in it; `wduExtension` is what
`IoGetDriverObjectExtension` finds. -/
structure DriverObject where
  majorFunction : Nat → Option DriverTrampoline
  driverUnload : Option DriverTrampoline
  driverExtension : Bool
  addDevice : Option DriverTrampoline
  wduExtension : Option WduDriver

def DriverObject.atEntry (driverExtension : Bool) : DriverObject where
  majorFunction := fun _ => none
  driverUnload := none
  driverExtension := driverExtension
  addDevice := none
  wduExtension := none

def DriverObject.install (object : DriverObject) (major : Nat) :
    DriverObject :=
  { object with
    majorFunction :=
      Function.update object.majorFunction major (some .dispatchHandler) }

namespace WduDriver

def new : WduDriver := {}

/-- The setter `device_add`. -/
def deviceAdd (driver : WduDriver) (deviceAdd : CodePtr)
    (object : DriverObject) : WduDriver × DriverObject :=
  ({ driver with addDevice := some deviceAdd },
    if object.driverExtension then
      { object with addDevice := some .addDevice }
    else object)

/-- The setter `unload`. -/
def setUnload (driver : WduDriver) (driverUnload : CodePtr)
    (object : DriverObject) : WduDriver × DriverObject :=
  ({ driver with unload := some driverUnload },
    { object with driverUnload := some .driverUnload })

def fileObject (driver : WduDriver) (dispatchRtns : FileObjDispatch)
    (object : DriverObject) : WduDriver × DriverObject :=
  ({ driver with fileobj := dispatchRtns },
    [irpMjCreate, irpMjClose, irpMjCleanup].foldl DriverObject.install object)

/-- The setter `io`. -/
def setIo (driver : WduDriver) (dispatchRtns : IoDispath)
    (object : DriverObject) : WduDriver × DriverObject :=
  ({ driver with io := dispatchRtns },
    [irpMjRead, irpMjWrite, irpMjDeviceControl].foldl DriverObject.install
      object)

/-- An extension that the kernel allocated is zeroed until the driver value is
copied into it, and it is copied when the status is `STATUS_SUCCESS`. -/
def allocExt (driver : WduDriver) (status : NTSTATUS)
    (object : DriverObject) :
    Except WduDriverError WduDriver × DriverObject :=
  let object :=
    if ntSuccess status then { object with wduExtension := some {} }
    else object
  if status ≠ statusSuccess then
    (.error .driverExtAllocFailed, object)
  else
    let driver := { driver with init := true }
    (.ok driver, { object with wduExtension := some driver })

def build (driver : WduDriver) (status : NTSTATUS) (object : DriverObject) :
    Except WduDriverError WduDriver × DriverObject :=
  if driver.init then (.error .alreadyInit, object)
  else driver.allocExt status object

def handler (driver : WduDriver) : MajorFunction → Option CodePtr
  | .create => driver.fileobj.create
  | .close => driver.fileobj.close
  | .cleanup => driver.fileobj.cleanup
  | .read => driver.io.read
  | .write => driver.io.write
  | .deviceControl => driver.io.ioctl

end WduDriver

/-! ## Dispatching -/

inductive IrpAction where
  | complete (ioStatus : WduIoStatus)
  | markPending
  deriving DecidableEq, Repr

def IrpAction.perform (irp : Irp) : IrpAction → Irp
  | .complete ioStatus => irp.complete ioStatus
  | .markPending => irp.markPending

/-- One call of a handler. File-object handlers return nothing; their
`returned` is never read. -/
structure HandlerCall where
  action : IrpAction
  returned : NTSTATUS
  deriving DecidableEq, Repr

abbrev Handlers := CodePtr → Irp → HandlerCall

/-- The packet, and the handlers called on it so far. -/
structure Dispatch where
  irp : Irp
  called : List CodePtr

def callHandler (handlers : Handlers) (pfn : CodePtr) (dispatch : Dispatch) :
    NTSTATUS × Dispatch :=
  let call := handlers pfn dispatch.irp
  (call.returned,
    { irp := call.action.perform dispatch.irp
      called := dispatch.called ++ [pfn] })

namespace WduDriver

def foDispatch (driver : WduDriver) (handlers : Handlers)
    (irp : WduIrp) (dispatch : Dispatch) :
    Except Panic Dispatch :=
  let call (entry : Option CodePtr) : Dispatch :=
    match entry with
    | none => dispatch
    | some pfn => (callHandler handlers pfn dispatch).2
  match irp.major with
  | .create => .ok (call driver.fileobj.create)
  | .close => .ok (call driver.fileobj.close)
  | .cleanup => .ok (call driver.fileobj.cleanup)
  | _ => .error (.unreachable "Invalid FileObject dispatch")

def ioDispatch (driver : WduDriver) (handlers : Handlers)
    (irp : WduIrp) (dispatch : Dispatch) :
    Except Panic (NTSTATUS × Dispatch) :=
  let call (entry : Option CodePtr) : NTSTATUS × Dispatch :=
    match entry with
    | none => (statusSuccess, dispatch)
    | some pfn => callHandler handlers pfn dispatch
  match irp.major with
  | .read => .ok (call driver.io.read)
  | .write => .ok (call driver.io.write)
  | .deviceControl => .ok (call driver.io.ioctl)
  | _ => .error (.unreachable "Invalid I/O dispatch")

/-- `dispatch_handler`. `is_power`, the next test after the two classes, is
`todo!()`, so nothing behind it runs. -/
def dispatchHandler (object : DriverObject) (handlers : Handlers)
    (irp : Irp) : Except Panic (NTSTATUS × Dispatch) :=
  let status := statusSuccess
  match WduIrp.wrap irp with
  | .error panic => .error panic
  | .ok wduIrp =>
      match object.wduExtension with
      | none => .ok (status, ⟨irp, []⟩)
      | some driver =>
          if wduIrp.isFileobj then
            match driver.foDispatch handlers wduIrp ⟨irp, []⟩ with
            | .error panic => .error panic
            | .ok dispatch => .ok (status, dispatch)
          else if wduIrp.isIo then
            driver.ioDispatch handlers wduIrp ⟨irp, []⟩
          else
            match wduIrp.isPower with
            | .error panic => .error panic
            | .ok _ => .error .todo

end WduDriver

end WinDrvUtils

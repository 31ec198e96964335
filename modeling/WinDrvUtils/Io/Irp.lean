import WinDrvUtils.Nt

/-!
# I/O request packets

The part of an `IRP` that dispatching reads and completing writes. The stack
of locations is kept by its two counters and its current location; the I/O
manager hands out packets whose counters meet the assertion of
`current_stack`, which the fields `bounded` and `located` record.
-/

namespace WinDrvUtils

inductive MajorFunction where
  | create
  | close
  | cleanup
  | read
  | write
  | deviceControl
  deriving DecidableEq, Repr

/-! ## `IRP_MJ_*` -/

def irpMjCreate : Nat := 0x00
def irpMjClose : Nat := 0x02
def irpMjRead : Nat := 0x03
def irpMjWrite : Nat := 0x04
def irpMjDeviceControl : Nat := 0x0e
def irpMjCleanup : Nat := 0x12

def slPendingReturned : UInt8 := 0x01

namespace MajorFunction

/-- `From<u32>` -/
def fromU32 (value : Nat) : Except Panic MajorFunction :=
  if value = irpMjCreate then .ok .create
  else if value = irpMjClose then .ok .close
  else if value = irpMjCleanup then .ok .cleanup
  else if value = irpMjRead then .ok .read
  else if value = irpMjWrite then .ok .write
  else if value = irpMjDeviceControl then .ok .deviceControl
  else .error .todo

def isIo : MajorFunction → Bool
  | .write => true
  | .read => true
  | .deviceControl => true
  | _ => false

def isFileobj : MajorFunction → Bool
  | .create => true
  | .close => true
  | .cleanup => true
  | _ => false

/-- `is_power` and `is_pnp` are `todo!()`. -/
def isPower (_ : MajorFunction) : Except Panic Bool :=
  .error .todo

/-- The two classes are disjoint and cover every major function. -/
theorem isFileobj_eq_not_isIo (major : MajorFunction) :
    major.isFileobj = !major.isIo := by
  cases major <;> rfl

end MajorFunction

structure WduIoStatus where
  status : NTSTATUS
  info : Nat
  deriving DecidableEq, Repr

namespace WduIoStatus

def new : WduIoStatus := ⟨statusUnsuccessful, 0⟩

def newWithStatus (status : NTSTATUS) : WduIoStatus := ⟨status, 0⟩

def successNoInfo : WduIoStatus := ⟨statusSuccess, 0⟩

end WduIoStatus

/-- A packet as the I/O manager keeps it. `majorFunction` and `control` are
those of the current stack location; `completions` counts the calls of
`IofCompleteRequest`. -/
structure Irp where
  currentLocation : Int
  stackCount : Int
  majorFunction : Nat
  control : UInt8
  status : NTSTATUS
  information : Nat
  completions : Nat
  bounded : stackCount < 127
  located : currentLocation ≤ stackCount + 1

namespace Irp

def ofMajor (majorFunction : Nat) : Irp where
  currentLocation := 1
  stackCount := 1
  majorFunction := majorFunction
  control := 0
  status := statusSuccess
  information := 0
  completions := 0
  bounded := by decide
  located := by decide

/-- `WduIrp::current_stack`, of which the callers here need the assertion. -/
def currentStack (irp : Irp) : Except Panic Irp :=
  if irp.currentLocation ≤ irp.stackCount + 1 then .ok irp
  else .error (.assertion "(*irp).CurrentLocation <= (*irp).StackCount + 1")

@[simp]
theorem currentStack_eq (irp : Irp) : irp.currentStack = .ok irp := by
  rw [currentStack, if_pos irp.located]

/-- `WduIrp::complete` on a wrapper whose pointer is not null: write the
status block, then `IofCompleteRequest`. -/
def complete (irp : Irp) (ioStatus : WduIoStatus) : Irp :=
  { irp with
    status := ioStatus.status
    information := ioStatus.info
    completions := irp.completions + 1 }

def markPending (irp : Irp) : Irp :=
  { irp with control := irp.control ||| slPendingReturned }

@[simp]
theorem complete_status (irp : Irp) (ioStatus : WduIoStatus) :
    (irp.complete ioStatus).status = ioStatus.status := rfl

@[simp]
theorem complete_completions (irp : Irp) (ioStatus : WduIoStatus) :
    (irp.complete ioStatus).completions = irp.completions + 1 := rfl

@[simp]
theorem markPending_completions (irp : Irp) :
    irp.markPending.completions = irp.completions := rfl

end Irp

/-- The wrapper of one packet. `cancel` is the routine that this wrapper, or
the one it was cloned from, was last asked to arm. -/
structure WduIrp where
  mj : MajorFunction
  cancel : Option CodePtr
  deriving DecidableEq, Repr

namespace WduIrp

def wrap (irp : Irp) : Except Panic WduIrp :=
  match irp.currentStack with
  | .error panic => .error panic
  | .ok stack =>
      match MajorFunction.fromU32 stack.majorFunction with
      | .error panic => .error panic
      | .ok mj => .ok ⟨mj, none⟩

def isIo (irp : WduIrp) : Bool := irp.mj.isIo

def isFileobj (irp : WduIrp) : Bool := irp.mj.isFileobj

def isPower (irp : WduIrp) : Except Panic Bool := irp.mj.isPower

def major (irp : WduIrp) : MajorFunction := irp.mj

/-- Wrapping fails only on a major function that does not decode. -/
theorem wrap_of_decoded
    {irp : Irp} {major : MajorFunction}
    (decoded : MajorFunction.fromU32 irp.majorFunction = .ok major) :
    wrap irp = .ok ⟨major, none⟩ := by
  simp [wrap, decoded]

end WduIrp

end WinDrvUtils

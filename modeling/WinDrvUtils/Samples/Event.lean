import WinDrvUtils.Io.Cancel
import WinDrvUtils.Io.DeviceControl
import WinDrvUtils.Library.Vec

/-!
# The event driver

The sample `event` keeps a queue of notifications. A request asks for one with
a timer: either the request stays pending and is completed when the timer
expires, or it hands over an event that is set then. Four parties work on the
queue, each under `queue_lock`: the request that enters its notification, the
DPC of the timer, the cancel routine of a pending request, and the cleanup of
a file object.

A state is what they share. An event of the system is one section under the
lock, or one thing that is done outside of it; the kernel may cancel a request
between any two of them. The DPC has two sections: it releases the lock to
complete the request that it has found, and takes it again to remove the
entry from the place where it was.

A request keeps its address for good: no later one has it. A box that was
freed is used again only when neither a timer nor a DPC in it is active. A
call of `set_cancel_rtn` is not disturbed. The `debug_assert` for a code that
the driver does not know is left out, as it is in a release build.
-/

namespace WinDrvUtils

namespace EventDriver

/-! ## Notifications -/

/-- `NotifyType`. Of a clone the cached cancel routine is its own. -/
inductive NotifyType where
  | irpBased (irp : Address) (wrapper : WduIrp)
  | eventBased (event : Address)
  deriving DecidableEq, Repr

namespace NotifyType

/-- `PartialEq for NotifyData` -/
def same : NotifyType → NotifyType → Bool
  | .irpBased irp _, .irpBased other _ => other == irp
  | .eventBased event, .eventBased other => other == event
  | _, _ => false

def irp : NotifyType → Option Address
  | .irpBased irp _ => some irp
  | .eventBased _ => none

def event : NotifyType → Option Address
  | .irpBased _ _ => none
  | .eventBased event => some event

end NotifyType

/-- The timer and the DPC of a record lie in its box. -/
structure NotifyRecord where
  box : Address
  fileObject : Address
  ty : NotifyType
  deriving DecidableEq, Repr

structure RegisterEvent where
  notifyType : UInt32
  event : Address
  dueTime : Int64
  deriving DecidableEq, Repr

/-- `size_of::<RegisterEvent>()` -/
def registerEventSize : Nat := 24

def irpBasedCode : UInt32 := 0

def eventBasedCode : UInt32 := 1

/-- `IOCTL_REGISTER_EVENT` -/
def ioctlRegisterEvent : UInt32 :=
  encodeIoctl 0x22 0x800 0 0

/-- `0xC0000120` -/
def statusCancelled : NTSTATUS := -0x3FFFFEE0

/-- `0xC0000002` -/
def statusNotImplemented : NTSTATUS := -0x3FFFFFFE

/-- What `device_control` reads of a request. The buffer is none when its
pointer is null. -/
structure Request where
  ioctl : UInt32
  inputBufferSize : Nat
  inputBuffer : Option RegisterEvent
  deriving DecidableEq, Repr

/-- The checks of `device_control` and `handle_register_event`. -/
def Request.registerEvent (request : Request) :
    Except NTSTATUS RegisterEvent :=
  if request.ioctl ≠ ioctlRegisterEvent then .error statusNotImplemented
  else if request.inputBufferSize < registerEventSize then
    .error statusInvalidParameter
  else
    match request.inputBuffer with
    | none => .error statusInvalidParameter
    | some register =>
        if register.notifyType = irpBasedCode then .ok register
        else if register.notifyType = eventBasedCode then .ok register
        else .error statusInvalidParameter

/-- A due time is made relative. -/
def RegisterEvent.relative (register : RegisterEvent) : Int64 :=
  if register.dueTime > 0 then -register.dueTime else register.dueTime

/-! ## The shared state -/

/-- Where the timer and the DPC of a box stand. `ty` is the context of the
DPC. `completing` has found the entry at `place` and released the lock;
`removing` has completed the request. -/
inductive Phase where
  | idle
  | set (ty : NotifyType) (dueTime : Int64)
  | queued (ty : NotifyType)
  | completing (place : Nat) (irp : Address)
  | removing (place : Nat) (irp : Address)
  | finished
  deriving DecidableEq, Repr

/-- Where `device_control` stands with a request; the file object is the one
whose remove lock it holds. -/
inductive Call where
  | idle
  | entered (file : Address) (request : Request)
  | armed (file : Address) (wrapper : WduIrp) (dueTime : Int64)
  | referenced (file : Address) (event : Address) (dueTime : Int64)
  | returning (file : Option Address) (status : NTSTATUS)
  | returned
  deriving DecidableEq, Repr

/-- The cancel routine of a request: the kernel has taken it and it waits for
the lock, or it has removed the entry in `box`. -/
inductive Cancellation where
  | idle
  | taken
  | completing (box : Address)
  deriving DecidableEq, Repr

/-- `waiting` is in `release_and_wait`; `completing` has the requests that are
left to complete. -/
inductive Cleanup where
  | pending
  | waiting
  | completing (irps : List Address)
  deriving DecidableEq, Repr

/-- `holders` are the requests that hold the remove lock. -/
structure FileState where
  holders : List Address
  cleanup : Cleanup
  deriving DecidableEq, Repr

structure Packet where
  irp : Irp
  cancel : Bool
  fields : CancelFields

/-- What ends a run: `unwrap` of none, a place beyond the end, and a DPC that
reads its context in a box that was freed. -/
inductive Fault where
  | unwrapNone
  | swapRemoveIndex
  | freedBox
  deriving DecidableEq, Repr

/-- What is known of the notifications: the queue, the timers, and who is
about to use an entry. `detached` are the boxes that cancel routines have
removed and not yet dropped, and `references` those that the driver holds on
events. -/
structure Notifications where
  queue : List NotifyRecord
  phases : Address → Phase
  cancellations : Address → Cancellation
  detached : List Address
  references : Ledger Address

structure System extends Notifications where
  packets : Address → Packet
  calls : Address → Call
  files : Address → FileState
  fault : Option Fault

def System.start : System where
  queue := []
  phases := fun _ => .idle
  cancellations := fun _ => .idle
  detached := []
  references := Ledger.empty
  packets := fun _ =>
    ⟨Irp.ofMajor irpMjDeviceControl, false, CancelFields.unarmed⟩
  calls := fun _ => .idle
  files := fun _ => ⟨[], .pending⟩
  fault := none

/-- What the environment decides while a request is handled: the box for the
context of the cancel routine, and what `ObReferenceObjectByHandle` answers. -/
structure Answer where
  context : Address
  status : NTSTATUS
  object : Address
  deriving DecidableEq, Repr

inductive Event where
  | dispatch (irp file : Address) (request : Request)
  | handle (irp : Address) (answer : Answer)
  | enqueue (irp box : Address)
  | ret (irp : Address)
  | expire (box : Address)
  | locate (box : Address)
  | completeFound (box : Address)
  | removeFound (box : Address)
  | kernelCancel (irp : Address)
  | cancelRoutine (irp : Address)
  | completeCancelled (irp : Address)
  | beginCleanup (file : Address)
  | cleanup (file : Address)
  | completeCleaned (file : Address)
  deriving DecidableEq, Repr

/-- The address of `cancel_routine`. -/
def cancelRoutinePtr : CodePtr := 0x1000

/-! ## The queue -/

namespace Notifications

variable (notes : Notifications)

def boxes : List Address :=
  notes.queue.map NotifyRecord.box

def setPhase (box : Address) (phase : Phase) : Notifications :=
  { notes with phases := Function.update notes.phases box phase }

/-- The entry of a request. -/
def findIrp (irp : Address) : Option Nat :=
  notes.queue.findIdx? fun record => record.ty.irp == some irp

/-- The entry that equals the context of a DPC. -/
def findData (ty : NotifyType) : Option Nat :=
  notes.queue.findIdx? fun record => record.ty.same ty

/-- A box is free for a new record. -/
def isFree (box : Address) : Bool :=
  (notes.phases box == .idle || notes.phases box == .finished) &&
    !notes.boxes.contains box && !notes.detached.contains box

/-- The record is pushed and its timer set. -/
def push (box file : Address) (ty : NotifyType) (dueTime : Int64) :
    Notifications :=
  { notes.setPhase box (.set ty dueTime) with
    queue := notes.queue ++ [⟨box, file, ty⟩] }

/-- `KeCancelTimer` -/
def cancelTimer (box : Address) : Bool × Notifications :=
  match notes.phases box with
  | .set _ _ => (true, notes.setPhase box .idle)
  | _ => (false, notes)

/-- `WduEvent::dereference` -/
def dereference (event : Address) : Notifications :=
  { notes with references := notes.references.release event }

end Notifications

namespace System

/-! ## The parties -/

section

variable (system : System)

def setNotes (notes : Notifications) : System :=
  { system with toNotifications := notes }

def setPhase (box : Address) (phase : Phase) : System :=
  system.setNotes (system.toNotifications.setPhase box phase)

def setCall (irp : Address) (call : Call) : System :=
  { system with calls := Function.update system.calls irp call }

def setCancellation (irp : Address) (cancellation : Cancellation) : System :=
  { system with
    cancellations := Function.update system.cancellations irp cancellation }

def setFile (file : Address) (state : FileState) : System :=
  { system with files := Function.update system.files file state }

def setPacket (irp : Address) (packet : Packet) : System :=
  { system with packets := Function.update system.packets irp packet }

def fail (fault : Fault) : System :=
  { system with fault := some fault }

/-- `WduIrp::complete` -/
def complete (irp : Address) (ioStatus : WduIoStatus) : System :=
  let packet := system.packets irp
  system.setPacket irp { packet with irp := packet.irp.complete ioStatus }

/-- `irp.set_cancel_rtn(None)`: what it returns, and the wrapper after it. -/
def disarm (irp : Address) (wrapper : WduIrp) :
    Option CodePtr × WduIrp × System :=
  let packet := system.packets irp
  let (prev, wrapper, fields) :=
    wrapper.setCancelRtn none nullPtr packet.fields
  (prev, wrapper, system.setPacket irp { packet with fields := fields })

/-! ## A request -/

/-- `device_control` acquires the remove lock, which is refused from the
cleanup on. -/
def dispatch (irp file : Address) (request : Request) : Option System :=
  match system.calls irp with
  | .idle =>
      let state := system.files file
      match state.cleanup with
      | .pending =>
          some
            ((system.setCall irp (.entered file request)).setFile file
              { state with holders := irp :: state.holders })
      | _ =>
          some (system.setCall irp (.returning none statusUnsuccessful))
  | _ => none

/-- Up to the section under the lock. -/
def handle (irp : Address) (answer : Answer) : Option System :=
  match system.calls irp with
  | .entered file request =>
      match request.registerEvent with
      | .error status =>
          some (system.setCall irp (.returning (some file) status))
      | .ok register =>
          if register.notifyType = irpBasedCode then
            let packet := system.packets irp
            let wrapper : WduIrp := ⟨.deviceControl, none⟩
            let (_, wrapper, fields) :=
              wrapper.setCancelRtn (some cancelRoutinePtr) answer.context
                packet.fields
            some
              ((system.setPacket irp { packet with fields := fields }).setCall
                irp (.armed file wrapper register.relative))
          else if answer.status ≠ statusSuccess then
            some
              (system.setCall irp (.returning (some file) answer.status))
          else
            some
              { system.setCall irp
                  (.referenced file answer.object register.relative) with
                references := system.references.issue answer.object }
  | _ => none

/-- The section of `irp_notification`, after the check for a cancelled
request. -/
def pushIrp (irp box file : Address) (wrapper : WduIrp)
    (dueTime : Int64) : System :=
  let packet := system.packets irp
  ((system.setPacket irp
    { packet with irp := packet.irp.markPending }).setNotes
    (system.toNotifications.push box file (.irpBased irp wrapper)
      dueTime)).setCall
    irp (.returning (some file) statusPending)

def enqueue (irp box : Address) : Option System :=
  if system.toNotifications.isFree box then
    match system.calls irp with
    | .armed file wrapper dueTime =>
        if (system.packets irp).cancel then
          match system.disarm irp wrapper with
          | (some _, _, system) =>
              some
                (system.setCall irp (.returning (some file) statusCancelled))
          | (none, _, system) =>
              some (system.pushIrp irp box file wrapper dueTime)
        else some (system.pushIrp irp box file wrapper dueTime)
    | .referenced file event dueTime =>
        some
          ((system.setNotes
            (system.toNotifications.push box file (.eventBased event)
              dueTime)).setCall
            irp (.returning (some file) statusSuccess))
    | _ => none
  else none

/-- The request leaves the remove lock, if it holds one. -/
def release (irp : Address) : Option Address → System
  | none => system
  | some file =>
      let state := system.files file
      system.setFile file { state with holders := state.holders.erase irp }

/-- `device_control` completes what is not pending, and releases the remove
lock. -/
def ret (irp : Address) : Option System :=
  match system.calls irp with
  | .returning file status =>
      let next :=
        if status = statusPending then system
        else system.complete irp (WduIoStatus.newWithStatus status)
      some ((next.setCall irp .returned).release irp file)
  | _ => none

/-! ## The timer and its DPC -/

def expire (box : Address) : Option System :=
  match system.phases box with
  | .set ty _ => some (system.setPhase box (.queued ty))
  | _ => none

/-- The first section of `timer_dpc`. -/
def locate (box : Address) : Option System :=
  match system.phases box with
  | .queued ty =>
      if box ∈ system.toNotifications.boxes ∨ box ∈ system.detached then
        match system.toNotifications.findData ty with
        | none => some (system.setPhase box .finished)
        | some place =>
            match ty with
            | .irpBased irp wrapper =>
                match system.disarm irp wrapper with
                | (some _, _, system) =>
                    some (system.setPhase box (.completing place irp))
                | (none, _, system) => some (system.setPhase box .finished)
            | .eventBased event =>
                match Vec.swapRemove system.queue place with
                | none => some (system.fail .swapRemoveIndex)
                | some (_, rest) =>
                    some
                      (system.setNotes
                        { (system.toNotifications.dereference event).setPhase
                            box .finished with
                          queue := rest })
      else some (system.fail .freedBox)
  | _ => none

def completeFound (box : Address) : Option System :=
  match system.phases box with
  | .completing place irp =>
      some
        ((system.complete irp WduIoStatus.successNoInfo).setPhase box
          (.removing place irp))
  | _ => none

/-- The second section of `timer_dpc`. -/
def removeFound (box : Address) : Option System :=
  match system.phases box with
  | .removing place _ =>
      match Vec.swapRemove system.queue place with
      | none => some (system.fail .swapRemoveIndex)
      | some (_, rest) =>
          some
            (system.setNotes
              { system.toNotifications.setPhase box .finished with
                queue := rest })
  | _ => none

/-! ## Cancelling -/

/-- The kernel marks the request, and takes the cancel routine if there is
one. -/
def kernelCancel (irp : Address) : Option System :=
  match system.cancellations irp with
  | .idle =>
      let packet := system.packets irp
      if packet.fields.cancelRoutine then
        some
          ((system.setPacket irp
            { packet with
              cancel := true
              fields := packet.fields.storeRoutine false }).setCancellation
            irp .taken)
      else some (system.setPacket irp { packet with cancel := true })
  | _ => none

/-- The section of `cancel_routine`. -/
def cancelRoutine (irp : Address) : Option System :=
  match system.cancellations irp with
  | .taken =>
      match system.toNotifications.findIrp irp with
      | none => some (system.fail .unwrapNone)
      | some place =>
          match Vec.swapRemove system.queue place with
          | none => some (system.fail .swapRemoveIndex)
          | some (record, rest) =>
              let notes := (system.toNotifications.cancelTimer record.box).2
              some
                ((system.setNotes
                  { notes with
                    queue := rest
                    detached := record.box :: notes.detached }).setCancellation
                  irp (.completing record.box))
  | _ => none

/-- The record is dropped when the routine returns. -/
def completeCancelled (irp : Address) : Option System :=
  match system.cancellations irp with
  | .completing box =>
      some
        { (system.complete irp
            (WduIoStatus.newWithStatus statusCancelled)).setCancellation
            irp .idle with
          detached := system.detached.erase box }
  | _ => none

/-! ## Cleanup -/

def beginCleanup (file : Address) : Option System :=
  let state := system.files file
  match state.cleanup with
  | .pending => some (system.setFile file { state with cleanup := .waiting })
  | _ => none

/-- What the closure of `retain_mut` does with an entry that it does not
simply keep. -/
def cancelEntry (irps : List Address) (record : NotifyRecord) :
    Bool × (List Address × System) × NotifyRecord :=
  match record.ty with
  | .irpBased irp wrapper =>
      match system.disarm irp wrapper with
      | (none, wrapper, system) =>
          (false, (irps ++ [irp], system),
            { record with ty := .irpBased irp wrapper })
      | (some _, wrapper, system) =>
          (true, (irps, system),
            { record with ty := .irpBased irp wrapper })
  | .eventBased event =>
      (false,
        (irps, system.setNotes (system.toNotifications.dereference event)),
        record)

end

/-- The closure of `retain_mut`; the list is `cleanup_list`. -/
def retain (file : Address) (state : List Address × System)
    (record : NotifyRecord) :
    Bool × (List Address × System) × NotifyRecord :=
  let (irps, system) := state
  if record.fileObject ≠ file then
    match system.toNotifications.cancelTimer record.box with
    | (false, _) => (true, (irps, system), record)
    | (true, notes) => (system.setNotes notes).cancelEntry irps record
  else system.cancelEntry irps record

/-- The section of `cleanup`, once nobody holds the remove lock. -/
def cleanup (system : System) (file : Address) : Option System :=
  let state := system.files file
  match state.cleanup with
  | .waiting =>
      if state.holders = [] then
        let ((irps, next), queue) :=
          Vec.retainMut (retain file) ([], system) system.queue
        some
          { next.setFile file { state with cleanup := .completing irps } with
            queue := queue }
      else none
  | _ => none

def completeCleaned (system : System) (file : Address) : Option System :=
  let state := system.files file
  match state.cleanup with
  | .completing (irp :: rest) =>
      some
        ((system.complete irp
          (WduIoStatus.newWithStatus statusCancelled)).setFile file
          { state with cleanup := .completing rest })
  | _ => none

/-- A fault ends the run. -/
def step (system : System) (event : Event) : Option System :=
  if system.fault.isSome then none
  else
    match event with
    | .dispatch irp file request => system.dispatch irp file request
    | .handle irp answer => system.handle irp answer
    | .enqueue irp box => system.enqueue irp box
    | .ret irp => system.ret irp
    | .expire box => system.expire box
    | .locate box => system.locate box
    | .completeFound box => system.completeFound box
    | .removeFound box => system.removeFound box
    | .kernelCancel irp => system.kernelCancel irp
    | .cancelRoutine irp => system.cancelRoutine irp
    | .completeCancelled irp => system.completeCancelled irp
    | .beginCleanup file => system.beginCleanup file
    | .cleanup file => system.cleanup file
    | .completeCleaned file => system.completeCleaned file

end System

end EventDriver

end WinDrvUtils

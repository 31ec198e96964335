import WinDrvUtils.Common.Driver
import WinDrvUtils.Library.StepSystem

/-!
# Dispatching to the handlers of a built driver

The two dispatch families agree on one table: `routed` says which handler
gets the packet and which status goes back, and `dispatchHandler_eq_routed`
that `dispatch_handler` does just that once a driver extension exists.

Over the runs of the builder, from `DriverEntry` on, every slot that points
at `dispatch_handler` is one whose major function decodes
(`slotsDecode_run`), so no `todo!` and no `unreachable!` is reached. Two
things can still go wrong: the packet of an absent handler is not completed
by anyone, and the status of a file-object handler does not travel back.
-/

namespace WinDrvUtils

open StepSystem

namespace WduDriver

/-! ## The routing table -/

/-- What `dispatch_handler` does with a packet of one major function. -/
def routed (driver : WduDriver) (handlers : Handlers)
    (major : MajorFunction) (irp : Irp) : NTSTATUS × Dispatch :=
  match driver.handler major with
  | none => (statusSuccess, ⟨irp, []⟩)
  | some pfn =>
      (if major.isIo then (handlers pfn irp).returned else statusSuccess,
        ⟨(handlers pfn irp).action.perform irp, [pfn]⟩)

theorem routed_of_handler
    {driver : WduDriver} {major : MajorFunction} {pfn : CodePtr}
    (handlers : Handlers) (irp : Irp)
    (present : driver.handler major = some pfn) :
    driver.routed handlers major irp =
      (if major.isIo then (handlers pfn irp).returned else statusSuccess,
        ⟨(handlers pfn irp).action.perform irp, [pfn]⟩) := by
  simp [routed, present]

theorem routed_of_absent
    {driver : WduDriver} {major : MajorFunction}
    (handlers : Handlers) (irp : Irp)
    (absent : driver.handler major = none) :
    driver.routed handlers major irp = (statusSuccess, ⟨irp, []⟩) := by
  simp [routed, absent]

theorem foDispatch_eq
    (driver : WduDriver) (handlers : Handlers) {major : MajorFunction}
    (irp : Irp) (fileobj : major.isFileobj = true) :
    driver.foDispatch handlers ⟨major, none⟩ ⟨irp, []⟩ =
      .ok (driver.routed handlers major irp).2 := by
  cases major with
  | create =>
      cases present : driver.fileobj.create <;>
        simp [foDispatch, WduIrp.major, routed, handler, callHandler,
          present]
  | close =>
      cases present : driver.fileobj.close <;>
        simp [foDispatch, WduIrp.major, routed, handler, callHandler,
          present]
  | cleanup =>
      cases present : driver.fileobj.cleanup <;>
        simp [foDispatch, WduIrp.major, routed, handler, callHandler,
          present]
  | read | write | deviceControl => cases fileobj

theorem ioDispatch_eq
    (driver : WduDriver) (handlers : Handlers) {major : MajorFunction}
    (irp : Irp) (io : major.isIo = true) :
    driver.ioDispatch handlers ⟨major, none⟩ ⟨irp, []⟩ =
      .ok (driver.routed handlers major irp) := by
  cases major with
  | read =>
      cases present : driver.io.read <;>
        simp [ioDispatch, WduIrp.major, routed, handler, callHandler,
          MajorFunction.isIo, present]
  | write =>
      cases present : driver.io.write <;>
        simp [ioDispatch, WduIrp.major, routed, handler, callHandler,
          MajorFunction.isIo, present]
  | deviceControl =>
      cases present : driver.io.ioctl <;>
        simp [ioDispatch, WduIrp.major, routed, handler, callHandler,
          MajorFunction.isIo, present]
  | create | close | cleanup => cases io

theorem routed_fst_of_fileobj
    (driver : WduDriver) (handlers : Handlers) {major : MajorFunction}
    (irp : Irp) (fileobj : major.isFileobj = true) :
    (driver.routed handlers major irp).1 = statusSuccess := by
  have notIo : major.isIo = false := by
    simpa [MajorFunction.isFileobj_eq_not_isIo] using fileobj
  unfold routed
  split
  · rfl
  · simp [notIo]

/-- With a driver extension, a packet whose major function decodes goes
through the routing table. -/
theorem dispatchHandler_eq_routed
    {object : DriverObject} {driver : WduDriver} {irp : Irp}
    {major : MajorFunction} (handlers : Handlers)
    (extended : object.wduExtension = some driver)
    (decoded : MajorFunction.fromU32 irp.majorFunction = .ok major) :
    dispatchHandler object handlers irp =
      .ok (driver.routed handlers major irp) := by
  unfold dispatchHandler
  rw [WduIrp.wrap_of_decoded decoded]
  simp only [extended]
  by_cases fileobj : major.isFileobj = true
  · have wrapped : WduIrp.isFileobj ⟨major, none⟩ = true := fileobj
    have status := routed_fst_of_fileobj driver handlers irp fileobj
    rw [if_pos wrapped, foDispatch_eq driver handlers irp fileobj]
    exact congrArg Except.ok (Prod.ext status.symm rfl)
  · have wrapped : ¬ WduIrp.isFileobj ⟨major, none⟩ = true := fileobj
    have io : WduIrp.isIo ⟨major, none⟩ = true := by
      simpa [WduIrp.isIo, MajorFunction.isFileobj_eq_not_isIo] using fileobj
    rw [if_neg wrapped, if_pos io, ioDispatch_eq driver handlers irp io]

/-- A present handler gets the packet, and only an I/O handler has its status
returned. -/
theorem dispatchHandler_of_handler
    {object : DriverObject} {driver : WduDriver} {irp : Irp}
    {major : MajorFunction} {pfn : CodePtr} (handlers : Handlers)
    (extended : object.wduExtension = some driver)
    (decoded : MajorFunction.fromU32 irp.majorFunction = .ok major)
    (present : driver.handler major = some pfn) :
    dispatchHandler object handlers irp =
      .ok
        (if major.isIo then (handlers pfn irp).returned else statusSuccess,
          ⟨(handlers pfn irp).action.perform irp, [pfn]⟩) := by
  rw [dispatchHandler_eq_routed handlers extended decoded,
    routed_of_handler handlers irp present]

theorem dispatchHandler_of_absent
    {object : DriverObject} {driver : WduDriver} {irp : Irp}
    {major : MajorFunction} (handlers : Handlers)
    (extended : object.wduExtension = some driver)
    (decoded : MajorFunction.fromU32 irp.majorFunction = .ok major)
    (absent : driver.handler major = none) :
    dispatchHandler object handlers irp =
      .ok (statusSuccess, ⟨irp, []⟩) := by
  rw [dispatchHandler_eq_routed handlers extended decoded,
    routed_of_absent handlers irp absent]

theorem dispatchHandler_of_unextended
    {object : DriverObject} {irp : Irp} {major : MajorFunction}
    (handlers : Handlers)
    (missing : object.wduExtension = none)
    (decoded : MajorFunction.fromU32 irp.majorFunction = .ok major) :
    dispatchHandler object handlers irp =
      .ok (statusSuccess, ⟨irp, []⟩) := by
  simp only [dispatchHandler, WduIrp.wrap_of_decoded decoded, missing]

end WduDriver

/-! ## Runs of the builder -/

/-- The builder between `DriverEntry` and its last call. `owned` tells
whether the driver still has the value: a `build` that fails consumes it. -/
structure DriverEntry where
  driver : WduDriver
  owned : Bool
  object : DriverObject

namespace DriverEntry

inductive Event where
  | deviceAdd (deviceAdd : CodePtr)
  | unload (driverUnload : CodePtr)
  | fileObject (dispatchRtns : FileObjDispatch)
  | io (dispatchRtns : IoDispath)
  | build (status : NTSTATUS)
  deriving DecidableEq, Repr

def start (driverExtension : Bool) : DriverEntry :=
  ⟨WduDriver.new, true, DriverObject.atEntry driverExtension⟩

def ofPair (pair : WduDriver × DriverObject) : DriverEntry :=
  ⟨pair.1, true, pair.2⟩

def step (entry : DriverEntry) (event : Event) : Option DriverEntry :=
  if entry.owned then
    match event with
    | .deviceAdd deviceAdd =>
        some (ofPair (entry.driver.deviceAdd deviceAdd entry.object))
    | .unload driverUnload =>
        some (ofPair (entry.driver.setUnload driverUnload entry.object))
    | .fileObject dispatchRtns =>
        some (ofPair (entry.driver.fileObject dispatchRtns entry.object))
    | .io dispatchRtns =>
        some (ofPair (entry.driver.setIo dispatchRtns entry.object))
    | .build status =>
        match entry.driver.build status entry.object with
        | (.ok driver, object) => some ⟨driver, true, object⟩
        | (.error _, object) => some ⟨entry.driver, false, object⟩
  else none

end DriverEntry

namespace DriverObject

/-- Every slot that points at `dispatch_handler` is of a major function that
decodes. -/
def SlotsDecode (object : DriverObject) : Prop :=
  ∀ major, object.majorFunction major = some .dispatchHandler →
    ∃ decoded, MajorFunction.fromU32 major = .ok decoded

theorem SlotsDecode.install
    {object : DriverObject} (decode : object.SlotsDecode)
    {major : Nat} {decoded : MajorFunction}
    (known : MajorFunction.fromU32 major = .ok decoded) :
    (object.install major).SlotsDecode := by
  intro slot installed
  by_cases same : slot = major
  · exact ⟨decoded, by rw [same, known]⟩
  · apply decode slot
    simpa [DriverObject.install, Function.update_of_ne same] using installed

theorem SlotsDecode.installAll
    {object : DriverObject} (decode : object.SlotsDecode)
    {majors : List Nat}
    (known :
      ∀ major ∈ majors, ∃ decoded, MajorFunction.fromU32 major = .ok decoded) :
    (majors.foldl DriverObject.install object).SlotsDecode := by
  induction majors generalizing object with
  | nil =>
      exact decode
  | cons major rest inductionHypothesis =>
      obtain ⟨decoded, equal⟩ := known major List.mem_cons_self
      exact
        inductionHypothesis (decode.install equal) fun other member =>
          known other (List.mem_cons_of_mem _ member)

theorem fileObjMj_known :
    ∀ major ∈ [irpMjCreate, irpMjClose, irpMjCleanup],
      ∃ decoded, MajorFunction.fromU32 major = .ok decoded := by
  intro major member
  simp only [List.mem_cons, List.not_mem_nil, or_false] at member
  rcases member with rfl | rfl | rfl
  · exact ⟨.create, rfl⟩
  · exact ⟨.close, rfl⟩
  · exact ⟨.cleanup, rfl⟩

theorem ioMj_known :
    ∀ major ∈ [irpMjRead, irpMjWrite, irpMjDeviceControl],
      ∃ decoded, MajorFunction.fromU32 major = .ok decoded := by
  intro major member
  simp only [List.mem_cons, List.not_mem_nil, or_false] at member
  rcases member with rfl | rfl | rfl
  · exact ⟨.read, rfl⟩
  · exact ⟨.write, rfl⟩
  · exact ⟨.deviceControl, rfl⟩

theorem slotsDecode_atEntry (driverExtension : Bool) :
    (atEntry driverExtension).SlotsDecode := by
  intro major installed
  cases installed

end DriverObject

theorem WduDriver.build_majorFunction
    (driver : WduDriver) (status : NTSTATUS) (object : DriverObject) :
    (driver.build status object).2.majorFunction = object.majorFunction := by
  unfold WduDriver.build WduDriver.allocExt
  split
  · rfl
  · dsimp only
    split <;> split <;> rfl

namespace DriverEntry

theorem slotsDecode_step
    (entry : DriverEntry) (event : Event) (next : DriverEntry)
    (decode : entry.object.SlotsDecode)
    (stepped : step entry event = some next) :
    next.object.SlotsDecode := by
  unfold step at stepped
  split at stepped
  case isFalse => cases stepped
  case isTrue =>
    cases event with
    | deviceAdd deviceAdd =>
        cases stepped
        intro major installed
        apply decode major
        simp only [ofPair, WduDriver.deviceAdd] at installed
        split at installed <;> exact installed
    | unload driverUnload =>
        cases stepped
        exact decode
    | fileObject dispatchRtns =>
        cases stepped
        exact decode.installAll DriverObject.fileObjMj_known
    | io dispatchRtns =>
        cases stepped
        exact decode.installAll DriverObject.ioMj_known
    | build status =>
        have slots :=
          entry.driver.build_majorFunction status entry.object
        cases built : entry.driver.build status entry.object with
        | mk result object =>
            rw [built] at slots
            intro major installed
            apply decode major
            rw [← slots]
            cases result <;> simp only [built, Option.some.injEq] at stepped <;>
              subst stepped <;> exact installed

theorem slotsDecode_run
    {driverExtension : Bool} {events : List Event} {entry : DriverEntry}
    (reached : run step (start driverExtension) events = some entry) :
    entry.object.SlotsDecode :=
  run_invariant
    (fun entry event next => slotsDecode_step entry event next)
    (DriverObject.slotsDecode_atEntry driverExtension) reached

end DriverEntry

/-! ## No packet is lost -/

/-- The packet was handed to the handler registered for it, if there is one,
and unless the status says that it is pending it has been completed once. -/
def DriverEntry.Delivers (entry : DriverEntry) (handlers : Handlers)
    (irp : Irp) : Prop :=
  ∃ major status after,
    MajorFunction.fromU32 irp.majorFunction = .ok major ∧
    WduDriver.dispatchHandler entry.object handlers irp =
      .ok (status, after) ∧
    (status ≠ statusPending →
      after.irp.completions = irp.completions + 1) ∧
    after.called = (entry.driver.handler major).toList

/-- A handler is registered for the packet, the extension has the same one,
and if it leaves the packet pending then it is an I/O handler and says so. -/
def DriverEntry.Serves (entry : DriverEntry) (handlers : Handlers)
    (irp : Irp) : Prop :=
  ∀ major, MajorFunction.fromU32 irp.majorFunction = .ok major →
    ∃ driver pfn,
      entry.object.wduExtension = some driver ∧
      driver.handler major = some pfn ∧
      entry.driver.handler major = some pfn ∧
      ((handlers pfn irp).action = .markPending →
        major.isIo = true ∧ (handlers pfn irp).returned = statusPending)

theorem perform_completions (irp : Irp) (action : IrpAction) :
    (action.perform irp).completions =
      if action = .markPending then irp.completions
      else irp.completions + 1 := by
  cases action <;> simp [IrpAction.perform]

theorem statusSuccess_ne_pending : statusSuccess ≠ statusPending := by
  decide

theorem not_completed_untouched (irp : Irp) :
    ¬ (statusSuccess ≠ statusPending →
      irp.completions = irp.completions + 1) := by
  intro completed
  exact absurd (completed statusSuccess_ne_pending) (by omega)

theorem registered_of_called
    {registered : Option CodePtr} {pfn : CodePtr}
    (called : [pfn] = registered.toList) :
    registered = some pfn := by
  cases registered with
  | none =>
      cases called
  | some other =>
      exact congrArg some (List.cons.inj called).1.symm

theorem DriverEntry.Delivers.serves
    {entry : DriverEntry} {handlers : Handlers} {irp : Irp}
    (delivered : entry.Delivers handlers irp) :
    entry.Serves handlers irp := by
  intro major decoded
  obtain ⟨other, status, after, otherDecoded, dispatched, completed, called⟩ :=
    delivered
  obtain rfl : other = major := by
    rw [decoded] at otherDecoded
    exact (Except.ok.inj otherDecoded).symm
  cases extended : entry.object.wduExtension with
  | none =>
      rw [WduDriver.dispatchHandler_of_unextended handlers extended
        decoded] at dispatched
      cases dispatched
      exact absurd completed (not_completed_untouched irp)
  | some driver =>
      cases present : driver.handler other with
      | none =>
          rw [WduDriver.dispatchHandler_of_absent handlers extended decoded
            present] at dispatched
          cases dispatched
          exact absurd completed (not_completed_untouched irp)
      | some pfn =>
          rw [WduDriver.dispatchHandler_of_handler handlers extended decoded
            present] at dispatched
          cases dispatched
          refine
            ⟨driver, pfn, rfl, present, registered_of_called called,
              fun pending => ?_⟩
          dsimp only at completed
          rw [perform_completions, if_pos pending] at completed
          have returned :
              (if other.isIo then (handlers pfn irp).returned
                else statusSuccess) = statusPending := by
            by_contra notPending
            exact absurd (completed notPending) (by omega)
          by_cases io : other.isIo = true
          · rw [if_pos io] at returned
            exact ⟨io, returned⟩
          · rw [if_neg io] at returned
            exact absurd returned statusSuccess_ne_pending

theorem DriverEntry.Serves.delivers
    {entry : DriverEntry} {handlers : Handlers} {irp : Irp}
    {major : MajorFunction}
    (serves : entry.Serves handlers irp)
    (decoded : MajorFunction.fromU32 irp.majorFunction = .ok major) :
    entry.Delivers handlers irp := by
  obtain ⟨driver, pfn, extended, present, registered, returns⟩ :=
    serves major decoded
  refine
    ⟨major, _, _, decoded,
      WduDriver.dispatchHandler_of_handler handlers extended decoded present,
      ?_, ?_⟩
  · intro notPending
    dsimp only
    rw [perform_completions]
    by_cases pending : (handlers pfn irp).action = .markPending
    · obtain ⟨io, returned⟩ := returns pending
      rw [if_pos io] at notPending
      exact absurd returned notPending
    · rw [if_neg pending]
  · rw [registered]
    rfl

/-- In every state that the builder reaches, a packet of an installed slot is
delivered exactly when a handler serves it. -/
theorem DriverEntry.delivers_iff_serves
    {driverExtension : Bool} {events : List DriverEntry.Event}
    {entry : DriverEntry}
    (reached :
      run DriverEntry.step (DriverEntry.start driverExtension) events =
        some entry)
    (handlers : Handlers) {irp : Irp}
    (installed :
      entry.object.majorFunction irp.majorFunction =
        some .dispatchHandler) :
    entry.Delivers handlers irp ↔ entry.Serves handlers irp := by
  obtain ⟨major, decoded⟩ :=
    DriverEntry.slotsDecode_run reached irp.majorFunction installed
  exact
    ⟨fun delivered => delivered.serves,
      fun serves => serves.delivers decoded⟩

theorem readOnlyTable_deliversRead :
    ∃ entry : DriverEntry,
      run DriverEntry.step (DriverEntry.start true)
          [.io { read := some 1 }, .build statusSuccess] = some entry ∧
        entry.Delivers
          (fun _ _ => ⟨.complete WduIoStatus.successNoInfo, statusSuccess⟩)
          (Irp.ofMajor irpMjRead) := by
  have reached :
      run DriverEntry.step (DriverEntry.start true)
          [.io { read := some 1 }, .build statusSuccess] = some _ :=
    rfl
  refine ⟨_, reached, ?_⟩
  apply (DriverEntry.delivers_iff_serves reached _ rfl).mpr
  intro major decoded
  cases decoded
  refine ⟨_, 1, rfl, rfl, rfl, ?_⟩
  intro pending
  cases pending

/-- Handlers for reads only: the write slot is installed with them, and its
packets are reported as done while nobody completes them. -/
theorem readOnlyTable_losesWrite :
    ∃ entry : DriverEntry,
      run DriverEntry.step (DriverEntry.start true)
          [.io { read := some 1 }, .build statusSuccess] = some entry ∧
        entry.object.majorFunction irpMjWrite = some .dispatchHandler ∧
        ¬ entry.Delivers
          (fun _ _ => ⟨.complete WduIoStatus.successNoInfo, statusSuccess⟩)
          (Irp.ofMajor irpMjWrite) := by
  refine ⟨_, rfl, rfl, ?_⟩
  intro given
  obtain ⟨major, status, after, decoded, dispatched, completed, called⟩ := given
  cases decoded
  cases dispatched
  exact not_completed_untouched (Irp.ofMajor irpMjWrite) completed

/-! ## The status of a dispatched packet -/

/-- The status that goes back is the one in the packet's status block when
the handler completes it, and `STATUS_PENDING` when and only when the handler
leaves it pending. -/
def StatusAgrees (object : DriverObject) (handlers : Handlers)
    (pfn : CodePtr) (irp : Irp) : Prop :=
  ∃ status after,
    WduDriver.dispatchHandler object handlers irp = .ok (status, after) ∧
    (∀ ioStatus, (handlers pfn irp).action = .complete ioStatus →
      status = after.irp.status) ∧
    (status = statusPending ↔ (handlers pfn irp).action = .markPending)

/-- The calls whose status survives the dispatch: an I/O handler that does
not take `STATUS_PENDING` for completed, nor anything else for pending, and a
file-object handler that completes with `STATUS_SUCCESS`. -/
def HandlerCall.StatusSurvives (major : MajorFunction) (call : HandlerCall) :
    Prop :=
  match call.action, major.isIo with
  | .complete ioStatus, true => ioStatus.status ≠ statusPending
  | .complete ioStatus, false => ioStatus.status = statusSuccess
  | .markPending, true => call.returned = statusPending
  | .markPending, false => False

theorem statusAgrees_iff_of_dispatched
    {object : DriverObject} {handlers : Handlers} {pfn : CodePtr}
    {irp : Irp} {status : NTSTATUS} {after : Dispatch}
    (dispatched :
      WduDriver.dispatchHandler object handlers irp = .ok (status, after)) :
    StatusAgrees object handlers pfn irp ↔
      (∀ ioStatus, (handlers pfn irp).action = .complete ioStatus →
        status = after.irp.status) ∧
      (status = statusPending ↔
        (handlers pfn irp).action = .markPending) := by
  constructor
  · intro given
    obtain ⟨otherStatus, otherAfter, otherDispatched, agrees⟩ := given
    rw [dispatched] at otherDispatched
    cases otherDispatched
    exact agrees
  · intro agrees
    exact ⟨status, after, dispatched, agrees⟩

/-- For every handler that is called, and every status it completes with. -/
theorem dispatchStatus_agrees_iff
    {object : DriverObject} {driver : WduDriver} {irp : Irp}
    {major : MajorFunction} {pfn : CodePtr} {handlers : Handlers}
    (extended : object.wduExtension = some driver)
    (decoded : MajorFunction.fromU32 irp.majorFunction = .ok major)
    (present : driver.handler major = some pfn)
    (returns : ∀ ioStatus, major.isIo = true →
      (handlers pfn irp).action = .complete ioStatus →
        (handlers pfn irp).returned = ioStatus.status) :
    StatusAgrees object handlers pfn irp ↔
      (handlers pfn irp).StatusSurvives major := by
  rw [statusAgrees_iff_of_dispatched
    (WduDriver.dispatchHandler_of_handler handlers extended decoded present)]
  unfold HandlerCall.StatusSurvives
  cases io : major.isIo with
  | true =>
      cases acted : (handlers pfn irp).action with
      | complete ioStatus =>
          have returned := returns ioStatus io acted
          simp [returned, IrpAction.perform]
      | markPending =>
          simp
  | false =>
      cases acted : (handlers pfn irp).action with
      | complete ioStatus =>
          -- The status that goes back is fixed, whatever the packet says.
          constructor
          · intro agrees
            exact (agrees.1 ioStatus rfl).symm
          · intro granted
            simp [IrpAction.perform, granted, statusSuccess_ne_pending]
      | markPending =>
          simp [statusSuccess_ne_pending]

theorem dispatchStatus_agrees_read :
    StatusAgrees
      { DriverObject.atEntry true with
        wduExtension := some { io := { read := some 1 } } }
      (fun _ _ =>
        ⟨.complete (WduIoStatus.newWithStatus statusSomeNotMapped),
          statusSomeNotMapped⟩)
      1 (Irp.ofMajor irpMjRead) := by
  have present :
      ({ io := { read := some 1 } } : WduDriver).handler .read = some 1 :=
    rfl
  apply (dispatchStatus_agrees_iff rfl rfl present ?_).mpr
  · show statusSomeNotMapped ≠ statusPending
    decide
  · intro ioStatus _ acted
    cases acted
    rfl

/-- A create that is refused, and reported as granted. -/
theorem dispatchStatus_refusedCreate :
    ¬ StatusAgrees
      { DriverObject.atEntry true with
        wduExtension := some { fileobj := { create := some 1 } } }
      (fun _ _ =>
        ⟨.complete (WduIoStatus.newWithStatus statusUnsuccessful),
          statusSuccess⟩)
      1 (Irp.ofMajor irpMjCreate) := by
  intro given
  obtain ⟨status, after, dispatched, agrees, _⟩ := given
  cases dispatched
  exact absurd (agrees _ rfl) (by decide)

end WinDrvUtils

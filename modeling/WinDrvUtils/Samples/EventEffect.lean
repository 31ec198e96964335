import WinDrvUtils.Samples.EventChanges

/-!
# The steps of the event driver

`effect_of_step` says once what each event can do, with the branches of the
section that it stands for. It needs that the records of the queue lie in
different boxes, which every step keeps (`boxesNodup_step`).
-/

namespace WinDrvUtils

namespace EventDriver

/-! ## Looking an entry up -/

namespace NotifyType

theorem same_irpBased_iff
    (ty : NotifyType) (irp : Address) (wrapper : WduIrp) :
    ty.same (.irpBased irp wrapper) = true ↔ ty.irp = some irp := by
  cases ty with
  | irpBased other cached =>
      simp only [same, NotifyType.irp, beq_iff_eq, Option.some.injEq]
      exact eq_comm
  | eventBased event => simp [same, NotifyType.irp]

theorem same_eventBased_iff (ty : NotifyType) (event : Address) :
    ty.same (.eventBased event) = true ↔ ty.event = some event := by
  cases ty with
  | irpBased other cached => simp [same, NotifyType.event]
  | eventBased other =>
      simp only [same, NotifyType.event, beq_iff_eq, Option.some.injEq]
      exact eq_comm

end NotifyType

namespace Notifications

variable {notes : Notifications} {place : Nat}

theorem exists_of_findIrp
    {irp : Address} (found : notes.findIrp irp = some place) :
    ∃ record, notes.queue[place]? = some record ∧
      record.ty.irp = some irp := by
  obtain ⟨inside, here, _⟩ := List.findIdx?_eq_some_iff_getElem.mp found
  exact
    ⟨_, List.getElem?_eq_getElem inside, beq_iff_eq.mp here⟩

theorem exists_of_findData
    {ty : NotifyType} (found : notes.findData ty = some place) :
    ∃ record, notes.queue[place]? = some record ∧
      record.ty.same ty = true := by
  obtain ⟨inside, here, _⟩ := List.findIdx?_eq_some_iff_getElem.mp found
  exact ⟨_, List.getElem?_eq_getElem inside, here⟩

theorem findIrp_eq_none_iff {irp : Address} :
    notes.findIrp irp = none ↔
      ∀ record ∈ notes.queue, record.ty.irp ≠ some irp := by
  unfold findIrp
  rw [List.findIdx?_eq_none_iff]
  refine forall₂_congr fun record _ => ?_
  exact beq_eq_false_iff_ne

theorem findData_eq_none_iff {ty : NotifyType} :
    notes.findData ty = none ↔
      ∀ record ∈ notes.queue, record.ty.same ty = false :=
  List.findIdx?_eq_none_iff

theorem mem_of_place
    {record : NotifyRecord} (here : notes.queue[place]? = some record) :
    record ∈ notes.queue :=
  List.mem_of_getElem? here

/-- The removal of an entry that was found cannot fail. -/
theorem swapRemove_of_place
    {record : NotifyRecord} (here : notes.queue[place]? = some record) :
    ∃ rest, Vec.swapRemove notes.queue place = some (record, rest) := by
  obtain ⟨inside, _⟩ := List.getElem?_eq_some_iff.mp here
  obtain ⟨removed, rest, removal⟩ := Vec.swapRemove_isSome inside
  have there := Vec.getElem?_of_swapRemove removal
  rw [here] at there
  cases there
  exact ⟨rest, removal⟩

theorem cancelTimer_rest (notes : Notifications) (box : Address) :
    (notes.cancelTimer box).2.detached = notes.detached ∧
      (notes.cancelTimer box).2.cancellations = notes.cancellations := by
  unfold cancelTimer
  split <;> exact ⟨rfl, rfl⟩

end Notifications

/-! ## The effect of an event -/

/-- The wrapper that `irp_notification` has armed. -/
def armedWrapper : WduIrp :=
  ⟨.deviceControl, some cancelRoutinePtr⟩

def Packet.armed (packet : Packet) (context : Address) : Packet :=
  { packet with
    fields := (armedWrapper.setContext context packet.fields).storeRoutine
      true }

inductive Effect (system : System) : Event → System → Prop
  | entered {irp file request}
      (idle : system.calls irp = .idle)
      (pending : (system.files file).cleanup = .pending) :
      Effect system (.dispatch irp file request)
        ((system.setCall irp (.entered file request)).setFile file
          { system.files file with
            holders := irp :: (system.files file).holders })
  | turnedAway {irp file request}
      (idle : system.calls irp = .idle)
      (closed : (system.files file).cleanup ≠ .pending) :
      Effect system (.dispatch irp file request)
        (system.setCall irp (.returning none statusUnsuccessful))
  | rejected {irp answer file request status}
      (entered : system.calls irp = .entered file request) :
      Effect system (.handle irp answer)
        (system.setCall irp (.returning (some file) status))
  | armed {irp answer file request dueTime}
      (entered : system.calls irp = .entered file request) :
      Effect system (.handle irp answer)
        ((system.setPacket irp
          ((system.packets irp).armed answer.context)).setCall irp
          (.armed file armedWrapper dueTime))
  | referenced {irp answer file request dueTime}
      (entered : system.calls irp = .entered file request) :
      Effect system (.handle irp answer)
        { system.setCall irp (.referenced file answer.object dueTime) with
          references := system.references.issue answer.object }
  | refused {irp box file wrapper dueTime}
      (armed : system.calls irp = .armed file wrapper dueTime)
      (cancelled : (system.packets irp).cancel = true)
      (cached : wrapper.cancel ≠ none) :
      Effect system (.enqueue irp box)
        ((system.disarm irp wrapper).2.2.setCall irp
          (.returning (some file) statusCancelled))
  | pushedIrp {irp box file wrapper dueTime middle}
      (free : system.toNotifications.isFree box = true)
      (armed : system.calls irp = .armed file wrapper dueTime)
      (calm :
        ((system.packets irp).cancel = false ∧ middle = system) ∨
          (wrapper.cancel = none ∧
            middle = (system.disarm irp wrapper).2.2)) :
      Effect system (.enqueue irp box)
        (middle.pushIrp irp box file wrapper dueTime)
  | pushedEvent {irp box file event dueTime}
      (free : system.toNotifications.isFree box = true)
      (referenced : system.calls irp = .referenced file event dueTime) :
      Effect system (.enqueue irp box)
        ((system.setNotes
          (system.toNotifications.push box file (.eventBased event)
            dueTime)).setCall irp
          (.returning (some file) statusSuccess))
  | pending {irp file}
      (returning : system.calls irp = .returning file statusPending) :
      Effect system (.ret irp)
        ((system.setCall irp .returned).release irp file)
  | returned {irp file status}
      (returning : system.calls irp = .returning file status)
      (completes : status ≠ statusPending) :
      Effect system (.ret irp)
        (((system.complete irp
          (WduIoStatus.newWithStatus status)).setCall irp
          .returned).release irp file)
  | expired {box ty dueTime}
      (set : system.phases box = .set ty dueTime) :
      Effect system (.expire box) (system.setPhase box (.queued ty))
  | freedBox {box ty}
      (queued : system.phases box = .queued ty)
      (freed :
        ¬ (box ∈ system.toNotifications.boxes ∨ box ∈ system.detached)) :
      Effect system (.locate box) (system.fail .freedBox)
  | missed {box ty}
      (queued : system.phases box = .queued ty)
      (absent : system.toNotifications.findData ty = none) :
      Effect system (.locate box) (system.setPhase box .finished)
  | unset {box irp wrapper} {place : Nat} {record : NotifyRecord}
      (queued : system.phases box = .queued (.irpBased irp wrapper))
      (here : system.queue[place]? = some record)
      (same : record.ty.irp = some irp)
      (cached : wrapper.cancel = none) :
      Effect system (.locate box)
        ((system.disarm irp wrapper).2.2.setPhase box .finished)
  | found {box irp wrapper} {place : Nat} {record : NotifyRecord}
      (queued : system.phases box = .queued (.irpBased irp wrapper))
      (here : system.queue[place]? = some record)
      (same : record.ty.irp = some irp)
      (cached : wrapper.cancel ≠ none) :
      Effect system (.locate box)
        ((system.disarm irp wrapper).2.2.setPhase box
          (.completing place irp))
  | signalled {box event rest} {place : Nat} {record : NotifyRecord}
      (queued : system.phases box = .queued (.eventBased event))
      (alive :
        box ∈ system.toNotifications.boxes ∨ box ∈ system.detached)
      (found :
        system.toNotifications.findData (.eventBased event) = some place)
      (removal : Vec.swapRemove system.queue place = some (record, rest))
      (same : record.ty.event = some event) :
      Effect system (.locate box)
        (system.setNotes
          { (system.toNotifications.dereference event).setPhase
              box .finished with
            queue := rest })
  | completed {box place irp}
      (completing : system.phases box = .completing place irp) :
      Effect system (.completeFound box)
        ((system.complete irp WduIoStatus.successNoInfo).setPhase box
          (.removing place irp))
  | removed {box irp rest} {place : Nat} {record : NotifyRecord}
      (removing : system.phases box = .removing place irp)
      (removal : Vec.swapRemove system.queue place = some (record, rest)) :
      Effect system (.removeFound box)
        (system.setNotes
          { system.toNotifications.setPhase box .finished with
            queue := rest })
  | outside {box place irp}
      (removing : system.phases box = .removing place irp)
      (beyond : Vec.swapRemove system.queue place = none) :
      Effect system (.removeFound box) (system.fail .swapRemoveIndex)
  | marked {irp}
      (idle : system.cancellations irp = .idle)
      (unarmed : (system.packets irp).fields.cancelRoutine = false) :
      Effect system (.kernelCancel irp)
        (system.setPacket irp { system.packets irp with cancel := true })
  | taken {irp}
      (idle : system.cancellations irp = .idle)
      (armed : (system.packets irp).fields.cancelRoutine = true) :
      Effect system (.kernelCancel irp)
        ((system.setPacket irp
          { system.packets irp with
            cancel := true
            fields :=
              (system.packets irp).fields.storeRoutine
                false }).setCancellation irp .taken)
  | unwrapped {irp}
      (taken : system.cancellations irp = .taken)
      (absent : ∀ record ∈ system.queue, record.ty.irp ≠ some irp) :
      Effect system (.cancelRoutine irp) (system.fail .unwrapNone)
  | cancelled {irp rest} {place : Nat} {record : NotifyRecord}
      (taken : system.cancellations irp = .taken)
      (found : system.toNotifications.findIrp irp = some place)
      (removal : Vec.swapRemove system.queue place = some (record, rest))
      (same : record.ty.irp = some irp) :
      Effect system (.cancelRoutine irp)
        ((system.setNotes
          { (system.toNotifications.cancelTimer record.box).2 with
            queue := rest
            detached := record.box ::
              (system.toNotifications.cancelTimer
                record.box).2.detached }).setCancellation
          irp (.completing record.box))
  | dropped {irp box}
      (completing : system.cancellations irp = .completing box) :
      Effect system (.completeCancelled irp)
        { (system.complete irp
            (WduIoStatus.newWithStatus statusCancelled)).setCancellation
            irp .idle with
          detached := system.detached.erase box }
  | waiting {file}
      (pending : (system.files file).cleanup = .pending) :
      Effect system (.beginCleanup file)
        (system.setFile file
          { system.files file with cleanup := .waiting })
  | cleaned {file next}
      (cleaned : system.Cleaned file next) :
      Effect system (.cleanup file) next
  | cleanedOne {file irp rest}
      (completing :
        (system.files file).cleanup = .completing (irp :: rest)) :
      Effect system (.completeCleaned file)
        ((system.complete irp
          (WduIoStatus.newWithStatus statusCancelled)).setFile file
          { system.files file with cleanup := .completing rest })

namespace System

section

variable {system next : System}

theorem dispatch_effect
    {irp file : Address} {request : Request}
    (stepped : system.dispatch irp file request = some next) :
    Effect system (.dispatch irp file request) next := by
  unfold dispatch at stepped
  split at stepped
  case h_1 idle =>
      dsimp only at stepped
      split at stepped
      case h_1 pending =>
          cases stepped
          exact .entered idle pending
      case h_2 closed =>
          cases stepped
          exact .turnedAway idle closed
  case h_2 => cases stepped

theorem handle_effect
    {irp : Address} {answer : Answer}
    (stepped : system.handle irp answer = some next) :
    Effect system (.handle irp answer) next := by
  unfold handle at stepped
  split at stepped
  case h_1 file request entered =>
      split at stepped
      case h_1 status invalid =>
          cases stepped
          exact .rejected entered
      case h_2 register valid =>
          split at stepped
          case isTrue based =>
              cases stepped
              exact .armed entered
          case isFalse =>
              split at stepped
              case isTrue failed =>
                  cases stepped
                  exact .rejected entered
              case isFalse =>
                  cases stepped
                  exact .referenced entered
  case h_2 => cases stepped

theorem enqueue_effect
    {irp box : Address}
    (stepped : system.enqueue irp box = some next) :
    Effect system (.enqueue irp box) next := by
  obtain ⟨free, stepped⟩ := Option.ite_none_right_eq_some.mp stepped
  split at stepped
  case h_1 file wrapper dueTime armed =>
      split at stepped
      case isTrue cancelled =>
          rw [disarm_eq] at stepped
          cases cached : wrapper.cancel with
          | none =>
              simp only [cached] at stepped
              cases stepped
              exact .pushedIrp free armed (Or.inr ⟨cached, rfl⟩)
          | some routine =>
              simp only [cached] at stepped
              cases stepped
              exact .refused armed cancelled (by simp [cached])
      case isFalse calm =>
          cases stepped
          exact
            .pushedIrp free armed
              (Or.inl ⟨Bool.eq_false_iff.mpr calm, rfl⟩)
  case h_2 file event dueTime referenced =>
      cases stepped
      exact .pushedEvent free referenced
  case h_3 => cases stepped

theorem ret_effect
    {irp : Address} (stepped : system.ret irp = some next) :
    Effect system (.ret irp) next := by
  unfold ret at stepped
  split at stepped
  case h_1 file status returning =>
      dsimp only at stepped
      by_cases pending : status = statusPending
      · rw [if_pos pending] at stepped
        cases stepped
        subst pending
        exact .pending returning
      · rw [if_neg pending] at stepped
        cases stepped
        exact .returned returning pending
  case h_2 => cases stepped

theorem locate_effect
    {box : Address} (stepped : system.locate box = some next) :
    Effect system (.locate box) next := by
  unfold locate at stepped
  split at stepped
  case h_1 ty queued =>
      split at stepped
      case isTrue alive =>
          split at stepped
          case h_1 absent =>
              cases stepped
              exact .missed queued absent
          case h_2 place found =>
              obtain ⟨record, here, same⟩ :=
                Notifications.exists_of_findData found
              cases ty with
              | irpBased irp wrapper =>
                  have based :=
                    (NotifyType.same_irpBased_iff _ _ _).mp same
                  dsimp only at stepped
                  rw [disarm_eq] at stepped
                  cases cached : wrapper.cancel with
                  | none =>
                      simp only [cached] at stepped
                      cases stepped
                      exact .unset queued here based cached
                  | some routine =>
                      simp only [cached] at stepped
                      cases stepped
                      exact .found queued here based (by simp [cached])
              | eventBased event =>
                  obtain ⟨rest, removal⟩ :=
                    Notifications.swapRemove_of_place here
                  dsimp only at stepped
                  rw [removal] at stepped
                  cases stepped
                  exact
                    .signalled queued alive found removal
                      ((NotifyType.same_eventBased_iff _ _).mp same)
      case isFalse freed =>
          cases stepped
          exact .freedBox queued freed
  case h_2 => cases stepped

theorem removeFound_effect
    {box : Address} (stepped : system.removeFound box = some next) :
    Effect system (.removeFound box) next := by
  unfold removeFound at stepped
  split at stepped
  case h_1 place irp removing =>
      split at stepped
      case h_1 beyond =>
          cases stepped
          exact .outside removing beyond
      case h_2 record rest removal =>
          cases stepped
          exact .removed removing removal
  case h_2 => cases stepped

theorem kernelCancel_effect
    {irp : Address} (stepped : system.kernelCancel irp = some next) :
    Effect system (.kernelCancel irp) next := by
  unfold kernelCancel at stepped
  split at stepped
  case h_1 idle =>
      dsimp only at stepped
      split at stepped
      case isTrue armed =>
          cases stepped
          exact .taken idle armed
      case isFalse unarmed =>
          cases stepped
          exact .marked idle (Bool.eq_false_iff.mpr unarmed)
  case h_2 => cases stepped

theorem cancelRoutine_effect
    {irp : Address} (stepped : system.cancelRoutine irp = some next) :
    Effect system (.cancelRoutine irp) next := by
  unfold cancelRoutine at stepped
  split at stepped
  case h_1 taken =>
      split at stepped
      case h_1 absent =>
          cases stepped
          exact
            .unwrapped taken (Notifications.findIrp_eq_none_iff.mp absent)
      case h_2 place found =>
          obtain ⟨record, here, same⟩ :=
            Notifications.exists_of_findIrp found
          obtain ⟨rest, removal⟩ := Notifications.swapRemove_of_place here
          rw [removal] at stepped
          cases stepped
          exact .cancelled taken found removal same
  case h_2 => cases stepped

theorem expire_effect
    {box : Address} (stepped : system.expire box = some next) :
    Effect system (.expire box) next := by
  unfold expire at stepped
  split at stepped
  case h_1 ty dueTime set =>
      cases stepped
      exact .expired set
  case h_2 => cases stepped

theorem completeFound_effect
    {box : Address} (stepped : system.completeFound box = some next) :
    Effect system (.completeFound box) next := by
  unfold completeFound at stepped
  split at stepped
  case h_1 place irp completing =>
      cases stepped
      exact .completed completing
  case h_2 => cases stepped

theorem completeCancelled_effect
    {irp : Address} (stepped : system.completeCancelled irp = some next) :
    Effect system (.completeCancelled irp) next := by
  unfold completeCancelled at stepped
  split at stepped
  case h_1 box completing =>
      cases stepped
      exact .dropped completing
  case h_2 => cases stepped

theorem beginCleanup_effect
    {file : Address} (stepped : system.beginCleanup file = some next) :
    Effect system (.beginCleanup file) next := by
  unfold beginCleanup at stepped
  dsimp only at stepped
  split at stepped
  case h_1 pending =>
      cases stepped
      exact .waiting pending
  case h_2 => cases stepped

theorem completeCleaned_effect
    {file : Address} (stepped : system.completeCleaned file = some next) :
    Effect system (.completeCleaned file) next := by
  unfold completeCleaned at stepped
  dsimp only at stepped
  split at stepped
  case h_1 irp rest completing =>
      cases stepped
      exact .cleanedOne completing
  case h_2 => cases stepped

theorem effect_of_step
    {event : Event} (nodup : system.toNotifications.boxes.Nodup)
    (stepped : system.step event = some next) :
    Effect system event next := by
  obtain ⟨_, stepped⟩ := Option.ite_none_left_eq_some.mp stepped
  cases event with
  | dispatch irp file request => exact dispatch_effect stepped
  | handle irp answer => exact handle_effect stepped
  | enqueue irp box => exact enqueue_effect stepped
  | ret irp => exact ret_effect stepped
  | expire box => exact expire_effect stepped
  | locate box => exact locate_effect stepped
  | completeFound box => exact completeFound_effect stepped
  | removeFound box => exact removeFound_effect stepped
  | kernelCancel irp => exact kernelCancel_effect stepped
  | cancelRoutine irp => exact cancelRoutine_effect stepped
  | completeCancelled irp => exact completeCancelled_effect stepped
  | beginCleanup file => exact beginCleanup_effect stepped
  | cleanup file => exact .cleaned (cleaned_of_cleanup file nodup stepped)
  | completeCleaned file => exact completeCleaned_effect stepped

/-! ## Boxes -/

@[simp]
theorem release_notes (system : System) (irp : Address)
    (file : Option Address) :
    (system.release irp file).toNotifications = system.toNotifications := by
  cases file <;> rfl

/-- Leaving the remove lock concerns the holders only. -/
theorem release_frame
    (system : System) (irp : Address) (file : Option Address) :
    (system.release irp file).toNotifications = system.toNotifications ∧
      (system.release irp file).calls = system.calls ∧
        (system.release irp file).packets = system.packets := by
  cases file <;> exact ⟨rfl, rfl, rfl⟩

theorem boxes_push
    {notes : Notifications} {box file : Address} {ty : NotifyType}
    {dueTime : Int64} :
    (notes.push box file ty dueTime).boxes = notes.boxes ++ [box] :=
  List.map_append

theorem kept_box
    {file : Address} {phases : Address → Phase}
    {record left : NotifyRecord}
    (kept : record.kept file phases = some left) :
    left.box = record.box := by
  unfold NotifyRecord.kept at kept
  split at kept
  · split at kept
    · split at kept
      · cases kept
        rfl
      · cases kept
    · cases kept
  · cases kept
    rfl

/-- Cleanup leaves some of the boxes. -/
theorem boxes_afterCleanup (notes : Notifications) (file : Address) :
    (notes.afterCleanup file).boxes.Sublist notes.boxes := by
  unfold Notifications.boxes Notifications.afterCleanup
  dsimp only
  generalize notes.queue = queue
  induction queue with
  | nil => exact .slnil
  | cons record rest inductionHypothesis =>
      rw [List.filterMap_cons]
      split
      case h_1 => exact inductionHypothesis.cons _
      case h_2 left kept =>
          rw [List.map_cons, List.map_cons, kept_box kept]
          exact inductionHypothesis.cons_cons _

theorem boxes_of_swapRemove
    {notes : Notifications} {place : Nat} {record : NotifyRecord}
    {rest : List NotifyRecord}
    (removal : Vec.swapRemove notes.queue place = some (record, rest)) :
    notes.boxes.Perm (record.box :: rest.map NotifyRecord.box) :=
  (Vec.swapRemove_perm removal).map NotifyRecord.box

theorem isFree_iff {notes : Notifications} {box : Address} :
    notes.isFree box = true ↔
      (notes.phases box = .idle ∨ notes.phases box = .finished) ∧
        box ∉ notes.boxes ∧ box ∉ notes.detached := by
  unfold Notifications.isFree
  simp [and_assoc]

/-- The place that the DPC remembers is beyond the end of the queue. -/
theorem nothing_of_outside
    {box own : Address} {place : Nat}
    (removing : system.phases box = .removing place own)
    (beyond : Vec.swapRemove system.queue place = none)
    {other : Nat} {irp : Address}
    (otherRemoving : system.phases box = .removing other irp)
    (record : NotifyRecord) :
    system.queue[other]? ≠ some record := by
  rw [removing] at otherRemoving
  cases otherRemoving
  intro here
  obtain ⟨_, removal⟩ := Notifications.swapRemove_of_place here
  rw [beyond] at removal
  cases removal

/-! ### The request before its entry is queued

Its packet may have been disarmed, and nothing else has changed. -/

section Middle

variable {irp : Address} {wrapper : WduIrp} {middle : System}
  (calm :
    ((system.packets irp).cancel = false ∧ middle = system) ∨
      (wrapper.cancel = none ∧ middle = (system.disarm irp wrapper).2.2))

include calm

theorem middle_notes : middle.toNotifications = system.toNotifications := by
  rcases calm with ⟨_, rfl⟩ | ⟨_, rfl⟩
  · rfl
  · rfl

theorem middle_files : middle.files = system.files := by
  rcases calm with ⟨_, rfl⟩ | ⟨_, rfl⟩
  · rfl
  · rfl

theorem middle_calls : middle.calls = system.calls := by
  rcases calm with ⟨_, rfl⟩ | ⟨_, rfl⟩
  · rfl
  · rfl

theorem middle_weaker (other : Address) :
    (system.packets other).Weaker (middle.packets other) := by
  rcases calm with ⟨_, rfl⟩ | ⟨_, rfl⟩
  · exact .refl _
  · exact disarm_weaker system irp other wrapper

theorem pushIrp_notes (box file : Address) (dueTime : Int64) :
    (middle.pushIrp irp box file wrapper dueTime).toNotifications =
      system.toNotifications.push box file (.irpBased irp wrapper)
        dueTime := by
  rw [← middle_notes calm]
  rfl

theorem pushIrp_calls (box file : Address) (dueTime : Int64) :
    (middle.pushIrp irp box file wrapper dueTime).calls =
      Function.update system.calls irp
        (.returning (some file) statusPending) := by
  rw [← middle_calls calm]
  rfl

theorem pushIrp_queue (box file : Address) (dueTime : Int64) :
    (middle.pushIrp irp box file wrapper dueTime).queue =
      system.queue ++ [⟨box, file, .irpBased irp wrapper⟩] :=
  congrArg Notifications.queue (pushIrp_notes calm box file dueTime)

end Middle

theorem nodup_push
    {notes : Notifications} {box file : Address} {ty : NotifyType}
    {dueTime : Int64} (nodup : notes.boxes.Nodup)
    (free : notes.isFree box = true) :
    (notes.push box file ty dueTime).boxes.Nodup := by
  rw [boxes_push, List.nodup_append]
  refine ⟨nodup, List.nodup_singleton box, ?_⟩
  rintro other member last same rfl
  rw [List.mem_singleton.mp same] at member
  exact (isFree_iff.mp free).2.1 member

theorem nodup_removal
    {notes : Notifications} {place : Nat} {record : NotifyRecord}
    {rest : List NotifyRecord} (nodup : notes.boxes.Nodup)
    (removal : Vec.swapRemove notes.queue place = some (record, rest)) :
    record.box ∉ rest.map NotifyRecord.box ∧
      (rest.map NotifyRecord.box).Nodup :=
  List.nodup_cons.mp ((boxes_of_swapRemove removal).nodup_iff.mp nodup)

/-- Two entries in one box are one entry. -/
theorem eq_of_box
    (nodup : system.toNotifications.boxes.Nodup)
    {record other : NotifyRecord} (member : record ∈ system.queue)
    (otherMember : other ∈ system.queue) (same : record.box = other.box) :
    record = other :=
  List.inj_on_of_nodup_map nodup member otherMember same

theorem boxesNodup_step
    {event : Event} (nodup : system.toNotifications.boxes.Nodup)
    (stepped : system.step event = some next) :
    next.toNotifications.boxes.Nodup := by
  cases effect_of_step nodup stepped with
  | @pushedIrp irp box file wrapper dueTime middle free _ calm =>
      have same := middle_notes calm
      show (middle.toNotifications.push _ _ _ _).boxes.Nodup
      rw [same]
      exact nodup_push nodup free
  | pushedEvent free _ => exact nodup_push nodup free
  | signalled _ _ _ removal _ => exact (nodup_removal nodup removal).2
  | removed _ removal => exact (nodup_removal nodup removal).2
  | cancelled _ _ removal _ => exact (nodup_removal nodup removal).2
  | cleaned cleaned =>
      rw [cleaned.notes]
      exact nodup.sublist (boxes_afterCleanup _ _)
  | pending _ => rwa [release_notes]
  | returned _ _ => rwa [release_notes]
  | entered _ _ | turnedAway _ _ | rejected _ | armed _ | referenced _
  | refused _ _ _ | expired _ | freedBox _ _ | missed _ _ | unset _ _ _ _
  | found _ _ _ _ | completed _ | outside _ _ | marked _ _ | taken _ _
  | unwrapped _ _ | dropped _ | waiting _ | cleanedOne _ =>
      exact nodup

/-! ## Faults -/

theorem fault_none_of_step
    {event : Event} (stepped : system.step event = some next) :
    system.fault = none := by
  obtain ⟨noFault, _⟩ := Option.ite_none_left_eq_some.mp stepped
  exact Option.not_isSome_iff_eq_none.mp noFault

/-- What the state is like in which a run ends. -/
inductive Cause (system : System) : Fault → Prop
  | freedBox {box : Address} {ty : NotifyType}
      (queued : system.phases box = .queued ty)
      (freed :
        ¬ (box ∈ system.toNotifications.boxes ∨ box ∈ system.detached)) :
      Cause system .freedBox
  | unwrapNone {irp : Address} (taken : system.cancellations irp = .taken)
      (absent : ∀ record ∈ system.queue, record.ty.irp ≠ some irp) :
      Cause system .unwrapNone
  | swapRemoveIndex {box irp : Address} {place : Nat}
      (removing : system.phases box = .removing place irp)
      (beyond : Vec.swapRemove system.queue place = none) :
      Cause system .swapRemoveIndex

theorem cause_of_step
    {event : Event} {fault : Fault}
    (nodup : system.toNotifications.boxes.Nodup)
    (stepped : system.step event = some next)
    (failed : next.fault = some fault) : system.Cause fault := by
  have before := fault_none_of_step stepped
  have kept : next.fault ≠ system.fault := by
    rw [before, failed]
    exact Option.some_ne_none _
  cases effect_of_step nodup stepped with
  | freedBox queued freed =>
      cases failed
      exact .freedBox queued freed
  | outside removing beyond =>
      cases failed
      exact .swapRemoveIndex removing beyond
  | unwrapped taken absent =>
      cases failed
      exact .unwrapNone taken absent
  | cleaned cleaned => exact absurd cleaned.fault kept
  | @pushedIrp irp box file wrapper dueTime middle _ _ calm =>
      rcases calm with ⟨_, rfl⟩ | ⟨_, rfl⟩ <;> exact absurd rfl kept
  | @pending irp file _ => cases file <;> exact absurd rfl kept
  | @returned irp file status _ _ => cases file <;> exact absurd rfl kept
  | entered _ _ | turnedAway _ _ | rejected _ | armed _ | referenced _
  | refused _ _ _ | pushedEvent _ _ | expired _ | missed _ _
  | unset _ _ _ _ | found _ _ _ _ | signalled _ _ _ _ _ | completed _
  | removed _ _ | marked _ _ | taken _ _ | cancelled _ _ _ _ | dropped _
  | waiting _ | cleanedOne _ =>
      exact absurd rfl kept

end

end System

end EventDriver

end WinDrvUtils

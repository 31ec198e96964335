import WinDrvUtils.Samples.EventClaims

/-!
# What cleanup leaves behind

The cleanup of a file object waits until no request of it is inside, and lets
none in any more. Of the entries of the file it keeps those whose cancel
routine it disarms then, and drops the others; so an entry that is left has
no cancel routine, neither in its packet nor in the wrapper that it keeps.
-/

namespace WinDrvUtils

namespace EventDriver

open StepSystem

/-- The file object whose remove lock a request holds. -/
def Call.file : Call → Option Address
  | .entered file _ => some file
  | .armed file _ _ => some file
  | .referenced file _ _ => some file
  | .returning file _ => file
  | _ => none

/-- Cleanup has had the queue. -/
def Cleanup.isOver : Cleanup → Bool
  | .completing _ => true
  | _ => false

/-- An entry whose cancel routine nobody can take, and for which the next
disarming answers with nothing. -/
def NotifyRecord.IsSpent (packets : Address → Packet)
    (record : NotifyRecord) : Prop :=
  ∃ irp wrapper, record.ty = .irpBased irp wrapper ∧
    wrapper.cancel = none ∧ (packets irp).fields.cancelRoutine = false

namespace System

/-- Who holds the remove lock of a file object. -/
structure Entrance (system : System) : Prop where
  inside :
    ∀ irp file, (system.calls irp).file = some file →
      irp ∈ (system.files file).holders
  closed :
    ∀ file, (system.files file).cleanup.isOver = true →
      (system.files file).holders = []

def LeavesSpent (system : System) : Prop :=
  ∀ file, (system.files file).cleanup.isOver = true →
    ∀ record ∈ system.queue, record.fileObject = file →
      record.IsSpent system.packets

theorem Entrance.empty
    {system : System} (entrance : system.Entrance) {file : Address}
    (ended : (system.files file).cleanup.isOver = true) (irp : Address) :
    (system.calls irp).file ≠ some file := by
  intro inside
  have member := entrance.inside irp file inside
  rw [entrance.closed file ended] at member
  exact List.not_mem_nil member

section

variable {system next : System}

/-! ## The remove lock -/

/-- A call goes on with the lock that it holds, or without one. -/
theorem Entrance.call
    {irp : Address} {call : Call} (entrance : system.Entrance)
    (calls : next.calls = Function.update system.calls irp call)
    (files : next.files = system.files)
    (same : call.file = none ∨ call.file = (system.calls irp).file) :
    next.Entrance where
  inside other file inside := by
    rw [calls] at inside
    rw [files]
    by_cases equal : other = irp
    · rw [equal, Function.update_self] at inside
      rcases same with nothing | same
      · rw [nothing] at inside
        cases inside
      · rw [equal]
        exact entrance.inside irp file (same.symm.trans inside)
    · rw [Function.update_of_ne equal] at inside
      exact entrance.inside other file inside
  closed := by
    rw [files]
    exact entrance.closed

/-- Cleanup goes on, and nobody leaves or enters. -/
theorem Entrance.file
    {file : Address} {state : FileState} (entrance : system.Entrance)
    (calls : next.calls = system.calls)
    (files : next.files = Function.update system.files file state)
    (holders : state.holders = (system.files file).holders)
    (closed : state.cleanup.isOver = true → state.holders = []) :
    next.Entrance where
  inside irp other inside := by
    rw [calls] at inside
    have member := entrance.inside irp other inside
    rw [files]
    by_cases equal : other = file
    · rw [equal] at member
      rw [equal, Function.update_self, holders]
      exact member
    · rw [Function.update_of_ne equal]
      exact member
  closed other ended := by
    rw [files] at ended ⊢
    by_cases equal : other = file
    · rw [equal, Function.update_self] at ended ⊢
      exact closed ended
    · rw [Function.update_of_ne equal] at ended ⊢
      exact entrance.closed other ended

theorem Entrance.same
    (entrance : system.Entrance) (calls : next.calls = system.calls)
    (files : next.files = system.files) : next.Entrance where
  inside := by
    rw [calls, files]
    exact entrance.inside
  closed := by
    rw [files]
    exact entrance.closed

/-- A request enters, before the cleanup. -/
theorem Entrance.enter
    {irp file : Address} {request : Request} (entrance : system.Entrance)
    (pending : (system.files file).cleanup = .pending) :
    ((system.setCall irp (.entered file request)).setFile file
      { system.files file with
        holders := irp :: (system.files file).holders }).Entrance where
  inside other place inside := by
    by_cases equal : other = irp
    · subst equal
      simp only [setFile, setCall, Function.update_self, Call.file,
        Option.some.injEq] at inside
      subst inside
      simp only [setFile, Function.update_self]
      exact List.mem_cons_self
    · simp only [setFile, setCall, Function.update_of_ne equal] at inside
      have member := entrance.inside other place inside
      by_cases same : place = file
      · subst same
        simp only [setFile, Function.update_self]
        exact List.mem_cons_of_mem irp member
      · simp only [setFile, setCall, Function.update_of_ne same]
        exact member
  closed place ended := by
    by_cases same : place = file
    · subst same
      simp only [setFile, Function.update_self, pending] at ended
      cases ended
    · simp only [setFile, setCall, Function.update_of_ne same] at ended ⊢
      exact entrance.closed place ended

/-- A request that has returned leaves the remove lock. -/
theorem Entrance.leave
    {irp : Address} {file : Option Address} (entrance : system.Entrance)
    (calls : next.calls = Function.update system.calls irp .returned)
    (files : next.files = system.files) :
    (next.release irp file).Entrance := by
  have stays :
      ∀ other place, (next.calls other).file = some place →
        other ≠ irp ∧ other ∈ (system.files place).holders := by
    intro other place inside
    rw [calls] at inside
    by_cases equal : other = irp
    · rw [equal, Function.update_self] at inside
      cases inside
    · rw [Function.update_of_ne equal] at inside
      exact ⟨equal, entrance.inside other place inside⟩
  constructor
  case inside =>
      intro other place inside
      rw [release_calls] at inside
      obtain ⟨different, member⟩ := stays other place inside
      rw [← files] at member
      cases file with
      | none => exact member
      | some file =>
          unfold release setFile
          dsimp only
          by_cases same : place = file
          · subst same
            rw [Function.update_self]
            exact (List.mem_erase_of_ne different).mpr member
          · rw [Function.update_of_ne same]
            exact member
  case closed =>
      intro place ended
      rw [release_cleanup, files] at ended
      have nobody := entrance.closed place ended
      rw [← files] at nobody
      cases file with
      | none => exact nobody
      | some file =>
          unfold release setFile
          dsimp only
          by_cases same : place = file
          · subst same
            rw [Function.update_self, nobody]
            rfl
          · rw [Function.update_of_ne same]
            exact nobody

theorem entrance_step
    {event : Event} (nodup : system.toNotifications.boxes.Nodup)
    (entrance : system.Entrance)
    (stepped : system.step event = some next) : next.Entrance := by
  cases effect_of_step nodup stepped with
  | entered _ pending => exact entrance.enter pending
  | turnedAway _ _ => exact entrance.call rfl rfl (Or.inl rfl)
  | rejected entered =>
      exact entrance.call rfl rfl (Or.inr (by rw [entered]; rfl))
  | armed entered =>
      exact entrance.call rfl rfl (Or.inr (by rw [entered]; rfl))
  | referenced entered =>
      exact entrance.call rfl rfl (Or.inr (by rw [entered]; rfl))
  | refused armed _ _ =>
      exact entrance.call rfl rfl (Or.inr (by rw [armed]; rfl))
  | pushedEvent _ referenced =>
      exact entrance.call rfl rfl (Or.inr (by rw [referenced]; rfl))
  | @pushedIrp irp box file wrapper dueTime middle _ armed calm =>
      have files := middle_files calm
      exact
        @Entrance.call system _ irp (.returning (some file) statusPending)
          entrance (pushIrp_calls calm box file dueTime) files
          (Or.inr (by rw [armed]; rfl))
  | pending _ => exact entrance.leave rfl rfl
  | returned _ _ => exact entrance.leave rfl rfl
  | waiting _ =>
      refine entrance.file rfl rfl rfl fun ended => ?_
      cases ended
  | cleaned cleaned =>
      exact
        entrance.file cleaned.calls cleaned.files rfl fun _ =>
          cleaned.nobody
  | @cleanedOne file irp rest completing =>
      refine entrance.file rfl rfl rfl fun _ => ?_
      exact entrance.closed file (by rw [completing]; rfl)
  | expired _ | freedBox _ _ | missed _ _ | unset _ _ _ _ | found _ _ _ _
  | signalled _ _ _ _ _ | completed _ | removed _ _ | outside _ _
  | marked _ _ | taken _ _ | unwrapped _ _ | cancelled _ _ _ _
  | dropped _ =>
      exact entrance.same rfl rfl

/-! ## The entries that are left -/

theorem isSpent_of_armed
    {packets : Address → Packet} {record : NotifyRecord}
    (spent : record.IsSpent system.packets)
    (armed :
      ∀ irp, record.ty.irp = some irp →
        (packets irp).fields.cancelRoutine = true →
          (system.packets irp).fields.cancelRoutine = true) :
    record.IsSpent packets := by
  obtain ⟨irp, wrapper, based, uncached, unarmed⟩ := spent
  refine ⟨irp, wrapper, based, uncached, Bool.eq_false_iff.mpr ?_⟩
  intro still
  rw [armed irp (by rw [based]; rfl) still] at unarmed
  cases unarmed

/-- Nothing is queued, no cleanup comes to its end, and no request that has
an entry is armed. -/
theorem LeavesSpent.keep
    (leaves : system.LeavesSpent)
    (queue : ∀ record ∈ next.queue, record ∈ system.queue)
    (ended :
      ∀ file, (next.files file).cleanup.isOver = true →
        (system.files file).cleanup.isOver = true)
    (armed :
      ∀ record ∈ system.queue, ∀ irp, record.ty.irp = some irp →
        next.isArmed irp = true → system.isArmed irp = true) :
    next.LeavesSpent := by
  intro file isOver record member own
  have before := queue record member
  exact
    isSpent_of_armed (leaves file (ended file isOver) record before own)
      (armed record before)

/-- An entry is queued for a file object whose cleanup is not over. -/
theorem LeavesSpent.push
    {box file : Address} {ty : NotifyType} (leaves : system.LeavesSpent)
    (queue : next.queue = system.queue ++ [⟨box, file, ty⟩])
    (files : next.files = system.files)
    (armed : ∀ irp, next.isArmed irp = true → system.isArmed irp = true)
    (opened : (system.files file).cleanup.isOver = false) :
    next.LeavesSpent := by
  intro place isOver record member own
  rw [queue] at member
  rw [files] at isOver
  rcases List.mem_append.mp member with before | last
  · exact
      isSpent_of_armed (leaves place isOver record before own)
        fun irp _ => armed irp
  · have equal := List.mem_singleton.mp last
    have same : file = place := by
      rw [← own, equal]
    rw [← same, opened] at isOver
    cases isOver

/-- The remove lock is held, so the cleanup is not over. -/
theorem Entrance.not_isOver
    (entrance : system.Entrance) {irp file : Address}
    (inside : (system.calls irp).file = some file) :
    (system.files file).cleanup.isOver = false := by
  apply Bool.eq_false_iff.mpr
  intro ended
  exact entrance.empty ended irp inside

theorem leavesSpent_cleaned
    {file : Address} (leaves : system.LeavesSpent)
    (cleaned : system.Cleaned file next) : next.LeavesSpent := by
  intro place isOver left leftMember own
  rw [congrArg Notifications.queue cleaned.notes] at leftMember
  obtain ⟨record, member, kept⟩ := List.mem_filterMap.mp leftMember
  have weaker :
      ∀ irp, record.ty.irp = some irp →
        (next.packets irp).fields.cancelRoutine = true →
          (system.packets irp).fields.cancelRoutine = true :=
    fun irp _ => (cleaned.weaker irp).routine
  unfold NotifyRecord.kept at kept
  split at kept
  case isTrue hit =>
      cases based : record.ty with
      | eventBased event =>
          simp only [based] at kept
          cases kept
      | irpBased irp wrapper =>
          simp only [based] at kept
          split at kept
          case isTrue =>
              cases kept
              exact
                ⟨irp, _, rfl, rfl,
                  cleaned.unarmed record member hit irp wrapper based⟩
          case isFalse => cases kept
  case isFalse missed =>
      cases kept
      have different : place ≠ file := by
        intro same
        subst same
        simp [NotifyRecord.isHit, own] at missed
      rw [cleaned.files, Function.update_of_ne different] at isOver
      exact isSpent_of_armed (leaves place isOver left member own) weaker

theorem LeavesSpent.release
    (leaves : system.LeavesSpent) (irp : Address) (file : Option Address) :
    (system.release irp file).LeavesSpent := by
  obtain ⟨notes, _, packets⟩ := release_frame system irp file
  refine leaves.keep ?_ (fun place ended => ?_) fun record _ other _ => ?_
  · rw [congrArg Notifications.queue notes]
    exact fun _ => id
  · rw [release_cleanup] at ended
    exact ended
  · unfold isArmed
    rw [packets]
    exact id

/-- The packet of one request changes, and is not armed anew. -/
theorem setPacket_armed
    {moved : Address} {packet : Packet}
    (weaker :
      packet.fields.cancelRoutine = true → system.isArmed moved = true) :
    ∀ irp, (system.setPacket moved packet).isArmed irp = true →
      system.isArmed irp = true := by
  intro irp armed
  by_cases same : irp = moved
  · subst same
    unfold isArmed setPacket at armed
    dsimp only at armed
    rw [Function.update_self] at armed
    exact weaker armed
  · exact (setPacket_packets same).routine armed

/-- The cleanup of one file object goes on, and is over only if it was. -/
theorem over_update
    {files : Address → FileState} {file : Address} {state : FileState}
    (before :
      state.cleanup.isOver = true → (files file).cleanup.isOver = true) :
    ∀ place,
      (Function.update files file state place).cleanup.isOver = true →
        (files place).cleanup.isOver = true := by
  intro place ended
  by_cases same : place = file
  · subst same
    rw [Function.update_self] at ended
    exact before ended
  · rw [Function.update_of_ne same] at ended
    exact ended

theorem leavesSpent_step
    {event : Event} (invariant : system.Invariant)
    (entrance : system.Entrance) (leaves : system.LeavesSpent)
    (stepped : system.step event = some next) : next.LeavesSpent := by
  have same : ∀ record ∈ system.queue, record ∈ system.queue :=
    fun _ => id
  cases effect_of_step invariant.nodup stepped with
  | cleaned cleaned => exact leavesSpent_cleaned leaves cleaned
  | @pushedIrp irp box file wrapper dueTime middle _ armed calm =>
      have files := middle_files calm
      refine
        leaves.push (pushIrp_queue calm box file dueTime) files
          (fun other still => ?_) (entrance.not_isOver (by rw [armed]; rfl))
      have before : middle.isArmed other = true := by
        by_cases equal : other = irp
        · have marked :
              (Function.update middle.packets irp
                { middle.packets irp with
                  irp := (middle.packets irp).irp.markPending }
                other).fields.cancelRoutine = true :=
            still
          rw [equal, Function.update_self] at marked
          rw [equal]
          exact marked
        · exact (setPacket_packets equal).routine still
      exact (middle_weaker calm other).routine before
  | @pushedEvent irp box file event dueTime _ referenced =>
      exact
        leaves.push rfl rfl (fun _ => id)
          (entrance.not_isOver (by rw [referenced]; rfl))
  | @armed irp answer file request dueTime entered =>
      refine leaves.keep same (fun _ => id) ?_
      intro record member other based still
      have different : other ≠ irp := by
        rintro rfl
        have past := invariant.past_of_record member based
        rw [entered] at past
        cases past
      exact (setPacket_packets different).routine still
  | @entered irp file request _ pending =>
      refine leaves.keep same (fun place ended => ?_) fun _ _ _ _ => id
      rw [← cleanup_update system.files file place]
      exact ended
  | @refused irp box file wrapper dueTime _ _ _ =>
      exact
        leaves.keep same (fun _ => id) fun _ _ other _ =>
          (disarm_weaker system irp other wrapper).routine
  | @pending irp file _ =>
      have moved : (system.setCall irp .returned).LeavesSpent := leaves
      exact moved.release irp file
  | @returned irp file status _ _ =>
      have moved :
          ((system.complete irp
            (WduIoStatus.newWithStatus status)).setCall irp
            .returned).LeavesSpent := by
        refine leaves.keep same (fun _ => id) fun _ _ other _ still => ?_
        rw [← complete_armed system irp other
          (WduIoStatus.newWithStatus status)]
        exact still
      exact moved.release irp file
  | @signalled box event rest place record _ _ _ removal _ =>
      refine leaves.keep (fun other left => ?_) (fun _ => id) fun _ _ _ _ => id
      exact
        (Vec.swapRemove_perm removal).mem_iff.mpr
          (List.mem_cons_of_mem record left)
  | @removed box irp rest place record _ removal =>
      refine leaves.keep (fun other left => ?_) (fun _ => id) fun _ _ _ _ => id
      exact
        (Vec.swapRemove_perm removal).mem_iff.mpr
          (List.mem_cons_of_mem record left)
  | @cancelled irp rest place record _ _ removal _ =>
      refine leaves.keep (fun other left => ?_) (fun _ => id) fun _ _ _ _ => id
      exact
        (Vec.swapRemove_perm removal).mem_iff.mpr
          (List.mem_cons_of_mem record left)
  | @unset box irp wrapper place record _ _ _ _ =>
      exact
        leaves.keep same (fun _ => id) fun _ _ other _ =>
          (disarm_weaker system irp other wrapper).routine
  | @found box irp wrapper place record _ _ _ _ =>
      exact
        leaves.keep same (fun _ => id) fun _ _ other _ =>
          (disarm_weaker system irp other wrapper).routine
  | @completed box place irp _ =>
      refine leaves.keep same (fun _ => id) fun _ _ other _ still => ?_
      rw [← complete_armed system irp other WduIoStatus.successNoInfo]
      exact still
  | @dropped irp box _ =>
      refine leaves.keep same (fun _ => id) fun _ _ other _ still => ?_
      rw [← complete_armed system irp other
        (WduIoStatus.newWithStatus statusCancelled)]
      exact still
  | @marked irp _ _ =>
      exact
        leaves.keep same (fun _ => id) fun _ _ other _ =>
          @setPacket_armed system irp
            { system.packets irp with cancel := true } id other
  | @taken irp _ _ =>
      exact
        leaves.keep same (fun _ => id) fun _ _ other _ =>
          setPacket_armed (fun still => by cases still) other
  | @waiting file pending =>
      exact
        leaves.keep same (over_update fun ended => by cases ended)
          fun _ _ _ _ => id
  | @cleanedOne file irp rest completing =>
      refine leaves.keep same (over_update fun _ => ?_) ?_
      · show (system.files file).cleanup.isOver = true
        rw [completing]
        rfl
      · intro _ _ other _ still
        rw [← complete_armed system irp other
          (WduIoStatus.newWithStatus statusCancelled)]
        exact still
  | turnedAway _ _ | rejected _ | referenced _ | expired _ | freedBox _ _
  | missed _ _ | outside _ _ | unwrapped _ _ =>
      exact leaves.keep same (fun _ => id) fun _ _ _ _ => id

end

/-- In every state of every run, once the cleanup of a file object has had the
queue, no request of the file holds its remove lock, and every entry of it
that is left is that of a request whose cancel routine is disarmed, in the
packet and in the wrapper of the entry. -/
theorem leavesSpent_always (events : List Event) :
    Always step
      (fun system =>
        system.LeavesSpent ∧
          ∀ file, (system.files file).cleanup.isOver = true →
            ∀ irp, (system.calls irp).file ≠ some file)
      start events := by
  refine
    @always_of_preserved _ _ step
      (fun system =>
        system.Invariant ∧ system.Entrance ∧ system.LeavesSpent) _
      (fun system known =>
        ⟨known.2.2, fun _ ended => known.2.1.empty ended⟩)
      (fun system event next known stepped => ?_) _ ⟨invariant_start, ?_, ?_⟩
      events
  · obtain ⟨invariant, entrance, leaves⟩ := known
    exact
      ⟨invariant_step invariant stepped,
        entrance_step invariant.nodup entrance stepped,
        leavesSpent_step invariant entrance leaves stepped⟩
  · refine ⟨fun _ _ inside => ?_, fun _ ended => ?_⟩
    · cases inside
    · cases ended
  · intro _ ended
    cases ended

end System

end EventDriver

end WinDrvUtils

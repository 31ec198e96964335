import WinDrvUtils.Samples.EventClaims

/-!
# Pending requests

`device_control` marks a request pending when it queues its entry, and returns
`STATUS_PENDING`; the I/O manager then waits until somebody completes the
request. `pendingAgrees_iff` says exactly when what is returned agrees with
the mark, and `waitingQueued_iff` when a pending request stays in the queue
until somebody is about to complete it, so that none is lost.
-/

namespace WinDrvUtils

namespace EventDriver

open StepSystem

/-- The bit of `SL_PENDING_RETURNED`. -/
def Packet.isMarked (packet : Packet) : Bool :=
  packet.irp.control.toNat.testBit 0

theorem isMarked_markPending (irp : Irp) :
    irp.markPending.control.toNat.testBit 0 = true := by
  show (irp.control ||| slPendingReturned).toNat.testBit 0 = true
  rw [UInt8.toNat_or, Nat.testBit_or]
  exact Bool.or_true _

/-- A request that is marked is one that returns `STATUS_PENDING`, and one
that returned has been completed or is marked. -/
def Call.Agrees (marked : Bool) (completions : Nat) : Call → Prop
  | .returning _ status => marked = true ↔ status = statusPending
  | .returned => marked = true ∨ 1 ≤ completions
  | _ => marked = false

theorem Call.Agrees.mono
    {call : Call} {marked : Bool} {before after : Nat}
    (agrees : call.Agrees marked before) (more : before ≤ after) :
    call.Agrees marked after := by
  cases call with
  | returned => exact agrees.imp id more.trans'
  | idle | entered _ _ | armed _ _ _ | referenced _ _ _ | returning _ _ =>
      exact agrees

/-- What is wrong with a request is told with a status of its own. -/
theorem registerEvent_error
    {request : Request} {status : NTSTATUS}
    (invalid : request.registerEvent = .error status) :
    status = statusNotImplemented ∨ status = statusInvalidParameter := by
  unfold Request.registerEvent at invalid
  split at invalid
  · exact Or.inl (Except.error.inj invalid).symm
  · split at invalid
    · exact Or.inr (Except.error.inj invalid).symm
    · split at invalid
      · exact Or.inr (Except.error.inj invalid).symm
      · split at invalid
        · cases invalid
        · split at invalid
          · cases invalid
          · exact Or.inr (Except.error.inj invalid).symm

theorem registerEvent_error_ne
    {request : Request} {status : NTSTATUS}
    (invalid : request.registerEvent = .error status) :
    status ≠ statusPending := by
  rcases registerEvent_error invalid with rfl | rfl <;> decide

/-- A packet later on: marked as before, and completed no less. -/
structure Packet.Later (before after : Packet) : Prop where
  marked : after.isMarked = before.isMarked
  completions : before.irp.completions ≤ after.irp.completions

theorem Packet.Later.refl (packet : Packet) : packet.Later packet :=
  ⟨rfl, Nat.le_refl _⟩

theorem Packet.Weaker.later
    {before after : Packet} (weaker : before.Weaker after) :
    before.Later after := by
  refine ⟨?_, Nat.le_of_eq (congrArg Irp.completions weaker.irp).symm⟩
  unfold Packet.isMarked
  rw [weaker.irp]

namespace System

def PendingAgrees (system : System) : Prop :=
  ∀ irp,
    (system.calls irp).Agrees (system.packets irp).isMarked
      (system.completions irp)

/-- `ObReferenceObjectByHandle` does not answer `STATUS_PENDING`. -/
def AnswersPlainly (system : System) : Event → Prop
  | .handle irp answer =>
      ∀ file request register,
        system.calls irp = .entered file request →
          request.registerEvent = .ok register →
            register.notifyType ≠ irpBasedCode →
              answer.status ≠ statusPending
  | _ => True

section

variable {system next : System} {irp : Address}

/-! ## The packets after a step -/

theorem later_setPacket
    {moved : Address} {packet : Packet}
    (later : (system.packets moved).Later packet) (other : Address) :
    (system.packets other).Later
      ((system.setPacket moved packet).packets other) := by
  unfold setPacket
  dsimp only
  by_cases same : other = moved
  · subst same
    rw [Function.update_self]
    exact later
  · rw [Function.update_of_ne same]
    exact .refl _

theorem later_complete
    (system : System) (moved : Address) (ioStatus : WduIoStatus)
    (other : Address) :
    (system.packets other).Later
      ((system.complete moved ioStatus).packets other) := by
  have later :
      (system.packets moved).Later
        { system.packets moved with
          irp := (system.packets moved).irp.complete ioStatus } :=
    ⟨rfl, Nat.le_succ _⟩
  exact later_setPacket later other

theorem pushIrp_marked
    (system : System) (irp box file : Address) (wrapper : WduIrp)
    (dueTime : Int64) :
    ((system.pushIrp irp box file wrapper dueTime).packets
      irp).isMarked = true := by
  unfold pushIrp setCall setNotes setPacket Packet.isMarked
  dsimp only
  rw [Function.update_self]
  exact isMarked_markPending _

/-- Only the section of `irp_notification` marks a request. -/
theorem later_of_effect
    {event : Event} (effect : Effect system event next) (other : Address) :
    (system.packets other).Later (next.packets other) ∨
      ∃ box file record,
        event = .enqueue other box ∧
          next.calls other = .returning (some file) statusPending ∧
            (next.packets other).isMarked = true ∧
              record ∈ next.queue ∧ record.ty.irp = some other := by
  cases effect with
  | @pushedIrp irp box file wrapper dueTime middle free armed calm =>
      have weaker := middle_weaker calm other
      by_cases same : other = irp
      · subst same
        refine
          Or.inr
            ⟨box, file, ⟨box, file, .irpBased other wrapper⟩, rfl,
              setCall_self _ _ _, pushIrp_marked _ _ _ _ _ _, ?_, rfl⟩
        exact List.mem_append_right _ List.mem_cons_self
      · refine Or.inl ?_
        unfold pushIrp setCall setNotes setPacket
        dsimp only
        rw [Function.update_of_ne same]
        exact weaker.later
  | @armed irp answer file request dueTime entered =>
      refine Or.inl (later_setPacket ?_ other)
      exact ⟨rfl, Nat.le_refl _⟩
  | @refused irp box file wrapper dueTime _ _ _ =>
      exact Or.inl (disarm_weaker system irp other wrapper).later
  | @unset box irp wrapper place record _ _ _ _ =>
      exact Or.inl (disarm_weaker system irp other wrapper).later
  | @found box irp wrapper place record _ _ _ _ =>
      exact Or.inl (disarm_weaker system irp other wrapper).later
  | @pending irp file returning =>
      rw [(release_frame _ irp file).2.2]
      exact Or.inl (.refl _)
  | @returned irp file status returning _ =>
      rw [(release_frame _ irp file).2.2]
      exact Or.inl (later_complete _ irp _ other)
  | completed _ => exact Or.inl (later_complete _ _ _ other)
  | dropped _ => exact Or.inl (later_complete _ _ _ other)
  | cleanedOne _ => exact Or.inl (later_complete _ _ _ other)
  | marked _ _ =>
      refine Or.inl (later_setPacket ?_ other)
      exact ⟨rfl, Nat.le_refl _⟩
  | taken _ _ =>
      refine Or.inl (later_setPacket ?_ other)
      exact ⟨rfl, Nat.le_refl _⟩
  | cleaned cleaned => exact Or.inl (cleaned.weaker other).later
  | entered _ _ | turnedAway _ _ | rejected _ | referenced _
  | pushedEvent _ _ | expired _ | freedBox _ _ | missed _ _
  | signalled _ _ _ _ _ | removed _ _ | outside _ _ | unwrapped _ _
  | cancelled _ _ _ _ | waiting _ =>
      exact Or.inl (.refl _)

/-! ## What is returned -/

/-- A request comes to another call, and its packet agrees with that. -/
theorem pendingAgrees_of_call
    {moved : Address} {call : Call} (agrees : system.PendingAgrees)
    (calls : next.calls = Function.update system.calls moved call)
    (later :
      ∀ other, other ≠ moved →
        (system.packets other).Later (next.packets other))
    (moves :
      call.Agrees (next.packets moved).isMarked (next.completions moved)) :
    next.PendingAgrees := by
  intro other
  rw [calls]
  by_cases same : other = moved
  · subst same
    rw [Function.update_self]
    exact moves
  · rw [Function.update_of_ne same, (later other same).marked]
    exact (agrees other).mono (later other same).completions

theorem pendingAgrees_of_later
    (agrees : system.PendingAgrees) (calls : next.calls = system.calls)
    (later :
      ∀ other, (system.packets other).Later (next.packets other)) :
    next.PendingAgrees := by
  intro other
  rw [calls, (later other).marked]
  exact (agrees other).mono (later other).completions

/-- Before its section a request is not marked. -/
theorem PendingAgrees.unmarked
    (agrees : system.PendingAgrees) {call : Call}
    (calls : system.calls irp = call)
    (early : call.isPast = false) :
    (system.packets irp).isMarked = false := by
  have own := agrees irp
  rw [calls] at own
  cases call with
  | idle | entered _ _ | armed _ _ _ | referenced _ _ _ => exact own
  | returning _ _ | returned => cases early

theorem agrees_of_unmarked
    {call : Call} {status : NTSTATUS} {completions : Nat} {marked : Bool}
    {file : Option Address} (unmarked : marked = false)
    (answer : status ≠ statusPending)
    (returning : call = .returning file status) :
    call.Agrees marked completions := by
  rw [returning, unmarked]
  exact iff_of_false Bool.false_ne_true answer

theorem pendingAgrees_of_effect
    {event : Event} (agrees : system.PendingAgrees)
    (effect : Effect system event next)
    (notHandled : ∀ irp answer, event ≠ .handle irp answer) :
    next.PendingAgrees := by
  have later : ∀ other, (∀ box, event ≠ .enqueue other box) →
      (system.packets other).Later (next.packets other) := by
    intro other apart
    rcases later_of_effect effect other with later | pushed
    · exact later
    · obtain ⟨box, _, _, same, _⟩ := pushed
      exact absurd same (apart box)
  cases effect with
  | rejected _ | armed _ | referenced _ =>
      exact absurd rfl (notHandled _ _)
  | @entered irp file request idle _ =>
      exact
        pendingAgrees_of_call agrees rfl (fun other _ => later other nofun)
          (agrees.unmarked idle rfl)
  | @turnedAway irp file request idle _ =>
      exact
        pendingAgrees_of_call agrees rfl (fun other _ => later other nofun)
          (agrees_of_unmarked (agrees.unmarked idle rfl) (by decide) rfl)
  | @refused irp box file wrapper dueTime armed _ _ =>
      have weaker := (disarm_weaker system irp irp wrapper).later
      refine pendingAgrees_of_call agrees rfl (fun other apart => ?_) ?_
      · refine later other fun _ same => ?_
        cases same
        exact apart rfl
      · exact
          agrees_of_unmarked
            (weaker.marked.trans (agrees.unmarked armed rfl)) (by decide) rfl
  | @pushedIrp irp box file wrapper dueTime middle free armed calm =>
      have calls := pushIrp_calls calm box file dueTime
      refine pendingAgrees_of_call agrees calls (fun other apart => ?_) ?_
      · refine later other fun _ same => ?_
        cases same
        exact apart rfl
      · exact iff_of_true (pushIrp_marked middle irp box file _ _) rfl
  | @pushedEvent irp box file event dueTime free referenced =>
      refine pendingAgrees_of_call agrees rfl (fun _ _ => .refl _) ?_
      exact
        agrees_of_unmarked (agrees.unmarked referenced rfl) (by decide) rfl
  | @pending irp file returning =>
      have own := agrees irp
      rw [returning] at own
      refine
        pendingAgrees_of_call agrees (release_frame _ irp file).2.1
          (fun other _ => later other nofun) (Or.inl ?_)
      rw [(release_frame _ irp file).2.2]
      exact own.mpr rfl
  | @returned irp file status returning _ =>
      refine
        pendingAgrees_of_call agrees (release_frame _ irp file).2.1
          (fun other _ => later other nofun) (Or.inr ?_)
      unfold completions
      rw [(release_frame _ irp file).2.2]
      have completed :=
        complete_completions system irp (WduIoStatus.newWithStatus status)
      exact (Nat.le_add_left 1 _).trans_eq completed.symm
  | expired _ | freedBox _ _ | missed _ _ | unset _ _ _ _ | found _ _ _ _
  | signalled _ _ _ _ _ | completed _ | removed _ _ | outside _ _
  | marked _ _ | taken _ _ | unwrapped _ _ | cancelled _ _ _ _ | dropped _
  | waiting _ | cleanedOne _ =>
      exact pendingAgrees_of_later agrees rfl fun other => later other nofun
  | cleaned cleaned =>
      exact
        pendingAgrees_of_later agrees cleaned.calls fun other =>
          later other nofun

theorem answersPlainly_iff
    {file : Address} {request : Request} {answer : Answer}
    (entered : system.calls irp = .entered file request) :
    system.AnswersPlainly (.handle irp answer) ↔
      ∀ register, request.registerEvent = .ok register →
        register.notifyType ≠ irpBasedCode →
          answer.status ≠ statusPending := by
  constructor
  · intro plain register
    exact plain file request register entered
  · intro plain _ _ register also
    rw [entered] at also
    cases also
    exact plain register

theorem pendingAgrees_handle_iff
    {answer : Answer} (agrees : system.PendingAgrees)
    (stepped : system.handle irp answer = some next) :
    next.PendingAgrees ↔ system.AnswersPlainly (.handle irp answer) := by
  unfold handle at stepped
  split at stepped
  case h_1 file request entered =>
      have unmarked := agrees.unmarked entered rfl
      rw [answersPlainly_iff entered]
      split at stepped
      case h_1 status invalid =>
          cases stepped
          refine iff_of_true ?_ ?_
          · exact
              pendingAgrees_of_call agrees rfl (fun _ _ => .refl _)
                (agrees_of_unmarked unmarked
                  (registerEvent_error_ne invalid) rfl)
          · intro register valid
            rw [invalid] at valid
            cases valid
      case h_2 register valid =>
          split at stepped
          case isTrue based =>
              cases stepped
              refine iff_of_true ?_ ?_
              · refine pendingAgrees_of_call agrees rfl (fun other _ => ?_) ?_
                · refine later_setPacket ?_ other
                  exact ⟨rfl, Nat.le_refl _⟩
                · unfold setCall setPacket
                  dsimp only
                  rw [Function.update_self]
                  exact unmarked
              · intro other also notBased
                rw [valid] at also
                cases also
                exact absurd based notBased
          case isFalse notBased =>
              split at stepped
              case isTrue failed =>
                  cases stepped
                  constructor
                  · intro after _ _ _ pending
                    have own := after irp
                    rw [setCall_self, pending] at own
                    have marked : (system.packets irp).isMarked = true :=
                      own.mpr rfl
                    rw [unmarked] at marked
                    cases marked
                  · intro plain
                    exact
                      pendingAgrees_of_call agrees rfl (fun _ _ => .refl _)
                        (agrees_of_unmarked unmarked
                          (plain register valid notBased) rfl)
              case isFalse succeeded =>
                  cases stepped
                  refine iff_of_true ?_ ?_
                  · exact
                      pendingAgrees_of_call agrees rfl (fun _ _ => .refl _)
                        unmarked
                  · intro _ _ _ pending
                    rw [pending] at succeeded
                    exact succeeded (by decide)
  case h_2 => cases stepped

theorem pendingAgrees_step_iff
    {event : Event} (invariant : system.Invariant)
    (agrees : system.PendingAgrees)
    (stepped : system.step event = some next) :
    next.PendingAgrees ↔ system.AnswersPlainly event := by
  have effect := effect_of_step invariant.nodup stepped
  obtain ⟨_, handled⟩ := Option.ite_none_left_eq_some.mp stepped
  cases event with
  | handle irp answer => exact pendingAgrees_handle_iff agrees handled
  | dispatch _ _ _ | enqueue _ _ | ret _ | expire _ | locate _
  | completeFound _ | removeFound _ | kernelCancel _ | cancelRoutine _
  | completeCancelled _ | beginCleanup _ | cleanup _ | completeCleaned _ =>
      exact
        iff_of_true (pendingAgrees_of_effect agrees effect nofun) trivial

end

/-- For every run: a request returns `STATUS_PENDING` exactly when it has been
marked pending, and no request that is not marked is left uncompleted, if and
only if the kernel never refuses an event with the status `STATUS_PENDING`. -/
theorem pendingAgrees_iff (events : List Event) :
    Always step PendingAgrees start events ↔
      Guarded step AnswersPlainly start events := by
  refine
    @always_iff_guarded_of_step _ _ step Invariant _ _
      (fun _ _ _ invariant stepped => invariant_step invariant stepped)
      (fun _ _ _ invariant agrees stepped =>
        pendingAgrees_step_iff invariant agrees stepped) _ _
      invariant_start ?_
  intro irp
  show (0 : UInt8).toNat.testBit 0 = false
  decide

/-! ## What becomes of a pending request -/

/-- The request is marked pending, and nobody has completed it or is about
to. -/
structure Waiting (system : System) (irp : Address) : Prop where
  marked : (system.packets irp).isMarked = true
  fresh : system.completions irp = 0
  nobody : ∀ completer, ¬ system.Claims irp completer

def IsQueued (system : System) (irp : Address) : Prop :=
  ∃ record ∈ system.queue, record.ty.irp = some irp

def WaitingQueued (system : System) : Prop :=
  ∀ irp, system.Waiting irp → system.IsQueued irp

/-- The second section of a DPC does not take out the entry of a request that
waits. -/
def SparesWaiting (system : System) : Event → Prop
  | .removeFound box =>
      ∀ place own record irp, system.phases box = .removing place own →
        system.queue[place]? = some record → record.ty.irp = some irp →
          ¬ system.Waiting irp
  | _ => True

section

variable {system next : System} {irp : Address}

/-- What is updated has not the property, so what has it stays. -/
theorem kept_of_update
    {State : Type} {states : Address → State} {moved other : Address}
    {state : State} {property : State → Prop}
    (silent : ¬ property (states moved)) (holds : property (states other)) :
    property (Function.update states moved state other) := by
  have apart : other ≠ moved := by
    rintro rfl
    exact silent holds
  rwa [Function.update_of_ne apart]

/-- A call that moves on without it leaves what is said of another one. -/
theorem call_of_update
    (part : Call → Bool) {moved : Address} {before after : Call}
    (calls : system.calls moved = before) (silent : part before = false)
    (holds : part (system.calls irp) = true) :
    part (Function.update system.calls moved after irp) = true := by
  refine
    @kept_of_update Call system.calls moved irp after
      (fun call => part call = true) ?_ holds
  rw [calls, silent]
  exact Bool.false_ne_true

theorem completed_self
    (system : System) (irp : Address) (ioStatus : WduIoStatus) :
    (system.complete irp ioStatus).completions irp ≠ 0 := by
  rw [complete_completions]
  exact Nat.succ_ne_zero _

theorem request_of_effect
    {event : Event} (effect : Effect system event next)
    (claims : (system.calls irp).completes = true) :
    (next.calls irp).completes = true ∨ next.completions irp ≠ 0 := by
  have moves : ∀ {moved : Address} {before after : Call},
      system.calls moved = before → before.completes = false →
        (Function.update system.calls moved after irp).completes = true :=
    fun calls silent => call_of_update Call.completes calls silent claims
  cases effect with
  | entered idle _ => exact Or.inl (moves idle rfl)
  | turnedAway idle _ => exact Or.inl (moves idle rfl)
  | rejected entered => exact Or.inl (moves entered rfl)
  | armed entered => exact Or.inl (moves entered rfl)
  | referenced entered => exact Or.inl (moves entered rfl)
  | refused armed _ _ => exact Or.inl (moves armed rfl)
  | pushedEvent _ referenced => exact Or.inl (moves referenced rfl)
  | @pushedIrp irp box file wrapper dueTime middle _ armed calm =>
      rcases calm with ⟨_, rfl⟩ | ⟨_, rfl⟩
      · exact Or.inl (moves armed rfl)
      · exact Or.inl (moves armed rfl)
  | @pending irp file returning =>
      rw [(release_frame _ irp file).2.1]
      exact Or.inl (moves returning rfl)
  | @returned moved file status returning _ =>
      unfold completions
      rw [(release_frame _ moved file).2.1, (release_frame _ moved file).2.2]
      by_cases same : irp = moved
      · subst same
        exact Or.inr (completed_self system irp _)
      · refine Or.inl ?_
        unfold setCall
        dsimp only
        rw [Function.update_of_ne same]
        exact claims
  | cleaned cleaned =>
      rw [cleaned.calls]
      exact Or.inl claims
  | expired _ | freedBox _ _ | missed _ _ | unset _ _ _ _ | found _ _ _ _
  | signalled _ _ _ _ _ | completed _ | removed _ _ | outside _ _
  | marked _ _ | taken _ _ | unwrapped _ _ | cancelled _ _ _ _ | dropped _
  | waiting _ | cleanedOne _ =>
      exact Or.inl claims

theorem cancellation_of_effect
    {event : Event} (effect : Effect system event next)
    (claims : system.cancellations irp ≠ .idle) :
    next.cancellations irp ≠ .idle ∨ next.completions irp ≠ 0 := by
  cases effect with
  | @taken moved idle _ =>
      refine Or.inl ?_
      exact
        @kept_of_update _ system.cancellations moved irp .taken
          (fun cancellation => cancellation ≠ .idle)
          (not_not.mpr idle) claims
  | @cancelled moved rest place record taken _ _ _ =>
      refine Or.inl ?_
      unfold setCancellation setNotes
      dsimp only
      rw [(Notifications.cancelTimer_rest _ record.box).2]
      by_cases same : irp = moved
      · subst same
        rw [Function.update_self]
        exact nofun
      · rw [Function.update_of_ne same]
        exact claims
  | @dropped moved box completing =>
      by_cases same : irp = moved
      · subst same
        exact Or.inr (completed_self system irp _)
      · refine Or.inl ?_
        unfold setCancellation
        dsimp only
        rw [Function.update_of_ne same]
        exact claims
  | cleaned cleaned =>
      rw [congrArg Notifications.cancellations cleaned.notes]
      exact Or.inl claims
  | @pushedIrp irp box file wrapper dueTime middle _ _ calm =>
      rcases calm with ⟨_, rfl⟩ | ⟨_, rfl⟩
      · exact Or.inl claims
      · exact Or.inl claims
  | pending _ | returned _ _ =>
      rw [release_notes]
      exact Or.inl claims
  | entered _ _ | turnedAway _ _ | rejected _ | armed _ | referenced _
  | refused _ _ _ | pushedEvent _ _ | expired _ | freedBox _ _ | missed _ _
  | unset _ _ _ _ | found _ _ _ _ | signalled _ _ _ _ _ | completed _
  | removed _ _ | outside _ _ | marked _ _ | unwrapped _ _ | waiting _
  | cleanedOne _ =>
      exact Or.inl claims

theorem dpc_of_effect
    {event : Event} (effect : Effect system event next) {box : Address}
    (claims : (system.phases box).completes = some irp) :
    (next.phases box).completes = some irp ∨ next.completions irp ≠ 0 := by
  have moves : ∀ {moved : Address} {before after : Phase},
      system.phases moved = before → before.completes = none →
        (Function.update system.phases moved after box).completes =
          some irp := by
    intro moved before after phases silent
    refine
      @kept_of_update Phase system.phases moved box after
        (fun phase => phase.completes = some irp) ?_ claims
    rw [phases, silent]
    exact nofun
  have pushes : ∀ {moved : Address} {after : Phase},
      system.toNotifications.isFree moved = true →
        (Function.update system.phases moved after box).completes =
          some irp := by
    intro moved after free
    rcases (isFree_iff.mp free).1 with idle | finished
    · exact moves idle rfl
    · exact moves finished rfl
  cases effect with
  | pushedEvent free _ => exact Or.inl (pushes free)
  | @pushedIrp irp box file wrapper dueTime middle free _ calm =>
      rcases calm with ⟨_, rfl⟩ | ⟨_, rfl⟩
      · exact Or.inl (pushes free)
      · exact Or.inl (pushes free)
  | expired set => exact Or.inl (moves set rfl)
  | missed queued _ => exact Or.inl (moves queued rfl)
  | unset queued _ _ _ => exact Or.inl (moves queued rfl)
  | found queued _ _ _ => exact Or.inl (moves queued rfl)
  | signalled queued _ _ _ _ => exact Or.inl (moves queued rfl)
  | removed removing _ => exact Or.inl (moves removing rfl)
  | @completed moved place own completing =>
      by_cases same : box = moved
      · subst same
        rw [completing] at claims
        cases claims
        exact Or.inr (completed_self system irp _)
      · refine Or.inl ?_
        show
          (Function.update system.phases moved (.removing place own)
            box).completes = some irp
        rw [Function.update_of_ne same]
        exact claims
  | @cancelled moved rest place record _ _ _ _ =>
      refine Or.inl ?_
      show
        ((system.toNotifications.cancelTimer record.box).2.phases
          box).completes = some irp
      unfold Notifications.cancelTimer
      split
      case h_1 ty dueTime set => exact moves set rfl
      case h_2 => exact claims
  | @cleaned file next cleaned =>
      refine Or.inl ?_
      rw [congrArg Notifications.phases cleaned.notes,
        part_afterCleanup Phase.completes (fun _ _ => rfl)]
      exact claims
  | pending _ | returned _ _ =>
      rw [release_notes]
      exact Or.inl claims
  | entered _ _ | turnedAway _ _ | rejected _ | armed _ | referenced _
  | refused _ _ _ | freedBox _ _ | outside _ _ | marked _ _ | taken _ _
  | unwrapped _ _ | dropped _ | waiting _ | cleanedOne _ =>
      exact Or.inl claims

theorem cleanup_of_effect
    {event : Event} (effect : Effect system event next) {file : Address}
    (claims : irp ∈ (system.files file).cleanup.irps) :
    irp ∈ (next.files file).cleanup.irps ∨ next.completions irp ≠ 0 := by
  have moves : ∀ {moved : Address} {before : Cleanup} {after : FileState},
      (system.files moved).cleanup = before → before.irps = [] →
        irp ∈ (Function.update system.files moved after file).cleanup.irps := by
    intro moved before after cleanup silent
    refine
      @kept_of_update FileState system.files moved file after
        (fun state => irp ∈ state.cleanup.irps) ?_ claims
    rw [cleanup, silent]
    exact List.not_mem_nil
  cases effect with
  | entered _ pending => exact Or.inl (moves pending rfl)
  | waiting pending => exact Or.inl (moves pending rfl)
  | cleaned cleaned =>
      rw [cleaned.files]
      exact Or.inl (moves cleaned.waiting rfl)
  | @cleanedOne moved own rest completing =>
      by_cases same : file = moved
      · subst same
        rw [completing] at claims
        rcases List.mem_cons.mp claims with rfl | later
        · exact Or.inr (completed_self system irp _)
        · refine Or.inl ?_
          unfold setFile
          dsimp only
          rw [Function.update_self]
          exact later
      · refine Or.inl ?_
        unfold setFile
        dsimp only
        rw [Function.update_of_ne same]
        exact claims
  | @pushedIrp irp box file wrapper dueTime middle free _ calm =>
      rcases calm with ⟨_, rfl⟩ | ⟨_, rfl⟩
      · exact Or.inl claims
      · exact Or.inl claims
  | pending _ | returned _ _ =>
      rw [release_cleanup]
      exact Or.inl claims
  | turnedAway _ _ | rejected _ | armed _ | referenced _ | refused _ _ _
  | pushedEvent _ _ | expired _ | freedBox _ _ | missed _ _
  | unset _ _ _ _ | found _ _ _ _ | signalled _ _ _ _ _ | completed _
  | removed _ _ | outside _ _ | marked _ _ | taken _ _ | unwrapped _ _
  | cancelled _ _ _ _ | dropped _ =>
      exact Or.inl claims

/-- Who is about to complete a request stays so until it is completed. -/
theorem claims_of_effect
    {event : Event} (effect : Effect system event next)
    {completer : Completer} (claims : system.Claims irp completer) :
    next.Claims irp completer ∨ next.completions irp ≠ 0 := by
  cases completer with
  | request => exact request_of_effect effect claims
  | cancelRoutine => exact cancellation_of_effect effect claims
  | dpc box => exact dpc_of_effect effect claims
  | cleanup file => exact cleanup_of_effect effect claims

/-- A request that waits has waited before, or is marked and queued in this
step. -/
theorem waiting_of_effect
    {event : Event} (effect : Effect system event next)
    (waiting : next.Waiting irp) :
    system.Waiting irp ∨ next.IsQueued irp := by
  rcases later_of_effect effect irp with later | pushed
  · refine Or.inl ⟨?_, ?_, fun completer claims => ?_⟩
    · rw [← later.marked]
      exact waiting.marked
    · exact Nat.le_zero.mp (later.completions.trans_eq waiting.fresh)
    · rcases claims_of_effect effect claims with still | completed
      · exact waiting.nobody completer still
      · exact completed waiting.fresh
  · obtain ⟨_, _, record, _, _, _, queued, based⟩ := pushed
    exact Or.inr ⟨record, queued, based⟩

/-! ## The entries of pending requests -/

/-- An entry that is not taken out stays. -/
theorem isQueued_removal
    {place : Nat} {removed : NotifyRecord} {rest : List NotifyRecord}
    (queued : system.IsQueued irp)
    (removal : Vec.swapRemove system.queue place = some (removed, rest)) :
    (∃ record ∈ rest, record.ty.irp = some irp) ∨
      removed.ty.irp = some irp := by
  obtain ⟨record, member, based⟩ := queued
  rcases List.mem_cons.mp ((Vec.swapRemove_perm removal).mem_iff.mp member)
    with rfl | left
  · exact Or.inr based
  · exact Or.inl ⟨record, left, based⟩

theorem isQueued_of_append
    {records : List NotifyRecord} (queued : system.IsQueued irp)
    (queue : next.queue = system.queue ++ records) :
    next.IsQueued irp := by
  obtain ⟨record, member, based⟩ := queued
  exact ⟨record, queue ▸ List.mem_append_left _ member, based⟩

/-- Cleanup completes the requests whose entries it drops. -/
theorem isQueued_cleaned
    {file : Address} (queued : system.IsQueued irp)
    (cleaned : system.Cleaned file next) :
    next.IsQueued irp ∨ next.Claims irp (.cleanup file) := by
  obtain ⟨record, member, based⟩ := queued
  cases kept : record.kept file system.phases with
  | some left =>
      refine Or.inl ⟨left, ?_, (same_of_kept kept).irp.symm.trans based⟩
      rw [congrArg Notifications.queue cleaned.notes]
      exact List.mem_filterMap.mpr ⟨record, member, kept⟩
  | none =>
      have dropped : record.cleaned file system.phases = some irp := by
        unfold NotifyRecord.kept at kept
        unfold NotifyRecord.cleaned
        split at kept
        · next hit =>
          rw [if_pos hit]
          cases ty : record.ty with
          | irpBased own wrapper =>
              rw [ty] at based kept
              dsimp only at kept ⊢
              split at kept
              · cases kept
              · next uncached =>
                rw [if_neg uncached]
                exact based
          | eventBased event =>
              rw [ty] at based
              cases based
        · cases kept
      refine Or.inr ?_
      show irp ∈ (next.files file).cleanup.irps
      rw [cleaned.files, Function.update_self]
      exact List.mem_filterMap.mpr ⟨record, member, dropped⟩

theorem isQueued_of_effect
    {event : Event} (effect : Effect system event next)
    (spares : system.SparesWaiting event) (waiting : next.Waiting irp)
    (before : system.Waiting irp) (queued : system.IsQueued irp) :
    next.IsQueued irp := by
  cases effect with
  | @removed box own rest place record removing removal =>
      rcases isQueued_removal queued removal with still | based
      · exact still
      · have here := Vec.getElem?_of_swapRemove removal
        exact
          absurd before (spares place own record irp removing here based)
  | @signalled box event rest place record _ _ _ removal same =>
      rcases isQueued_removal queued removal with still | based
      · exact still
      · cases ty : record.ty with
        | irpBased own wrapper =>
            rw [ty] at same
            cases same
        | eventBased other =>
            rw [ty] at based
            cases based
  | @cancelled own rest place record taken found removal same =>
      rcases isQueued_removal queued removal with still | based
      · exact still
      · rw [same] at based
        cases based
        refine absurd ?_ (waiting.nobody .cancelRoutine)
        unfold Claims setCancellation
        dsimp only
        rw [Function.update_self]
        exact nofun
  | cleaned cleaned =>
      rcases isQueued_cleaned queued cleaned with still | claims
      · exact still
      · exact absurd claims (waiting.nobody _)
  | pushedEvent _ _ => exact isQueued_of_append queued rfl
  | @pushedIrp irp box file wrapper dueTime middle _ _ calm =>
      rcases calm with ⟨_, rfl⟩ | ⟨_, rfl⟩
      · exact isQueued_of_append queued rfl
      · exact isQueued_of_append queued rfl
  | pending _ | returned _ _ =>
      unfold IsQueued
      rw [release_notes]
      exact queued
  | entered _ _ | turnedAway _ _ | rejected _ | armed _ | referenced _
  | refused _ _ _ | expired _ | freedBox _ _ | missed _ _ | unset _ _ _ _
  | found _ _ _ _ | completed _ | outside _ _ | marked _ _ | taken _ _
  | unwrapped _ _ | dropped _ | waiting _ | cleanedOne _ =>
      exact queued

/-- The DPC takes out the only entry of a request that waits. -/
theorem sparesWaiting_of_waitingQueued
    {event : Event} (invariant : system.Invariant)
    (effect : Effect system event next) (after : next.WaitingQueued) :
    system.SparesWaiting event := by
  cases event with
  | removeFound box =>
      intro place own record irp removing here based waiting
      cases effect with
      | @removed _ other rest otherPlace removed otherRemoving removal =>
          rw [removing] at otherRemoving
          cases otherRemoving
          have there := Vec.getElem?_of_swapRemove removal
          rw [here] at there
          cases there
          have still :
              (system.setNotes
                { system.toNotifications.setPhase box .finished with
                  queue := rest }).Waiting irp := by
            refine ⟨waiting.marked, waiting.fresh, fun completer claims => ?_⟩
            cases completer with
            | request => exact waiting.nobody .request claims
            | cancelRoutine => exact waiting.nobody .cancelRoutine claims
            | cleanup file => exact waiting.nobody (.cleanup file) claims
            | dpc other =>
                have silent : Phase.finished.completes ≠ some irp := nofun
                exact
                  waiting.nobody (.dpc other)
                    (completes_update silent other claims)
          obtain ⟨left, member, also⟩ := after irp still
          have fresh := (nodup_removal invariant.nodup removal).1
          have earlier : left ∈ system.queue :=
            (Vec.swapRemove_perm removal).mem_iff.mpr
              (List.mem_cons_of_mem _ member)
          have same :=
            invariant.one left earlier record (List.mem_of_getElem? here) irp
              also based
          exact fresh (same ▸ List.mem_map_of_mem member)
      | @outside _ otherPlace other otherRemoving beyond =>
          exact
            absurd here
              (nothing_of_outside otherRemoving beyond removing record)
  | dispatch _ _ _ | handle _ _ | enqueue _ _ | ret _ | expire _ | locate _
  | completeFound _ | kernelCancel _ | cancelRoutine _ | completeCancelled _
  | beginCleanup _ | cleanup _ | completeCleaned _ => trivial

theorem waitingQueued_step_iff
    {event : Event} (invariant : system.Invariant)
    (queued : system.WaitingQueued)
    (stepped : system.step event = some next) :
    next.WaitingQueued ↔ system.SparesWaiting event := by
  have effect := effect_of_step invariant.nodup stepped
  constructor
  · exact sparesWaiting_of_waitingQueued invariant effect
  · intro spares irp waiting
    rcases waiting_of_effect effect waiting with before | pushed
    · exact isQueued_of_effect effect spares waiting before (queued irp before)
    · exact pushed

end

/-- For every run: a request that is marked pending is in the queue until it
has been completed or somebody is about to complete it, so none is lost, if
and only if no DPC takes out the entry of such a request by the place that it
remembers. -/
theorem waitingQueued_iff (events : List Event) :
    Always step WaitingQueued start events ↔
      Guarded step SparesWaiting start events := by
  refine
    @always_iff_guarded_of_step _ _ step Invariant _ _
      (fun _ _ _ invariant stepped => invariant_step invariant stepped)
      (fun _ _ _ invariant queued stepped =>
        waitingQueued_step_iff invariant queued stepped) _ _
      invariant_start ?_
  intro irp waiting
  have marked : (0 : UInt8).toNat.testBit 0 = true := waiting.marked
  exact absurd marked (by decide)

end System

end EventDriver

end WinDrvUtils

import WinDrvUtils.Samples.EventCompletions
import WinDrvUtils.Samples.EventPending

/-!
# The life of a request

A request, for the one who sent it, is first unknown to the driver, then
served, then perhaps pending, and at last completed. The event driver takes
every request along this line: each of its steps leaves the life of a request
as it is, or is one step of it.
-/

namespace WinDrvUtils

namespace EventDriver

open StepSystem

/-! ## The line -/

/-- A request is `served` once `device_control` was called with it, also when
that turns it away. -/
inductive Life where
  | absent
  | served
  | pending
  | completed
  deriving DecidableEq, Repr

/-- The step that an event may be in the life of a request. Only
`device_control` completes a request that has not become pending. -/
inductive Life.Step (irp : Address) : Event → Life → Life → Prop
  | arrives {file request} :
      Step irp (.dispatch irp file request) .absent .served
  | pends {box} :
      Step irp (.enqueue irp box) .served .pending
  | answered :
      Step irp (.ret irp) .served .completed
  | expired {box} :
      Step irp (.completeFound box) .pending .completed
  | cancelled :
      Step irp (.completeCancelled irp) .pending .completed
  | cleaned {file} :
      Step irp (.completeCleaned file) .pending .completed

/-- `device_control` has marked the request, or is done with it. -/
def Call.isPending : Call → Bool
  | .returning _ status => status == statusPending
  | .returned => true
  | _ => false

namespace System

def life (system : System) (irp : Address) : Life :=
  if system.completions irp ≠ 0 then .completed
  else if (system.packets irp).isMarked then .pending
  else if system.calls irp = .idle then .absent
  else .served

/-- A step leaves the life of every request as it is, or takes it one step
further. -/
def Lives (system : System) (event : Event) (next : System) : Prop :=
  ∀ irp,
    next.life irp = system.life irp ∨
      Life.Step irp event (system.life irp) (next.life irp)

/-- Whoever has to do with a request from its entry on finds it marked, and
`device_control` does not complete it. -/
structure MarkedFirst (system : System) (irp : Address) : Prop where
  call :
    (system.packets irp).isMarked = true →
      (system.calls irp).isPending = true
  entry :
    ∀ record ∈ system.queue, record.ty.irp = some irp →
      (system.packets irp).isMarked = true
  timer :
    ∀ box, (system.phases box).irp = some irp →
      (system.packets irp).isMarked = true
  routine :
    ∀ box, system.cancellations irp = .completing box →
      (system.packets irp).isMarked = true
  cleanup :
    ∀ file, irp ∈ (system.files file).cleanup.irps →
      (system.packets irp).isMarked = true

/-- The section of an event completes the request. -/
def Completes (system : System) (irp : Address) : Event → Prop
  | .ret other => other = irp ∧ (system.calls irp).completes = true
  | .completeFound box => (system.phases box).completes = some irp
  | .completeCancelled other =>
      other = irp ∧ ∃ box, system.cancellations irp = .completing box
  | .completeCleaned file =>
      ∃ rest, (system.files file).cleanup = .completing (irp :: rest)
  | _ => False

section

variable {system next : System} {irp : Address}

theorem life_completed (completed : system.completions irp ≠ 0) :
    system.life irp = .completed :=
  if_pos completed

theorem life_pending
    (fresh : system.completions irp = 0)
    (marked : (system.packets irp).isMarked = true) :
    system.life irp = .pending := by
  unfold life
  rw [if_neg (not_not_intro fresh), if_pos marked]

theorem life_absent
    (fresh : system.completions irp = 0)
    (unmarked : (system.packets irp).isMarked = false)
    (idle : system.calls irp = .idle) :
    system.life irp = .absent := by
  unfold life
  rw [if_neg (not_not_intro fresh), unmarked, if_neg Bool.false_ne_true,
    if_pos idle]

theorem life_served
    (fresh : system.completions irp = 0)
    (unmarked : (system.packets irp).isMarked = false)
    (called : system.calls irp ≠ .idle) :
    system.life irp = .served := by
  unfold life
  rw [if_neg (not_not_intro fresh), unmarked, if_neg Bool.false_ne_true,
    if_neg called]

/-! ## The calls after a step -/

/-- A call goes on, and does not become idle. -/
theorem called_update
    {moved : Address} {before after : Call}
    (calls : system.calls moved = before) (going : before ≠ .idle)
    (goes : after ≠ .idle) (irp : Address) :
    Function.update system.calls moved after irp = .idle ↔
      system.calls irp = .idle := by
  by_cases same : irp = moved
  · subst same
    rw [Function.update_self, calls]
    exact iff_of_false goes going
  · rw [Function.update_of_ne same]

/-- A request that arrives is not known before. -/
theorem arrives_update
    {moved file : Address} {request : Request} {after : Call}
    (idle : system.calls moved = .idle) (goes : after ≠ .idle)
    (irp : Address) :
    (Function.update system.calls moved after irp = .idle ↔
        system.calls irp = .idle) ∨
      ∃ file' request',
        Event.dispatch moved file request = .dispatch irp file' request' ∧
          system.calls irp = .idle ∧
            Function.update system.calls moved after irp ≠ .idle := by
  by_cases same : irp = moved
  · subst same
    refine Or.inr ⟨file, request, rfl, idle, ?_⟩
    rw [Function.update_self]
    exact goes
  · refine Or.inl ?_
    rw [Function.update_of_ne same]

theorem calls_of_effect
    {event : Event} (effect : Effect system event next) (irp : Address) :
    (next.calls irp = .idle ↔ system.calls irp = .idle) ∨
      ∃ file request,
        event = .dispatch irp file request ∧ system.calls irp = .idle ∧
          next.calls irp ≠ .idle := by
  cases effect with
  | entered idle _ => exact arrives_update idle (by nofun) irp
  | turnedAway idle _ => exact arrives_update idle (by nofun) irp
  | rejected entered =>
      exact Or.inl (called_update entered (by nofun) (by nofun) irp)
  | armed entered =>
      exact Or.inl (called_update entered (by nofun) (by nofun) irp)
  | referenced entered =>
      exact Or.inl (called_update entered (by nofun) (by nofun) irp)
  | refused armed _ _ =>
      exact Or.inl (called_update armed (by nofun) (by nofun) irp)
  | pushedIrp _ armed calm =>
      rw [pushIrp_calls calm]
      exact Or.inl (called_update armed (by nofun) (by nofun) irp)
  | pushedEvent _ referenced =>
      exact Or.inl (called_update referenced (by nofun) (by nofun) irp)
  | pending returning =>
      rw [release_calls]
      exact Or.inl (called_update returning (by nofun) (by nofun) irp)
  | returned returning _ =>
      rw [release_calls]
      exact Or.inl (called_update returning (by nofun) (by nofun) irp)
  | cleaned cleaned =>
      rw [cleaned.calls]
      exact Or.inl Iff.rfl
  | expired _ | freedBox _ _ | missed _ _ | unset _ _ _ _ | found _ _ _ _
  | signalled _ _ _ _ _ | completed _ | removed _ _ | outside _ _
  | marked _ _ | taken _ _ | unwrapped _ _ | cancelled _ _ _ _ | dropped _
  | waiting _ | cleanedOne _ =>
      exact Or.inl Iff.rfl

/-- A call that is pending stays so. -/
theorem pending_of_effect
    {event : Event} (effect : Effect system event next)
    (pending : (system.calls irp).isPending = true) :
    (next.calls irp).isPending = true := by
  have moves : ∀ {moved : Address} {before after : Call},
      system.calls moved = before → before.isPending = false →
        (Function.update system.calls moved after irp).isPending = true :=
    fun calls silent => call_of_update Call.isPending calls silent pending
  have returns : ∀ moved : Address,
      (Function.update system.calls moved .returned irp).isPending = true := by
    intro moved
    by_cases same : irp = moved
    · subst same
      rw [Function.update_self]
      rfl
    · rw [Function.update_of_ne same]
      exact pending
  cases effect with
  | entered idle _ => exact moves idle rfl
  | turnedAway idle _ => exact moves idle rfl
  | rejected entered => exact moves entered rfl
  | armed entered => exact moves entered rfl
  | referenced entered => exact moves entered rfl
  | refused armed _ _ => exact moves armed rfl
  | pushedEvent _ referenced => exact moves referenced rfl
  | pushedIrp _ armed calm =>
      rw [pushIrp_calls calm]
      exact moves armed rfl
  | pending _ =>
      rw [release_calls]
      exact returns _
  | returned _ _ =>
      rw [release_calls]
      exact returns _
  | cleaned cleaned =>
      rw [cleaned.calls]
      exact pending
  | expired _ | freedBox _ _ | missed _ _ | unset _ _ _ _ | found _ _ _ _
  | signalled _ _ _ _ _ | completed _ | removed _ _ | outside _ _
  | marked _ _ | taken _ _ | unwrapped _ _ | cancelled _ _ _ _ | dropped _
  | waiting _ | cleanedOne _ =>
      exact pending

/-! ## The mark after a step -/

theorem marked_of_effect
    {event : Event} (effect : Effect system event next)
    (marked : (system.packets irp).isMarked = true) :
    (next.packets irp).isMarked = true := by
  rcases later_of_effect effect irp with later | pushed
  · exact later.marked.trans marked
  · obtain ⟨_, _, _, _, _, marked, _⟩ := pushed
    exact marked

/-- The request whose entry is queued in this step is marked in it. -/
theorem marked_of_push
    {event : Event} {box file : Address} {ty : NotifyType} {dueTime : Int64}
    (effect : Effect system event next)
    (pushes : system.Pushes event box file ty dueTime next)
    (based : ty.irp = some irp) : (next.packets irp).isMarked = true := by
  have own := pushes.own irp based
  have queue : next.queue = system.queue ++ [⟨box, file, ty⟩] :=
    congrArg Notifications.queue pushes.notes
  subst own
  cases effect with
  | refused _ _ _ =>
      have longer := congrArg List.length queue
      rw [List.length_append] at longer
      exact absurd longer (Nat.ne_of_lt (Nat.lt_succ_self _))
  | pushedIrp _ _ _ => exact pushIrp_marked _ _ _ _ _ _
  | pushedEvent _ _ =>
      cases List.append_cancel_left queue
      cases based

/-- A cancel routine goes on with the entry that it has found. -/
theorem routine_of_effect
    {event : Event} (effect : Effect system event next) {box : Address}
    (completing : next.cancellations irp = .completing box) :
    system.cancellations irp = .completing box ∨
      ∃ record ∈ system.queue, record.ty.irp = some irp := by
  cases effect with
  | @taken moved _ _ =>
      by_cases same : irp = moved
      · subst same
        cases (Function.update_self irp _ _).symm.trans completing
      · exact Or.inl ((Function.update_of_ne same _ _).symm.trans completing)
  | @cancelled moved rest place record _ _ removal based =>
      by_cases same : irp = moved
      · subst same
        exact
          Or.inr
            ⟨record,
              List.mem_of_getElem? (Vec.getElem?_of_swapRemove removal),
              based⟩
      · refine Or.inl ?_
        rw [← (system.toNotifications.cancelTimer_rest record.box).2]
        exact (Function.update_of_ne same _ _).symm.trans completing
  | @dropped moved other _ =>
      by_cases same : irp = moved
      · subst same
        cases (Function.update_self irp _ _).symm.trans completing
      · exact Or.inl ((Function.update_of_ne same _ _).symm.trans completing)
  | cleaned cleaned =>
      rw [congrArg Notifications.cancellations cleaned.notes] at completing
      exact Or.inl completing
  | pushedIrp _ _ calm =>
      rw [congrArg Notifications.cancellations
        (pushIrp_notes calm _ _ _)] at completing
      exact Or.inl completing
  | pending _ | returned _ _ =>
      rw [release_notes] at completing
      exact Or.inl completing
  | entered _ _ | turnedAway _ _ | rejected _ | armed _ | referenced _
  | refused _ _ _ | pushedEvent _ _ | expired _ | freedBox _ _ | missed _ _
  | unset _ _ _ _ | found _ _ _ _ | signalled _ _ _ _ _ | completed _
  | removed _ _ | outside _ _ | marked _ _ | unwrapped _ _ | waiting _
  | cleanedOne _ =>
      exact Or.inl completing

/-- Cleanup collects the requests whose entries it drops. -/
theorem listed_of_effect
    {event : Event} (effect : Effect system event next) {file : Address}
    (listed : irp ∈ (next.files file).cleanup.irps) :
    irp ∈ (system.files file).cleanup.irps ∨
      ∃ record ∈ system.queue, record.ty.irp = some irp := by
  have moves : ∀ {moved : Address} {after : FileState},
      irp ∈ (Function.update system.files moved after file).cleanup.irps →
        (irp ∈ after.cleanup.irps →
          irp ∈ (system.files moved).cleanup.irps) →
          irp ∈ (system.files file).cleanup.irps := by
    intro moved after listed back
    by_cases same : file = moved
    · subst same
      rw [Function.update_self] at listed
      exact back listed
    · rwa [Function.update_of_ne same] at listed
  cases effect with
  | entered _ _ => exact Or.inl (moves listed id)
  | waiting _ => exact Or.inl (moves listed (absurd · List.not_mem_nil))
  | @cleanedOne moved own rest completing =>
      refine Or.inl (moves listed fun later => ?_)
      rw [completing]
      exact List.mem_cons_of_mem _ later
  | @cleaned moved next cleaned =>
      rw [cleaned.files] at listed
      by_cases same : file = moved
      · subst same
        rw [Function.update_self] at listed
        obtain ⟨record, member, taken⟩ := List.mem_filterMap.mp listed
        obtain ⟨_, _, wrapper, based⟩ := of_cleaned taken
        exact Or.inr ⟨record, member, congrArg NotifyType.irp based⟩
      · rw [Function.update_of_ne same] at listed
        exact Or.inl listed
  | pushedIrp _ _ calm =>
      have files := middle_files calm
      refine Or.inl ?_
      rw [← files]
      exact listed
  | pending _ | returned _ _ =>
      rw [release_cleanup] at listed
      exact Or.inl listed
  | turnedAway _ _ | rejected _ | armed _ | referenced _ | refused _ _ _
  | pushedEvent _ _ | expired _ | freedBox _ _ | missed _ _
  | unset _ _ _ _ | found _ _ _ _ | signalled _ _ _ _ _ | completed _
  | removed _ _ | outside _ _ | marked _ _ | taken _ _ | unwrapped _ _
  | cancelled _ _ _ _ | dropped _ =>
      exact Or.inl listed

theorem markedFirst_step
    {event : Event} (invariant : system.Invariant)
    (first : system.MarkedFirst irp)
    (stepped : system.step event = some next) : next.MarkedFirst irp := by
  have effect := effect_of_step invariant.nodup stepped
  have changes := changes_of_step invariant stepped
  have queued : (∃ record ∈ system.queue, record.ty.irp = some irp) →
      (next.packets irp).isMarked = true := by
    rintro ⟨record, member, based⟩
    exact marked_of_effect effect (first.entry record member based)
  refine ⟨fun marked => ?_, fun record member based => ?_,
    fun box timer => ?_, fun box completing => ?_, fun file listed => ?_⟩
  · rcases later_of_effect effect irp with later | pushed
    · rw [later.marked] at marked
      exact pending_of_effect effect (first.call marked)
    · obtain ⟨_, _, _, _, calls, _⟩ := pushed
      rw [calls]
      exact beq_self_eq_true _
  · rcases changes with shrinks | ⟨box, file, ty, dueTime, pushes⟩
    · obtain ⟨before, earlier, same⟩ := shrinks.records record member
      exact queued ⟨before, earlier, same.irp.trans based⟩
    · rcases pushes.records record member with earlier | rfl
      · exact queued ⟨record, earlier, based⟩
      · exact marked_of_push effect pushes based
  · rcases changes with shrinks | ⟨place, file, ty, dueTime, pushes⟩
    · exact
        marked_of_effect effect
          (first.timer box (shrinks.phases box _ timer))
    · rcases pushes.timers box irp timer with ⟨_, based⟩ | earlier
      · exact marked_of_push effect pushes based
      · exact marked_of_effect effect (first.timer box earlier)
  · rcases routine_of_effect effect completing with before | entry
    · exact marked_of_effect effect (first.routine box before)
    · exact queued entry
  · rcases listed_of_effect effect listed with before | entry
    · exact marked_of_effect effect (first.cleanup file before)
    · exact queued entry

/-! ## Who completes a request -/

theorem completions_weaker
    (weaker : (system.packets irp).Weaker (next.packets irp)) :
    next.completions irp = system.completions irp :=
  congrArg Irp.completions weaker.irp

theorem completions_setPacket
    {moved : Address} {packet : Packet}
    (same : packet.irp.completions = system.completions moved)
    (irp : Address) :
    (system.setPacket moved packet).completions irp =
      system.completions irp := by
  unfold completions setPacket
  dsimp only
  by_cases own : irp = moved
  · subst own
    rw [Function.update_self]
    exact same
  · rw [Function.update_of_ne own]

/-- A request that is not completed itself is not disturbed. -/
theorem completions_complete
    {moved : Address} (apart : irp ≠ moved) (ioStatus : WduIoStatus) :
    (system.complete moved ioStatus).completions irp =
      system.completions irp :=
  congrArg (fun packet => packet.irp.completions)
    (Function.update_of_ne apart _ system.packets)

theorem completes_of_effect
    {event : Event} (effect : Effect system event next) (irp : Address) :
    next.completions irp = system.completions irp ∨
      system.Completes irp event := by
  cases effect with
  | @returned moved file status returning completes =>
      by_cases same : irp = moved
      · subst same
        refine Or.inr ⟨rfl, ?_⟩
        rw [returning]
        exact bne_iff_ne.mpr completes
      · refine Or.inl ?_
        unfold completions
        rw [(release_frame _ moved file).2.2]
        exact completions_complete same _
  | @completed box place moved completing =>
      by_cases same : irp = moved
      · subst same
        exact Or.inr (congrArg Phase.completes completing)
      · exact Or.inl (completions_complete same _)
  | @dropped moved box completing =>
      by_cases same : irp = moved
      · subst same
        exact Or.inr ⟨rfl, box, completing⟩
      · exact Or.inl (completions_complete same _)
  | @cleanedOne file moved rest completing =>
      by_cases same : irp = moved
      · subst same
        exact Or.inr ⟨rest, completing⟩
      · exact Or.inl (completions_complete same _)
  | armed _ => exact Or.inl (completions_setPacket (by rfl) irp)
  | marked _ _ => exact Or.inl (completions_setPacket (by rfl) irp)
  | taken _ _ => exact Or.inl (completions_setPacket (by rfl) irp)
  | @refused moved _ _ wrapper _ _ _ _ =>
      have weaker := disarm_weaker system moved irp wrapper
      exact Or.inl (completions_weaker weaker)
  | @unset _ moved wrapper _ _ _ _ _ _ =>
      have weaker := disarm_weaker system moved irp wrapper
      exact Or.inl (completions_weaker weaker)
  | @found _ moved wrapper _ _ _ _ _ _ =>
      have weaker := disarm_weaker system moved irp wrapper
      exact Or.inl (completions_weaker weaker)
  | @pushedIrp moved box file wrapper dueTime middle _ _ calm =>
      have marks :
          (middle.pushIrp moved box file wrapper dueTime).completions irp =
            middle.completions irp :=
        @completions_setPacket middle moved
          { middle.packets moved with
            irp := (middle.packets moved).irp.markPending } rfl irp
      have same := completions_weaker (middle_weaker calm irp)
      exact Or.inl (marks.trans same)
  | pending _ =>
      unfold completions
      rw [(release_frame _ _ _).2.2]
      exact Or.inl rfl
  | cleaned cleaned =>
      exact Or.inl (completions_weaker (cleaned.weaker irp))
  | entered _ _ | turnedAway _ _ | rejected _ | referenced _
  | pushedEvent _ _ | expired _ | freedBox _ _ | missed _ _
  | signalled _ _ _ _ _ | removed _ _ | outside _ _ | unwrapped _ _
  | cancelled _ _ _ _ | waiting _ =>
      exact Or.inl rfl

/-- A request is completed by `device_control` if it is not marked, and by
the other three if it is. -/
theorem life_step_of_completes
    {event : Event} (first : system.MarkedFirst irp)
    (completes : system.Completes irp event)
    (fresh : system.completions irp = 0) :
    Life.Step irp event (system.life irp) .completed := by
  cases event with
  | ret other =>
      obtain ⟨rfl, completes⟩ := completes
      have unmarked : (system.packets other).isMarked = false := by
        refine Bool.eq_false_iff.mpr fun marked => ?_
        have pending := first.call marked
        cases call : system.calls other with
        | returning file status =>
            rw [call] at pending completes
            exact bne_iff_ne.mp completes (beq_iff_eq.mp pending)
        | idle | entered _ _ | armed _ _ _ | referenced _ _ _ | returned =>
            rw [call] at completes
            cases completes
      have called : system.calls other ≠ .idle := by
        intro idle
        rw [idle] at completes
        cases completes
      rw [life_served fresh unmarked called]
      exact .answered
  | completeFound box =>
      have timer := Phase.irp_of_completes completes
      rw [life_pending fresh (first.timer box timer)]
      exact .expired
  | completeCancelled other =>
      obtain ⟨rfl, box, completing⟩ := completes
      rw [life_pending fresh (first.routine box completing)]
      exact .cancelled
  | completeCleaned file =>
      obtain ⟨rest, completing⟩ := completes
      have listed : irp ∈ (system.files file).cleanup.irps := by
        rw [completing]
        exact List.mem_cons_self
      rw [life_pending fresh (first.cleanup file listed)]
      exact .cleaned
  | dispatch _ _ _ | handle _ _ | enqueue _ _ | expire _ | locate _
  | removeFound _ | kernelCancel _ | cancelRoutine _ | beginCleanup _
  | cleanup _ => exact completes.elim

/-! ## The life after a step -/

/-- The section of a request is not run for one that never arrived. -/
theorem called_of_enqueue
    {box : Address} (effect : Effect system (.enqueue irp box) next) :
    system.calls irp ≠ .idle := by
  intro idle
  cases effect with
  | refused armed _ _ => cases idle.symm.trans armed
  | pushedIrp _ armed _ => cases idle.symm.trans armed
  | pushedEvent _ referenced => cases idle.symm.trans referenced

/-- The life of a request that is not completed in this step. -/
theorem life_step_of_fresh
    {event : Event} (effect : Effect system event next)
    (before : system.completions irp = 0) (after : next.completions irp = 0) :
    next.life irp = system.life irp ∨
      Life.Step irp event (system.life irp) (next.life irp) := by
  cases marked : (system.packets irp).isMarked with
  | true =>
      rw [life_pending before marked,
        life_pending after (marked_of_effect effect marked)]
      exact Or.inl rfl
  | false =>
      rcases later_of_effect effect irp with later | pushed
      · have unmarked := later.marked.trans marked
        rcases calls_of_effect effect irp with going | arrived
        · by_cases idle : system.calls irp = .idle
          · rw [life_absent before marked idle,
              life_absent after unmarked (going.mpr idle)]
            exact Or.inl rfl
          · rw [life_served before marked idle,
              life_served after unmarked (mt going.mp idle)]
            exact Or.inl rfl
        · obtain ⟨file, request, rfl, idle, called⟩ := arrived
          rw [life_absent before marked idle,
            life_served after unmarked called]
          exact Or.inr .arrives
      · obtain ⟨box, file, record, rfl, _, pending, _⟩ := pushed
        rw [life_served before marked (called_of_enqueue effect),
          life_pending after pending]
        exact Or.inr .pends

theorem lives_of_effect
    {event : Event} (effect : Effect system event next)
    (first : ∀ irp, system.MarkedFirst irp) :
    system.Lives event next := by
  intro irp
  by_cases before : system.completions irp = 0
  · by_cases after : next.completions irp = 0
    · exact life_step_of_fresh effect before after
    · rw [life_completed after]
      rcases completes_of_effect effect irp with same | completes
      · exact absurd (same.trans before) after
      · exact Or.inr (life_step_of_completes (first irp) completes before)
  · have after : next.completions irp ≠ 0 := by
      rcases later_of_effect effect irp with later | pushed
      · intro fresh
        exact before (Nat.le_zero.mp (later.completions.trans_eq fresh))
      · obtain ⟨box, _, _, rfl, _⟩ := pushed
        rcases completes_of_effect effect irp with same | completes
        · exact same.trans_ne before
        · exact completes.elim
    rw [life_completed before, life_completed after]
    exact Or.inl rfl

end

/-! ## Runs -/

theorem markedFirst_start (irp : Address) : System.start.MarkedFirst irp where
  call marked := by
    have unset : (0 : UInt8).toNat.testBit 0 = true := marked
    exact absurd unset (by decide)
  entry _ member := absurd member List.not_mem_nil
  timer _ timer := nomatch timer
  routine _ completing := nomatch completing
  cleanup _ listed := absurd listed List.not_mem_nil

/-- For every run: every step of the event driver leaves the life of each
request as it is, or takes it one step along the line. In particular none is
completed that has not arrived, none is taken back, and only those that have
become pending are completed by others than `device_control`. -/
theorem lives_always (events : List Event) :
    EveryStep step Lives start events :=
  @everyStep_of_preserved _ _ step
    (fun system => system.Invariant ∧ ∀ irp, system.MarkedFirst irp) Lives
    (fun _ _ _ known stepped =>
      ⟨invariant_step known.1 stepped,
        fun irp => markedFirst_step known.1 (known.2 irp) stepped⟩)
    (fun _ _ _ known stepped =>
      lives_of_effect (effect_of_step known.1.nodup stepped) known.2)
    _ ⟨invariant_start, markedFirst_start⟩ events

/-- A request whose timer expires, after none, one, three and seven events. -/
example :
    [0, 1, 3, 7].map (fun count =>
      (run step start
        (List.take count
          [.dispatch 1 10 ⟨ioctlRegisterEvent, 24, some ⟨0, 0, 5⟩⟩,
            .handle 1 ⟨50, 0, 0⟩, .enqueue 1 100, .ret 1, .expire 100,
            .locate 100, .completeFound 100])).map
        (fun system => system.life 1)) =
      [some .absent, some .served, some .pending, some .completed] := rfl

end System

end EventDriver

end WinDrvUtils

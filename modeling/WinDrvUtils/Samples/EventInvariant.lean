import WinDrvUtils.Samples.EventEffect

/-!
# Requests, records and timers

What holds of every run of the event driver, whatever happens: the records of
the queue lie in different boxes, a request has no record before its section,
and its record and its timer are in the same box.
-/

namespace WinDrvUtils

namespace EventDriver

open StepSystem

/-- The section of the request is over, or it never comes to it. -/
def Call.isPast : Call → Bool
  | .returning _ _ => true
  | .returned => true
  | _ => false

/-- The request that the timer or the DPC of a box is for. -/
def Phase.irp : Phase → Option Address
  | .idle => none
  | .set ty _ => ty.irp
  | .queued ty => ty.irp
  | .completing _ irp => some irp
  | .removing _ irp => some irp
  | .finished => none

/-- The context of a DPC that has not run. -/
def Phase.context : Phase → Option NotifyType
  | .set ty _ => some ty
  | .queued ty => some ty
  | _ => none

/-- A record in another state of the queue. -/
structure NotifyRecord.Same (record other : NotifyRecord) : Prop where
  box : record.box = other.box
  irp : record.ty.irp = other.ty.irp
  event : record.ty.event = other.ty.event

theorem same_self (ty : NotifyType) : ty.same ty = true := by
  cases ty <;> exact beq_self_eq_true _

/-- Comparing with a context looks at the request and the event only. -/
theorem NotifyRecord.Same.same_iff
    {record other : NotifyRecord} (same : record.Same other)
    (ty : NotifyType) :
    record.ty.same ty = true ↔ other.ty.same ty = true := by
  cases ty with
  | irpBased irp wrapper =>
      rw [NotifyType.same_irpBased_iff, NotifyType.same_irpBased_iff,
        same.irp]
  | eventBased event =>
      rw [NotifyType.same_eventBased_iff, NotifyType.same_eventBased_iff,
        same.event]

theorem same_of_kept
    {file : Address} {phases : Address → Phase}
    {record left : NotifyRecord}
    (kept : record.kept file phases = some left) :
    record.Same left := by
  unfold NotifyRecord.kept at kept
  split at kept
  · split at kept
    · next irp wrapper based =>
      split at kept
      · cases kept
        exact ⟨rfl, by rw [based]; rfl, by rw [based]; rfl⟩
      · cases kept
    · cases kept
  · cases kept
    exact ⟨rfl, rfl, rfl⟩

namespace System

structure Invariant (system : System) : Prop where
  nodup : system.toNotifications.boxes.Nodup
  early :
    ∀ irp, (system.calls irp).isPast = false →
      (∀ record ∈ system.queue, record.ty.irp ≠ some irp) ∧
        ∀ box, (system.phases box).irp ≠ some irp
  paired :
    ∀ box irp, (system.phases box).irp = some irp →
      ∀ record ∈ system.queue, record.ty.irp = some irp → record.box = box
  single :
    ∀ box other irp, (system.phases box).irp = some irp →
      (system.phases other).irp = some irp → box = other
  one :
    ∀ record ∈ system.queue, ∀ other ∈ system.queue, ∀ irp,
      record.ty.irp = some irp → other.ty.irp = some irp →
        record.box = other.box
  matched :
    ∀ record ∈ system.queue, ∀ ty,
      (system.phases record.box).context = some ty →
        record.ty.same ty = true
  cached :
    ∀ box irp wrapper,
      (system.phases box).context = some (.irpBased irp wrapper) →
        wrapper.cancel ≠ none
  wrappers :
    ∀ irp file wrapper dueTime,
      system.calls irp = .armed file wrapper dueTime →
        wrapper.cancel ≠ none

/-- Nothing new is queued, no timer set, and no request taken back. -/
structure Shrinks (system next : System) : Prop where
  records :
    ∀ record ∈ next.queue, ∃ before ∈ system.queue, before.Same record
  phases :
    ∀ box irp, (next.phases box).irp = some irp →
      (system.phases box).irp = some irp
  contexts :
    ∀ box ty, (next.phases box).context = some ty →
      (system.phases box).context = some ty
  calls :
    ∀ irp, (next.calls irp).isPast = false →
      (system.calls irp).isPast = false
  wrappers :
    ∀ irp file wrapper dueTime,
      next.calls irp = .armed file wrapper dueTime →
        wrapper = armedWrapper ∨
          system.calls irp = .armed file wrapper dueTime

theorem Invariant.past_of_record
    {system : System} (invariant : system.Invariant) {irp : Address}
    {record : NotifyRecord} (member : record ∈ system.queue)
    (based : record.ty.irp = some irp) :
    (system.calls irp).isPast = true := by
  by_contra early
  rw [Bool.not_eq_true] at early
  exact (invariant.early irp early).1 record member based

theorem Invariant.past_of_phase
    {system : System} (invariant : system.Invariant) {irp box : Address}
    (based : (system.phases box).irp = some irp) :
    (system.calls irp).isPast = true := by
  by_contra early
  rw [Bool.not_eq_true] at early
  exact (invariant.early irp early).2 box based

theorem Invariant.shrink
    {system next : System} (invariant : system.Invariant)
    (shrinks : system.Shrinks next)
    (nodup : next.toNotifications.boxes.Nodup) : next.Invariant where
  nodup := nodup
  early irp early := by
    obtain ⟨records, phases⟩ := invariant.early irp (shrinks.calls irp early)
    constructor
    · intro record member based
      obtain ⟨before, earlier, same⟩ := shrinks.records record member
      exact records before earlier (same.irp.trans based)
    · intro box based
      exact phases box (shrinks.phases box irp based)
  paired box irp based record member recorded := by
    obtain ⟨before, earlier, same⟩ := shrinks.records record member
    have paired :=
      invariant.paired box irp (shrinks.phases box irp based) before earlier
        (same.irp.trans recorded)
    exact same.box.symm.trans paired
  single box other irp first second :=
    invariant.single box other irp (shrinks.phases box irp first)
      (shrinks.phases other irp second)
  one record member other otherMember irp recorded based := by
    obtain ⟨before, earlier, same⟩ := shrinks.records record member
    obtain ⟨otherBefore, otherEarlier, otherSame⟩ :=
      shrinks.records other otherMember
    have one :=
      invariant.one before earlier otherBefore otherEarlier irp
        (same.irp.trans recorded) (otherSame.irp.trans based)
    exact (same.box.symm.trans one).trans otherSame.box
  matched record member ty context := by
    obtain ⟨before, earlier, same⟩ := shrinks.records record member
    have was := shrinks.contexts record.box ty context
    rw [← same.box] at was
    exact (same.same_iff ty).mp (invariant.matched before earlier ty was)
  cached box irp wrapper context :=
    invariant.cached box irp wrapper (shrinks.contexts box _ context)
  wrappers irp file wrapper dueTime armed := by
    rcases shrinks.wrappers irp file wrapper dueTime armed with rfl | before
    · exact Option.some_ne_none _
    · exact invariant.wrappers irp file wrapper dueTime before

/-! ## The parts of a state that shrink -/

section

variable {system : System}

theorem records_rfl :
    ∀ record ∈ system.queue,
      ∃ before ∈ system.queue, before.Same record :=
  fun record member => ⟨record, member, rfl, rfl, rfl⟩

theorem records_removal
    {place : Nat} {removed : NotifyRecord} {rest : List NotifyRecord}
    (removal : Vec.swapRemove system.queue place = some (removed, rest)) :
    ∀ record ∈ rest, ∃ before ∈ system.queue, before.Same record := by
  intro record member
  have earlier : record ∈ system.queue :=
    (Vec.swapRemove_perm removal).mem_iff.mpr
      (List.mem_cons_of_mem removed member)
  exact ⟨record, earlier, rfl, rfl, rfl⟩

/-- What is read of a phase is what was read before, or nothing. -/
theorem phases_update
    {Part : Type} (part : Phase → Option Part) {phases : Address → Phase}
    {box : Address} {phase : Phase}
    (same : part phase = none ∨ part phase = part (phases box)) :
    ∀ other found,
      part (Function.update phases box phase other) = some found →
        part (phases other) = some found := by
  intro other found reads
  by_cases equal : other = box
  · subst equal
    rw [Function.update_self] at reads
    rcases same with none | same
    · rw [none] at reads
      cases reads
    · exact same.symm.trans reads
  · rw [Function.update_of_ne equal] at reads
    exact reads

theorem phases_cancelTimer
    {Part : Type} (part : Phase → Option Part) (nothing : part .idle = none)
    (notes : Notifications) (box : Address) :
    ∀ other found,
      part ((notes.cancelTimer box).2.phases other) = some found →
        part (notes.phases other) = some found := by
  intro other found reads
  unfold Notifications.cancelTimer at reads
  split at reads
  · exact phases_update part (Or.inl nothing) other found reads
  · exact reads

/-- Cleanup stops timers that are set, and nothing else. -/
theorem part_afterCleanup
    {Part : Type} (part : Phase → Part)
    (same : ∀ ty dueTime, part (.set ty dueTime) = part .idle)
    (notes : Notifications) (file box : Address) :
    part ((notes.afterCleanup file).phases box) =
      part (notes.phases box) := by
  unfold Notifications.afterCleanup Notifications.afterHits
  dsimp only
  split
  · next stopped =>
    obtain ⟨record, _, rfl, stops⟩ := stopped
    unfold NotifyRecord.stopsTimer at stops
    cases phase : notes.phases record.box with
    | set ty dueTime => exact (same ty dueTime).symm
    | idle | queued _ | completing _ _ | removing _ _ | finished =>
        simp [phase, Phase.isSet] at stops
  · rfl

theorem phases_afterCleanup
    {Part : Type} (part : Phase → Option Part) (nothing : part .idle = none)
    (notes : Notifications) (file : Address) :
    ∀ box found,
      part ((notes.afterCleanup file).phases box) = some found →
        part (notes.phases box) = some found := by
  intro box found reads
  unfold Notifications.afterCleanup Notifications.afterHits at reads
  dsimp only at reads
  split at reads
  · rw [nothing] at reads
    cases reads
  · exact reads

theorem records_afterCleanup (notes : Notifications) (file : Address) :
    ∀ record ∈ (notes.afterCleanup file).queue,
      ∃ before ∈ notes.queue, before.Same record := by
  intro record member
  obtain ⟨before, earlier, kept⟩ := List.mem_filterMap.mp member
  exact ⟨before, earlier, same_of_kept kept⟩

/-! ## A push -/

/-- A record is queued with its timer, by the request that it is for. -/
structure Pushes (system : System) (event : Event) (box file : Address)
    (ty : NotifyType) (dueTime : Int64) (next : System) : Prop where
  free : system.toNotifications.isFree box = true
  own : ∀ irp, ty.irp = some irp → event = .enqueue irp box
  fresh : ∀ irp, ty.irp = some irp → (system.calls irp).isPast = false
  notes :
    next.toNotifications = system.toNotifications.push box file ty dueTime
  calls :
    ∀ irp, (next.calls irp).isPast = false →
      (system.calls irp).isPast = false ∧ ty.irp ≠ some irp
  cached :
    ∀ irp wrapper, ty = .irpBased irp wrapper → wrapper.cancel ≠ none
  wrappers :
    ∀ irp file wrapper dueTime,
      next.calls irp = .armed file wrapper dueTime →
        wrapper.cancel ≠ none

def Changes (system : System) (event : Event) (next : System) : Prop :=
  system.Shrinks next ∨
    ∃ box file ty dueTime, system.Pushes event box file ty dueTime next

section Pushes

variable {next : System} {event : Event} {box file : Address}
  {ty : NotifyType} {dueTime : Int64}

theorem Pushes.records
    (pushes : system.Pushes event box file ty dueTime next) :
    ∀ record ∈ next.queue,
      record ∈ system.queue ∨ record = ⟨box, file, ty⟩ := by
  intro record member
  have queue : next.queue = system.queue ++ [⟨box, file, ty⟩] :=
    congrArg Notifications.queue pushes.notes
  rw [queue, List.mem_append, List.mem_singleton] at member
  exact member

theorem Pushes.timers
    (pushes : system.Pushes event box file ty dueTime next) :
    ∀ other irp, (next.phases other).irp = some irp →
      (other = box ∧ ty.irp = some irp) ∨
        (system.phases other).irp = some irp := by
  intro other irp based
  have phases :
      next.phases = Function.update system.phases box (.set ty dueTime) :=
    congrArg Notifications.phases pushes.notes
  rw [phases] at based
  by_cases same : other = box
  · subst same
    rw [Function.update_self] at based
    exact Or.inl ⟨rfl, based⟩
  · rw [Function.update_of_ne same] at based
    exact Or.inr based

end Pushes

theorem Invariant.push
    {next : System} (invariant : system.Invariant) {event : Event}
    {box file : Address} {ty : NotifyType} {dueTime : Int64}
    (pushes : system.Pushes event box file ty dueTime next) :
    next.Invariant := by
  have records := pushes.records
  have timers := pushes.timers
  obtain ⟨free, _, fresh, notes, calls, cached, wrappers⟩ := pushes
  have phases :
      next.phases = Function.update system.phases box (.set ty dueTime) :=
    congrArg Notifications.phases notes
  constructor
  case nodup =>
      rw [notes]
      exact nodup_push invariant.nodup free
  case early =>
      intro irp early
      obtain ⟨before, other⟩ := calls irp early
      obtain ⟨noRecord, noTimer⟩ := invariant.early irp before
      constructor
      · intro record member
        rcases records record member with earlier | rfl
        · exact noRecord record earlier
        · exact other
      · intro box based
        rcases timers box irp based with ⟨_, same⟩ | earlier
        · exact other same
        · exact noTimer box earlier
  case paired =>
      intro other irp based record member recorded
      rcases timers other irp based with ⟨rfl, same⟩ | earlier
      · rcases records record member with before | rfl
        · exact
            absurd recorded
              ((invariant.early irp (fresh irp same)).1 record before)
        · rfl
      · rcases records record member with before | rfl
        · exact invariant.paired other irp earlier record before recorded
        · exact
            absurd earlier
              ((invariant.early irp (fresh irp recorded)).2 other)
  case one =>
      intro record member other otherMember irp recorded based
      rcases records record member with before | rfl
      · rcases records other otherMember with otherBefore | rfl
        · exact
            invariant.one record before other otherBefore irp recorded based
        · exact
            absurd recorded
              ((invariant.early irp (fresh irp based)).1 record before)
      · rcases records other otherMember with otherBefore | rfl
        · exact
            absurd based
              ((invariant.early irp (fresh irp recorded)).1 other
                otherBefore)
        · rfl
  case matched =>
      intro record member other context
      rw [phases] at context
      rcases records record member with before | rfl
      · have apart : record.box ≠ box := by
          intro same
          exact
            (isFree_iff.mp free).2.1
              (same ▸ List.mem_map_of_mem before)
        rw [Function.update_of_ne apart] at context
        exact invariant.matched record before other context
      · rw [Function.update_self] at context
        cases context
        exact same_self ty
  case cached =>
      intro other irp wrapper context
      rw [phases] at context
      by_cases same : other = box
      · subst same
        rw [Function.update_self] at context
        exact cached irp wrapper (Option.some.inj context)
      · rw [Function.update_of_ne same] at context
        exact invariant.cached other irp wrapper context
  case wrappers => exact wrappers
  case single =>
      intro first second irp one two
      rcases timers first irp one with ⟨rfl, same⟩ | before
      · rcases timers second irp two with ⟨rfl, _⟩ | later
        · rfl
        · exact
            absurd later ((invariant.early irp (fresh irp same)).2 second)
      · rcases timers second irp two with ⟨rfl, same⟩ | later
        · exact
            absurd before ((invariant.early irp (fresh irp same)).2 first)
        · exact invariant.single first second irp before later

end

/-! ## Runs -/

/-- One call moves on, and does nothing with the queue and the timers. -/
theorem shrinks_of_call
    {system next : System} {irp : Address} {call : Call}
    (queue : next.queue = system.queue)
    (phases : next.phases = system.phases)
    (calls : next.calls = Function.update system.calls irp call)
    (early : call.isPast = false → (system.calls irp).isPast = false)
    (wrapper :
      ∀ file wrapper dueTime, call = .armed file wrapper dueTime →
        wrapper = armedWrapper) :
    system.Shrinks next where
  records := by
    rw [queue]
    exact records_rfl
  phases := by
    rw [phases]
    exact fun _ _ => id
  contexts := by
    rw [phases]
    exact fun _ _ => id
  calls := by
    intro other isEarly
    rw [calls] at isEarly
    by_cases equal : other = irp
    · subst equal
      rw [Function.update_self] at isEarly
      exact early isEarly
    · rw [Function.update_of_ne equal] at isEarly
      exact isEarly
  wrappers := by
    intro other file cached dueTime armed
    rw [calls] at armed
    by_cases equal : other = irp
    · subst equal
      rw [Function.update_self] at armed
      exact Or.inl (wrapper file cached dueTime armed)
    · rw [Function.update_of_ne equal] at armed
      exact Or.inr armed

/-- The queue and the timers shrink, and no call moves on. -/
theorem shrinks_of_notes
    {system next : System} (calls : next.calls = system.calls)
    (records :
      ∀ record ∈ next.queue, ∃ before ∈ system.queue, before.Same record)
    (phases :
      ∀ box irp, (next.phases box).irp = some irp →
        (system.phases box).irp = some irp)
    (contexts :
      ∀ box ty, (next.phases box).context = some ty →
        (system.phases box).context = some ty) :
    system.Shrinks next where
  records := records
  phases := phases
  contexts := contexts
  calls := by
    rw [calls]
    exact fun _ => id
  wrappers := by
    rw [calls]
    exact fun _ _ _ _ => Or.inr

/-- One timer moves on. -/
theorem shrinks_of_phase
    {system next : System} {box : Address} {phase : Phase}
    (calls : next.calls = system.calls)
    (phases : next.phases = Function.update system.phases box phase)
    (records :
      ∀ record ∈ next.queue, ∃ before ∈ system.queue, before.Same record)
    (irp : phase.irp = none ∨ phase.irp = (system.phases box).irp)
    (context :
      phase.context = none ∨
        phase.context = (system.phases box).context) :
    system.Shrinks next := by
  refine shrinks_of_notes calls records ?_ ?_
  · rw [phases]
    exact phases_update Phase.irp irp
  · rw [phases]
    exact phases_update Phase.context context

theorem shrinks_of_same
    {system next : System} (calls : next.calls = system.calls)
    (queue : next.queue = system.queue)
    (phases : next.phases = system.phases) :
    system.Shrinks next := by
  refine shrinks_of_notes calls ?_ ?_ ?_
  · rw [queue]
    exact records_rfl
  · rw [phases]
    exact fun _ _ => id
  · rw [phases]
    exact fun _ _ => id

@[simp]
theorem release_calls
    (system : System) (irp : Address) (file : Option Address) :
    (system.release irp file).calls = system.calls := by
  cases file <;> rfl

/-- A call that is past takes no part any more. -/
theorem calls_past
    {system : System} {irp : Address} {call : Call}
    (past : call.isPast = true) :
    ∀ other,
      (Function.update system.calls irp call other).isPast = false →
        (system.calls other).isPast = false ∧ other ≠ irp := by
  intro other early
  by_cases equal : other = irp
  · subst equal
    rw [Function.update_self, past] at early
    cases early
  · rw [Function.update_of_ne equal] at early
    exact ⟨early, equal⟩

/-- A call that returns is not armed. -/
theorem Invariant.wrappers_update
    {system : System} (invariant : system.Invariant) {irp : Address}
    {file : Option Address} {status : NTSTATUS} :
    ∀ other otherFile wrapper dueTime,
      Function.update system.calls irp (.returning file status) other =
          .armed otherFile wrapper dueTime →
        wrapper.cancel ≠ none := by
  intro other otherFile wrapper dueTime armed
  by_cases equal : other = irp
  · subst equal
    rw [Function.update_self] at armed
    cases armed
  · rw [Function.update_of_ne equal] at armed
    exact invariant.wrappers other otherFile wrapper dueTime armed

theorem changes_of_step
    {system next : System} {event : Event} (invariant : system.Invariant)
    (stepped : system.step event = some next) :
    system.Changes event next := by
  cases effect_of_step invariant.nodup stepped with
  | @pushedIrp irp box file wrapper dueTime middle free armed calm =>
      have callsNext := pushIrp_calls calm box file dueTime
      have notes := pushIrp_notes calm box file dueTime
      refine
        Or.inr
          ⟨box, file, .irpBased irp wrapper, dueTime, free, ?_, ?_, notes,
            ?_, ?_, ?_⟩
      · intro other based
        cases based
        rfl
      · intro other based
        cases based
        rw [armed]
        rfl
      · intro other early
        rw [callsNext] at early
        obtain ⟨early, different⟩ := calls_past rfl other early
        exact ⟨early, fun based => different (Option.some.inj based).symm⟩
      · intro other cached based
        cases based
        exact invariant.wrappers irp file wrapper dueTime armed
      · rw [callsNext]
        exact invariant.wrappers_update
  | @pushedEvent irp box file event dueTime free referenced =>
      refine
        Or.inr
          ⟨box, file, .eventBased event, dueTime, free, ?_, ?_, rfl, ?_, ?_,
            invariant.wrappers_update⟩
      · intro other based
        cases based
      · intro other based
        cases based
      · intro other early
        obtain ⟨early, _⟩ := calls_past rfl other early
        refine ⟨early, fun based => ?_⟩
        cases based
      · intro other cached based
        cases based
  | entered idle _ =>
      refine Or.inl (shrinks_of_call rfl rfl rfl ?_ ?_)
      · intro _
        rw [idle]
        rfl
      · intro _ _ _ armed
        cases armed
  | turnedAway _ _ =>
      refine Or.inl (shrinks_of_call rfl rfl rfl ?_ ?_)
      · intro early
        cases early
      · intro _ _ _ armed
        cases armed
  | rejected _ =>
      refine Or.inl (shrinks_of_call rfl rfl rfl ?_ ?_)
      · intro early
        cases early
      · intro _ _ _ armed
        cases armed
  | armed entered =>
      refine Or.inl (shrinks_of_call rfl rfl rfl ?_ ?_)
      · intro _
        rw [entered]
        rfl
      · intro _ _ _ armed
        cases armed
        rfl
  | referenced entered =>
      refine Or.inl (shrinks_of_call rfl rfl rfl ?_ ?_)
      · intro _
        rw [entered]
        rfl
      · intro _ _ _ armed
        cases armed
  | refused _ _ _ =>
      refine Or.inl (shrinks_of_call rfl rfl rfl ?_ ?_)
      · intro early
        cases early
      · intro _ _ _ armed
        cases armed
  | @pending irp file _ =>
      have notes := release_notes (system.setCall irp .returned) irp file
      refine
        Or.inl
          (shrinks_of_call (congrArg Notifications.queue notes)
            (congrArg Notifications.phases notes)
            (release_calls (system.setCall irp .returned) irp file) ?_ ?_)
      · intro early
        cases early
      · intro _ _ _ armed
        cases armed
  | @returned irp file status _ _ =>
      have notes :=
        release_notes
          ((system.complete irp
            (WduIoStatus.newWithStatus status)).setCall irp .returned)
          irp file
      refine
        Or.inl
          (shrinks_of_call (congrArg Notifications.queue notes)
            (congrArg Notifications.phases notes)
            (release_calls _ irp file) ?_ ?_)
      · intro early
        cases early
      · intro _ _ _ armed
        cases armed
  | expired set =>
      exact
        Or.inl
          (shrinks_of_phase rfl rfl records_rfl
            (Or.inr (by rw [set]; rfl)) (Or.inr (by rw [set]; rfl)))
  | missed _ _ =>
      exact
        Or.inl
          (shrinks_of_phase rfl rfl records_rfl (Or.inl rfl) (Or.inl rfl))
  | unset _ _ _ _ =>
      exact
        Or.inl
          (shrinks_of_phase rfl rfl records_rfl (Or.inl rfl) (Or.inl rfl))
  | found queued _ _ _ =>
      exact
        Or.inl
          (shrinks_of_phase rfl rfl records_rfl
            (Or.inr (by rw [queued]; rfl)) (Or.inl rfl))
  | signalled _ _ _ removal _ =>
      exact
        Or.inl
          (shrinks_of_phase rfl rfl (records_removal removal) (Or.inl rfl)
            (Or.inl rfl))
  | completed completing =>
      exact
        Or.inl
          (shrinks_of_phase rfl rfl records_rfl
            (Or.inr (by rw [completing]; rfl)) (Or.inl rfl))
  | removed _ removal =>
      exact
        Or.inl
          (shrinks_of_phase rfl rfl (records_removal removal) (Or.inl rfl)
            (Or.inl rfl))
  | cancelled _ _ removal _ =>
      exact
        Or.inl
          (shrinks_of_notes rfl (records_removal removal)
            (phases_cancelTimer Phase.irp rfl _ _)
            (phases_cancelTimer Phase.context rfl _ _))
  | cleaned cleaned =>
      refine Or.inl (shrinks_of_notes cleaned.calls ?_ ?_ ?_)
      · rw [congrArg Notifications.queue cleaned.notes]
        exact records_afterCleanup _ _
      · rw [congrArg Notifications.phases cleaned.notes]
        exact phases_afterCleanup Phase.irp rfl _ _
      · rw [congrArg Notifications.phases cleaned.notes]
        exact phases_afterCleanup Phase.context rfl _ _
  | freedBox _ _ | outside _ _ | marked _ _ | taken _ _ | unwrapped _ _
  | dropped _ | waiting _ | cleanedOne _ =>
      exact Or.inl (shrinks_of_same rfl rfl rfl)

theorem invariant_step
    {system next : System} {event : Event} (invariant : system.Invariant)
    (stepped : system.step event = some next) :
    next.Invariant := by
  have nodup := boxesNodup_step invariant.nodup stepped
  rcases changes_of_step invariant stepped with shrinks | pushes
  · exact invariant.shrink shrinks nodup
  · obtain ⟨box, file, ty, dueTime, pushes⟩ := pushes
    exact invariant.push pushes

theorem invariant_start : System.start.Invariant where
  nodup := List.nodup_nil
  early _ _ :=
    ⟨fun _ member => absurd member List.not_mem_nil, fun _ based =>
      nomatch based⟩
  paired _ _ based := nomatch based
  single _ _ _ based := nomatch based
  one _ member := absurd member List.not_mem_nil
  matched _ member := absurd member List.not_mem_nil
  cached _ _ _ context := nomatch context
  wrappers _ _ _ _ armed := nomatch armed

/-- In every state of every run. -/
theorem invariant_always (events : List Event) :
    Always step Invariant start events :=
  always_of_preserved (fun _ => id)
    (fun _ _ _ invariant stepped => invariant_step invariant stepped)
    invariant_start events

end System

end EventDriver

end WinDrvUtils

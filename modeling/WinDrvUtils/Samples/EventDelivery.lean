import WinDrvUtils.Samples.EventLifetimes

/-!
# Who still takes an entry out

An entry leaves the queue through the DPC of its timer or through the cancel
routine of its request. `Awaited` says that one of them is still to come, and
`TakenFound` that a cancel routine that comes finds its entry, whose place it
unwraps.

Cleanup stops the timers of the entries of other file objects, and keeps those
that are requests, as long as they have not been disarmed before.
-/

namespace WinDrvUtils

namespace EventDriver

open StepSystem

/-- The cancel routine of the entry's request waits for the lock. -/
def NotifyRecord.IsTaken (cancellations : Address → Cancellation)
    (record : NotifyRecord) : Prop :=
  ∃ irp, record.ty.irp = some irp ∧ cancellations irp = .taken

theorem NotifyRecord.Same.isTaken_iff
    {record other : NotifyRecord} (same : record.Same other)
    (cancellations : Address → Cancellation) :
    record.IsTaken cancellations ↔ other.IsTaken cancellations := by
  unfold NotifyRecord.IsTaken
  rw [same.irp]

namespace System

def Awaited (system : System) : Prop :=
  ∀ record ∈ system.queue,
    (system.phases record.box).isActive = true ∨
      record.IsTaken system.cancellations

/-- A DPC that removes the entry at a place removes its own, unless that is
not in the queue or is left to its cancel routine. -/
def Leaves (system : System) (box : Address) (place : Nat) : Prop :=
  ∀ record, system.queue[place]? = some record →
    record.box = box ∨
      ∀ own ∈ system.queue, own.box = box →
        own.IsTaken system.cancellations

/-- The DPCs remove their own entries, and cleanup finds no timer set of an
entry that it keeps, unless the entry is left to its cancel routine. -/
def LeavesAwaited (system : System) : Event → Prop
  | .locate box =>
      ∀ event place, system.phases box = .queued (.eventBased event) →
        (box ∈ system.toNotifications.boxes ∨ box ∈ system.detached) →
          system.toNotifications.findData (.eventBased event) = some place →
            system.Leaves box place
  | .removeFound box =>
      ∀ place irp, system.phases box = .removing place irp →
        system.Leaves box place
  | .cleanup file =>
      (system.files file).cleanup = .waiting →
        (system.files file).holders = [] →
          ∀ record ∈ system.queue,
            record.stopsTimer file system.phases = true →
              (record.kept file system.phases).isSome = true →
                record.IsTaken system.cancellations
  | _ => True

section

variable {system next : System}

/-- A timer moves on and is still coming. -/
theorem awaited_update
    {box : Address} {phase : Phase} (awaited : system.Awaited)
    (active : phase.isActive = true) :
    ∀ record ∈ system.queue,
      (Function.update system.phases box phase record.box).isActive =
          true ∨ record.IsTaken system.cancellations := by
  intro record member
  by_cases same : record.box = box
  · rw [same, Function.update_self]
    exact Or.inl active
  · rw [Function.update_of_ne same]
    exact awaited record member

/-- A DPC is through, and has removed the entry at a place. -/
theorem awaited_removal_iff
    {box : Address} {place : Nat} {record : NotifyRecord}
    {rest : List NotifyRecord} (awaited : system.Awaited)
    (nodup : system.toNotifications.boxes.Nodup)
    (removal : Vec.swapRemove system.queue place = some (record, rest))
    (queue : next.queue = rest)
    (phases :
      next.phases = Function.update system.phases box .finished)
    (cancellations : next.cancellations = system.cancellations) :
    next.Awaited ↔ system.Leaves box place := by
  have here := Vec.getElem?_of_swapRemove removal
  have perm := Vec.swapRemove_perm removal
  have absent := (nodup_removal nodup removal).1
  unfold Awaited Leaves
  rw [queue, phases, cancellations]
  constructor
  · intro after other otherHere
    rw [here] at otherHere
    cases otherHere
    by_cases same : record.box = box
    · exact Or.inl same
    · right
      rintro own member rfl
      rcases List.mem_cons.mp (perm.mem_iff.mp member) with rfl | left
      · exact absurd rfl same
      · rcases after own left with active | taken
        · rw [Function.update_self] at active
          cases active
        · exact taken
  · intro leaves other left
    have member := perm.mem_iff.mpr (List.mem_cons_of_mem record left)
    by_cases same : other.box = box
    · right
      rcases leaves record here with own | taken
      · have remains : other.box ∈ rest.map NotifyRecord.box :=
          List.mem_map_of_mem left
        rw [same, ← own] at remains
        exact absurd remains absent
      · exact taken other member same
    · rw [Function.update_of_ne same]
      exact awaited other member

theorem awaited_cleaned_iff
    {file : Address} (awaited : system.Awaited)
    (nodup : system.toNotifications.boxes.Nodup)
    (cleaned : system.Cleaned file next) :
    next.Awaited ↔
      ∀ record ∈ system.queue,
        record.stopsTimer file system.phases = true →
          (record.kept file system.phases).isSome = true →
            record.IsTaken system.cancellations := by
  unfold Awaited
  rw [congrArg Notifications.queue cleaned.notes,
    congrArg Notifications.phases cleaned.notes,
    congrArg Notifications.cancellations cleaned.notes]
  unfold Notifications.afterCleanup Notifications.afterHits
  dsimp only
  constructor
  · intro after record member stops kept
    obtain ⟨left, kept⟩ := Option.isSome_iff_exists.mp kept
    have same := same_of_kept kept
    have stopped :
        Notifications.Stopped file system.phases system.queue left.box :=
      ⟨record, member, same.box, stops⟩
    have still :=
      after left (List.mem_filterMap.mpr ⟨record, member, kept⟩)
    rw [if_pos stopped] at still
    rcases still with active | taken
    · cases active
    · exact (same.isTaken_iff _).mpr taken
  · intro leaves left leftMember
    obtain ⟨record, member, kept⟩ := List.mem_filterMap.mp leftMember
    have same := same_of_kept kept
    rw [← same.isTaken_iff, ← same.box]
    by_cases stopped :
        Notifications.Stopped file system.phases system.queue record.box
    · right
      obtain ⟨other, otherMember, equal, stops⟩ := stopped
      have isRecord : other = record :=
        List.inj_on_of_nodup_map nodup otherMember member equal
      rw [isRecord] at stops
      exact
        leaves record member stops
          (Option.isSome_iff_exists.mpr ⟨left, kept⟩)
    · rw [if_neg stopped]
      exact awaited record member

/-- A cancel routine takes its entry out; no other entry was left to it. -/
theorem awaited_cancelled
    {irp : Address} {place : Nat} {record : NotifyRecord}
    {rest : List NotifyRecord} (invariant : system.Invariant)
    (awaited : system.Awaited)
    (removal : Vec.swapRemove system.queue place = some (record, rest))
    (same : record.ty.irp = some irp) :
    ∀ other ∈ rest,
      ((system.toNotifications.cancelTimer record.box).2.phases
          other.box).isActive = true ∨
        other.IsTaken
          (Function.update system.cancellations irp
            (.completing record.box)) := by
  intro other left
  have perm := Vec.swapRemove_perm removal
  have absent := (nodup_removal invariant.nodup removal).1
  have removed := perm.mem_iff.mpr List.mem_cons_self
  have member := perm.mem_iff.mpr (List.mem_cons_of_mem record left)
  have apart : other.box ≠ record.box := by
    intro equal
    exact absent (equal ▸ List.mem_map_of_mem left)
  rcases awaited other member with active | taken
  · left
    unfold Notifications.cancelTimer
    split
    · unfold Notifications.setPhase
      dsimp only
      rw [Function.update_of_ne apart]
      exact active
    · exact active
  · right
    obtain ⟨otherIrp, based, taken⟩ := taken
    have different : otherIrp ≠ irp := by
      intro equal
      rw [equal] at based
      exact apart (invariant.one other member record removed irp based same)
    refine ⟨otherIrp, based, ?_⟩
    rw [Function.update_of_ne different]
    exact taken

/-- An entry is queued with its timer set. -/
theorem awaited_push
    {notes : Notifications} {box file : Address} {ty : NotifyType}
    {dueTime : Int64} (awaited : system.Awaited)
    (same : system.toNotifications = notes)
    (pushed :
      next.toNotifications = notes.push box file ty dueTime) :
    next.Awaited := by
  subst same
  unfold Awaited
  rw [congrArg Notifications.queue pushed,
    congrArg Notifications.phases pushed,
    congrArg Notifications.cancellations pushed]
  intro record member
  rcases List.mem_append.mp member with before | last
  · exact @awaited_update system box (.set ty dueTime) awaited rfl record before
  · left
    have equal := List.mem_singleton.mp last
    have own : record.box = box := congrArg NotifyRecord.box equal
    have phase :
        (system.toNotifications.push box file ty dueTime).phases
            record.box =
          .set ty dueTime := by
      rw [own]
      exact Function.update_self box _ system.phases
    rw [phase]
    rfl

/-- A DPC does not find its entry, which is not in the queue then. -/
theorem awaited_missed
    {box : Address} {ty : NotifyType} (invariant : system.Invariant)
    (awaited : system.Awaited) (queued : system.phases box = .queued ty)
    (absent : system.toNotifications.findData ty = none) :
    (system.setPhase box .finished).Awaited := by
  intro record member
  have different : record.box ≠ box := by
    rintro rfl
    have context : (system.phases record.box).context = some ty := by
      rw [queued]
      rfl
    have same := invariant.matched record member ty context
    have apart := Notifications.findData_eq_none_iff.mp absent record member
    rw [same] at apart
    cases apart
  have phase :
      (system.setPhase box .finished).phases record.box =
        system.phases record.box :=
    Function.update_of_ne different _ _
  rw [phase]
  exact awaited record member

/-- The cancel routine of one request moves on, and holds no entry of the
queue. -/
theorem awaited_of_cancellation
    {irp : Address} {cancellation : Cancellation}
    (awaited : system.Awaited) (queue : next.queue = system.queue)
    (phases : next.phases = system.phases)
    (cancellations :
      next.cancellations =
        Function.update system.cancellations irp cancellation)
    (stays :
      system.cancellations irp = .taken → cancellation = .taken) :
    next.Awaited := by
  unfold Awaited
  rw [queue, phases, cancellations]
  intro record member
  rcases awaited record member with active | ⟨other, based, taken⟩
  · exact Or.inl active
  · refine Or.inr ⟨other, based, ?_⟩
    by_cases same : other = irp
    · subst same
      rw [Function.update_self]
      exact stays taken
    · rw [Function.update_of_ne same]
      exact taken

theorem awaited_step_iff
    {event : Event} (invariant : system.Invariant)
    (awaited : system.Awaited)
    (stepped : system.step event = some next) :
    next.Awaited ↔ system.LeavesAwaited event := by
  cases effect_of_step invariant.nodup stepped with
  | @signalled box event rest place record queued alive found removal _ =>
      refine
        Iff.trans
          (awaited_removal_iff awaited invariant.nodup removal rfl rfl
            rfl) ?_
      constructor
      · intro leaves _ _ otherQueued _ otherFound
        rw [queued] at otherQueued
        cases otherQueued
        rw [found] at otherFound
        cases otherFound
        exact leaves
      · intro leaves
        exact leaves event place queued alive found
  | @removed box irp rest place record removing removal =>
      refine
        Iff.trans
          (awaited_removal_iff awaited invariant.nodup removal rfl rfl
            rfl) ?_
      constructor
      · intro leaves _ _ otherRemoving
        rw [removing] at otherRemoving
        cases otherRemoving
        exact leaves
      · intro leaves
        exact leaves place irp removing
  | cleaned cleaned =>
      rw [awaited_cleaned_iff awaited invariant.nodup cleaned]
      exact
        ⟨fun leaves _ _ => leaves, fun leaves =>
          leaves cleaned.waiting cleaned.nobody⟩
  | @outside box place irp removing beyond =>
      refine iff_of_true awaited ?_
      intro _ _ otherRemoving record here
      exact
        absurd here (nothing_of_outside removing beyond otherRemoving record)
  | @freedBox box ty queued freed =>
      refine iff_of_true awaited ?_
      intro _ _ _ alive
      exact absurd alive freed
  | @missed box ty queued absent =>
      refine iff_of_true (awaited_missed invariant awaited queued absent) ?_
      intro _ _ otherQueued _ found
      rw [queued] at otherQueued
      cases otherQueued
      rw [absent] at found
      cases found
  | @unset box irp wrapper place record queued _ _ uncached =>
      have context :
          (system.phases box).context = some (.irpBased irp wrapper) := by
        rw [queued]
        rfl
      exact absurd uncached (invariant.cached box irp wrapper context)
  | @found box irp wrapper place record queued _ _ _ =>
      refine iff_of_true ?_ ?_
      · exact @awaited_update system box (.completing place irp) awaited rfl
      · intro _ _ otherQueued
        rw [queued] at otherQueued
        cases otherQueued
  | @cancelled irp rest place record _ _ removal same =>
      refine iff_of_true ?_ trivial
      obtain ⟨_, cancellations⟩ :=
        Notifications.cancelTimer_rest system.toNotifications record.box
      have after := awaited_cancelled invariant awaited removal same
      rw [← cancellations] at after
      exact after
  | @pushedIrp irp box file wrapper dueTime middle _ _ calm =>
      refine iff_of_true ?_ trivial
      exact awaited_push awaited (middle_notes calm).symm rfl
  | @pushedEvent irp box file event dueTime _ _ =>
      refine iff_of_true ?_ trivial
      exact
        @awaited_push system _ _ box file (.eventBased event) dueTime awaited
          rfl rfl
  | @expired box ty dueTime _ =>
      refine iff_of_true ?_ trivial
      exact @awaited_update system box (.queued ty) awaited rfl
  | @completed box place irp _ =>
      refine iff_of_true ?_ trivial
      exact @awaited_update system box (.removing place irp) awaited rfl
  | taken _ _ =>
      refine iff_of_true ?_ trivial
      exact awaited_of_cancellation awaited rfl rfl rfl fun _ => rfl
  | dropped completing =>
      refine iff_of_true ?_ trivial
      refine awaited_of_cancellation awaited rfl rfl rfl fun taken => ?_
      rw [completing] at taken
      cases taken
  | pending _ =>
      refine iff_of_true ?_ trivial
      unfold Awaited
      rw [release_notes]
      exact awaited
  | returned _ _ =>
      refine iff_of_true ?_ trivial
      unfold Awaited
      rw [release_notes]
      exact awaited
  | entered _ _ | turnedAway _ _ | rejected _ | armed _ | referenced _
  | refused _ _ _ | marked _ _ | unwrapped _ _ | waiting _
  | cleanedOne _ =>
      exact iff_of_true awaited trivial

end

/-- Along a run every entry of the queue has its timer or its DPC to come, or
the cancel routine of its request, if and only if no DPC removes the entry of
another one while its own is in the queue and not left to its cancel routine,
and no cleanup keeps an entry whose timer it has stopped, unless that is left
to its cancel routine. -/
theorem awaited_iff (events : List Event) :
    Always step Awaited start events ↔
      Guarded step LeavesAwaited start events := by
  refine
    @always_iff_guarded_of_step _ _ step Invariant _ _
      (fun _ _ _ invariant stepped => invariant_step invariant stepped)
      (fun _ _ _ invariant awaited stepped =>
        awaited_step_iff invariant awaited stepped) _ _ invariant_start ?_
  intro record member
  exact absurd member List.not_mem_nil

/-! ## The cancel routine and its entry -/

def TakenFound (system : System) : Prop :=
  ∀ irp, system.cancellations irp = .taken →
    ∃ record ∈ system.queue, record.ty.irp = some irp

/-- The kernel takes no cancel routine before the request has its entry, and
nobody else removes the entry of a request whose cancel routine was taken. -/
def KeepsTaken (system : System) : Event → Prop
  | .kernelCancel irp =>
      system.cancellations irp = .idle →
        (system.packets irp).fields.cancelRoutine = true →
          ∃ record ∈ system.queue, record.ty.irp = some irp
  | .removeFound box =>
      ∀ place irp record, system.phases box = .removing place irp →
        system.queue[place]? = some record →
          ¬ record.IsTaken system.cancellations
  | .cleanup file =>
      (system.files file).cleanup = .waiting →
        (system.files file).holders = [] →
          ∀ record ∈ system.queue,
            record.kept file system.phases = none →
              ¬ record.IsTaken system.cancellations
  | _ => True

section

variable {system next : System}

/-- Entries stay, or come behind. -/
theorem takenFound_of_queue
    (found : system.TakenFound)
    (cancellations : next.cancellations = system.cancellations)
    (queue : ∀ record ∈ system.queue, record ∈ next.queue) :
    next.TakenFound := by
  unfold TakenFound
  rw [cancellations]
  intro irp taken
  obtain ⟨record, member, based⟩ := found irp taken
  exact ⟨record, queue record member, based⟩

theorem takenFound_removal_iff
    {place : Nat} {record : NotifyRecord} {rest : List NotifyRecord}
    (invariant : system.Invariant) (found : system.TakenFound)
    (removal : Vec.swapRemove system.queue place = some (record, rest))
    (queue : next.queue = rest)
    (cancellations : next.cancellations = system.cancellations) :
    next.TakenFound ↔ ¬ record.IsTaken system.cancellations := by
  have perm := Vec.swapRemove_perm removal
  have member := perm.mem_iff.mpr List.mem_cons_self
  unfold TakenFound
  rw [queue, cancellations]
  constructor
  · rintro after ⟨irp, based, taken⟩
    obtain ⟨other, left, otherBased⟩ := after irp taken
    have otherMember := perm.mem_iff.mpr (List.mem_cons_of_mem record left)
    have equal :=
      invariant.one other otherMember record member irp otherBased based
    have absent := (nodup_removal invariant.nodup removal).1
    exact absent (equal ▸ List.mem_map_of_mem left)
  · intro untaken irp taken
    obtain ⟨other, otherMember, based⟩ := found irp taken
    rcases List.mem_cons.mp (perm.mem_iff.mp otherMember) with same | left
    · rw [same] at based
      exact absurd ⟨irp, based, taken⟩ untaken
    · exact ⟨other, left, based⟩

theorem takenFound_cleaned_iff
    {file : Address} (invariant : system.Invariant)
    (found : system.TakenFound) (cleaned : system.Cleaned file next) :
    next.TakenFound ↔
      ∀ record ∈ system.queue, record.kept file system.phases = none →
        ¬ record.IsTaken system.cancellations := by
  unfold TakenFound
  rw [congrArg Notifications.queue cleaned.notes,
    congrArg Notifications.cancellations cleaned.notes]
  constructor
  · rintro after record member dropped ⟨irp, based, taken⟩
    obtain ⟨left, leftMember, leftBased⟩ := after irp taken
    obtain ⟨before, earlier, kept⟩ := List.mem_filterMap.mp leftMember
    have equal :=
      invariant.one before earlier record member irp
        ((same_of_kept kept).irp.trans leftBased) based
    rw [eq_of_box invariant.nodup earlier member equal, dropped] at kept
    cases kept
  · intro untaken irp taken
    obtain ⟨record, member, based⟩ := found irp taken
    cases kept : record.kept file system.phases with
    | none =>
        exact absurd ⟨irp, based, taken⟩ (untaken record member kept)
    | some left =>
        exact
          ⟨left, List.mem_filterMap.mpr ⟨record, member, kept⟩,
            (same_of_kept kept).irp.symm.trans based⟩

/-- The cancel routine of one request moves on. -/
theorem takenFound_of_cancellation
    {irp : Address} {cancellation : Cancellation}
    (found : system.TakenFound)
    (cancellations :
      next.cancellations =
        Function.update system.cancellations irp cancellation)
    (moved : cancellation ≠ .taken)
    (queue :
      ∀ record ∈ system.queue, record.ty.irp ≠ some irp →
        record ∈ next.queue) :
    next.TakenFound := by
  unfold TakenFound
  rw [cancellations]
  intro other taken
  by_cases same : other = irp
  · rw [same, Function.update_self] at taken
    exact absurd taken moved
  · rw [Function.update_of_ne same] at taken
    obtain ⟨record, member, based⟩ := found other taken
    refine ⟨record, queue record member ?_, based⟩
    rw [based]
    exact fun equal => same (Option.some.inj equal)

theorem takenFound_step_iff
    {event : Event} (invariant : system.Invariant)
    (found : system.TakenFound)
    (stepped : system.step event = some next) :
    next.TakenFound ↔ system.KeepsTaken event := by
  cases effect_of_step invariant.nodup stepped with
  | @taken irp idle armed =>
      have here :
          Function.update system.cancellations irp .taken irp = .taken :=
        Function.update_self irp _ system.cancellations
      constructor
      · intro after _ _
        exact after irp here
      · intro keeps other taken
        by_cases same : other = irp
        · rw [same]
          exact keeps idle armed
        · have before :
              Function.update system.cancellations irp .taken other =
                .taken :=
            taken
          rw [Function.update_of_ne same] at before
          exact found other before
  | @removed box irp rest place record removing removal =>
      refine
        Iff.trans
          (takenFound_removal_iff invariant found removal rfl rfl) ?_
      have here := Vec.getElem?_of_swapRemove removal
      constructor
      · intro untaken _ _ _ otherRemoving otherHere
        rw [removing] at otherRemoving
        cases otherRemoving
        rw [here] at otherHere
        cases otherHere
        exact untaken
      · intro keeps
        exact keeps place irp record removing here
  | cleaned cleaned =>
      rw [takenFound_cleaned_iff invariant found cleaned]
      exact
        ⟨fun keeps _ _ => keeps, fun keeps =>
          keeps cleaned.waiting cleaned.nobody⟩
  | @signalled box event rest place record _ _ _ removal same =>
      refine iff_of_true ?_ trivial
      refine
        Iff.mpr (takenFound_removal_iff invariant found removal rfl rfl) ?_
      rintro ⟨irp, based, _⟩
      cases ty : record.ty with
      | irpBased other wrapper =>
          rw [ty] at same
          cases same
      | eventBased other =>
          rw [ty] at based
          cases based
  | @cancelled irp rest place record taken _ removal same =>
      refine iff_of_true ?_ trivial
      obtain ⟨_, cancellations⟩ :=
        Notifications.cancelTimer_rest system.toNotifications record.box
      have after :=
        congrArg
          (fun before => Function.update before irp
            (Cancellation.completing record.box)) cancellations
      refine
        takenFound_of_cancellation found after
          (fun same => Cancellation.noConfusion same)
          fun other member different => ?_
      rcases
          List.mem_cons.mp
            ((Vec.swapRemove_perm removal).mem_iff.mp member) with
        rfl | left
      · exact absurd same different
      · exact left
  | @outside box place irp removing beyond =>
      refine iff_of_true found ?_
      intro _ _ record otherRemoving here
      exact
        absurd here (nothing_of_outside removing beyond otherRemoving record)
  | marked _ unarmed =>
      refine iff_of_true found fun _ armed => ?_
      rw [unarmed] at armed
      cases armed
  | @pushedIrp irp box file wrapper dueTime middle _ _ calm =>
      refine iff_of_true ?_ trivial
      have cancellations :=
        congrArg Notifications.cancellations
          (pushIrp_notes calm box file dueTime)
      refine
        takenFound_of_queue found cancellations fun record member => ?_
      rw [pushIrp_queue calm]
      exact List.mem_append_left _ member
  | pushedEvent _ _ =>
      refine iff_of_true ?_ trivial
      exact
        takenFound_of_queue found rfl fun _ member =>
          List.mem_append_left _ member
  | @dropped irp box completing =>
      refine iff_of_true ?_ trivial
      exact
        takenFound_of_cancellation found rfl Cancellation.noConfusion
          fun _ member _ => member
  | pending _ =>
      refine iff_of_true ?_ trivial
      unfold TakenFound
      rw [release_notes]
      exact found
  | returned _ _ =>
      refine iff_of_true ?_ trivial
      unfold TakenFound
      rw [release_notes]
      exact found
  | entered _ _ | turnedAway _ _ | rejected _ | armed _ | referenced _
  | refused _ _ _ | expired _ | freedBox _ _ | missed _ _ | unset _ _ _ _
  | found _ _ _ _ | completed _ | unwrapped _ _ | waiting _
  | cleanedOne _ =>
      exact iff_of_true found trivial

end

/-- Along a run the entry of a request whose cancel routine was taken is in
the queue, and no cancel routine unwraps a place that it has not found, if and
only if the kernel takes none before the request has its entry, and no DPC and
no cleanup removes it before the cancel routine does. -/
theorem takenFound_iff (events : List Event) :
    Always step
        (fun system =>
          system.TakenFound ∧ system.fault ≠ some .unwrapNone)
        start events ↔
      Guarded step KeepsTaken start events := by
  refine
    @always_iff_guarded_of_step _ _ step Invariant _ _
      (fun _ _ _ invariant stepped => invariant_step invariant stepped)
      (fun system event next invariant before stepped => ?_) _ _
      invariant_start ?_
  · obtain ⟨found, _⟩ := before
    rw [← takenFound_step_iff invariant found stepped]
    refine ⟨And.left, fun after => ⟨after, fun fault => ?_⟩⟩
    cases cause_of_step invariant.nodup stepped fault with
    | @unwrapNone irp taken absent =>
        obtain ⟨record, member, based⟩ := found irp taken
        exact absent record member based
  · refine ⟨fun irp taken => ?_, fun fault => ?_⟩
    · cases taken
    · cases fault

end System

end EventDriver

end WinDrvUtils

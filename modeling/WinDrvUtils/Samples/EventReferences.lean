import WinDrvUtils.Library.Parties
import WinDrvUtils.Samples.EventInvariant

/-!
# The references on events

A request for an event takes a reference on it, and hands it over to the entry
that it queues. The DPC that takes the entry out releases the reference, and
so does the cleanup that drops it. `eventsHeld_iff` says exactly which runs
keep these accounts; the second section of a DPC takes an entry out by its
place, and releases nothing.
-/

namespace WinDrvUtils

namespace EventDriver

open StepSystem Parties

/-- The event that a request has referenced and not handed over. -/
def Call.event : Call → Option Address
  | .referenced _ event _ => some event
  | _ => none

def eventsOf (queue : List NotifyRecord) : List Address :=
  queue.filterMap fun record => record.ty.event

theorem eventsOf_cons (record : NotifyRecord) (rest : List NotifyRecord) :
    eventsOf (record :: rest) = record.ty.event.toList ++ eventsOf rest := by
  unfold eventsOf
  rw [List.filterMap_cons]
  cases record.ty.event <;> rfl

theorem eventsOf_removal
    {queue rest : List NotifyRecord} {place : Nat} {record : NotifyRecord}
    (removal : Vec.swapRemove queue place = some (record, rest)) :
    (eventsOf queue).Perm (record.ty.event.toList ++ eventsOf rest) := by
  rw [← eventsOf_cons]
  exact (Vec.swapRemove_perm removal).filterMap _

/-- An entry is for a request or for an event. -/
theorem NotifyType.event_of_irp
    {ty : NotifyType} {irp : Address} (based : ty.irp = some irp) :
    ty.event = none := by
  cases ty with
  | irpBased _ _ => rfl
  | eventBased _ => cases based

/-- Cleanup releases the event of each entry that it drops. -/
theorem eventsOf_cleaned
    (file : Address) (phases : Address → Phase)
    (queue : List NotifyRecord) :
    (eventsOf queue).Perm
      (queue.filterMap (NotifyRecord.dropped file phases) ++
        eventsOf (queue.filterMap (NotifyRecord.kept file phases))) := by
  induction queue with
  | nil => exact List.Perm.nil
  | cons record rest inductionHypothesis =>
      rw [eventsOf_cons, List.filterMap_cons, List.filterMap_cons]
      by_cases hit : record.isHit file phases = true
      · cases based : record.ty with
        | irpBased irp wrapper =>
            have dropped : record.dropped file phases = none := by
              rw [NotifyRecord.dropped, if_pos hit, based]
              rfl
            rw [dropped]
            cases kept : record.kept file phases with
            | none => exact inductionHypothesis
            | some left =>
                have event : left.ty.event = none := by
                  rw [← (same_of_kept kept).event, based]
                  rfl
                dsimp only
                rw [eventsOf_cons, event]
                exact inductionHypothesis
        | eventBased event =>
            have dropped : record.dropped file phases = some event := by
              rw [NotifyRecord.dropped, if_pos hit, based]
              rfl
            have kept : record.kept file phases = none := by
              rw [NotifyRecord.kept, if_pos hit, based]
            rw [dropped, kept]
            exact inductionHypothesis.cons event
      · have dropped : record.dropped file phases = none := by
          rw [NotifyRecord.dropped, if_neg hit]
        have kept : record.kept file phases = some record := by
          rw [NotifyRecord.kept, if_neg hit]
        rw [dropped, kept]
        dsimp only
        rw [eventsOf_cons]
        refine (inductionHypothesis.append_left _).trans ?_
        rw [← List.append_assoc, ← List.append_assoc]
        exact List.perm_append_comm.append_right _

namespace System

/-- The references on events are those of the queue, and of the requests that
have not queued their entry; none was released that was not held. -/
def EventsHeld (system : System) : Prop :=
  ∃ holdings, Holdings Call.event system.calls holdings ∧
    system.references.HeldBy
      (eventsOf system.queue ++ holdings.map Prod.snd)

/-- The second section of a DPC takes out the entry of a request. -/
def SparesEvents (system : System) : Event → Prop
  | .removeFound box =>
      ∀ place irp record, system.phases box = .removing place irp →
        system.queue[place]? = some record → record.ty.event = none
  | _ => True

section

variable {system next : System}

theorem eventsHeld_of_same
    (held : system.EventsHeld) (calls : next.calls = system.calls)
    (references : next.references = system.references)
    (queue : (eventsOf system.queue).Perm (eventsOf next.queue)) :
    next.EventsHeld := by
  obtain ⟨holdings, listed, owned⟩ := held
  unfold EventsHeld
  rw [calls, references]
  exact ⟨holdings, listed, owned.perm (queue.append_right _)⟩

/-- A call moves on, and has no event before or after. -/
theorem eventsHeld_of_call
    {irp : Address} {call : Call} (held : system.EventsHeld)
    (calls : next.calls = Function.update system.calls irp call)
    (before : (system.calls irp).event = none) (after : call.event = none)
    (references : next.references = system.references)
    (queue : (eventsOf system.queue).Perm (eventsOf next.queue)) :
    next.EventsHeld := by
  obtain ⟨holdings, listed, owned⟩ := held
  unfold EventsHeld
  rw [calls, references]
  exact
    ⟨holdings, listed.keep (after.trans before.symm),
      owned.perm (queue.append_right _)⟩

/-- Two lists of the same holdings. -/
theorem holdings_perm
    {calls : Address → Call} {holdings others : List (Address × Address)}
    (listed : Holdings Call.event calls holdings)
    (again : Holdings Call.event calls others) : holdings.Perm others := by
  refine (List.perm_ext_iff_of_nodup listed.nodup again.nodup).mpr ?_
  rintro ⟨party, token⟩
  rw [listed.mem_iff, again.mem_iff]

theorem eventsHeld_removed_iff
    {place : Nat} {record : NotifyRecord} {rest : List NotifyRecord}
    (held : system.EventsHeld)
    (removal : Vec.swapRemove system.queue place = some (record, rest))
    (calls : next.calls = system.calls)
    (references : next.references = system.references)
    (queue : next.queue = rest) :
    next.EventsHeld ↔ record.ty.event = none := by
  have perm := eventsOf_removal removal
  obtain ⟨holdings, listed, owned⟩ := held
  unfold EventsHeld
  rw [calls, references, queue]
  constructor
  · rintro ⟨others, again, still⟩
    have same := (holdings_perm listed again).map Prod.snd
    have before := owned.perm (perm.append_right _)
    rw [List.append_assoc] at before
    have after := still.perm (same.symm.append_left _)
    have nothing := before.iff_nil_of_append.mp after
    exact Option.toList_eq_nil_iff.mp nothing
  · intro nothing
    rw [nothing] at perm
    exact ⟨holdings, listed, owned.perm (perm.append_right _)⟩

theorem eventsHeld_step_iff
    {event : Event} (invariant : system.Invariant)
    (held : system.EventsHeld)
    (stepped : system.step event = some next) :
    next.EventsHeld ↔ system.SparesEvents event := by
  cases effect_of_step invariant.nodup stepped with
  | @removed box irp rest place record removing removal =>
      refine
        Iff.trans (eventsHeld_removed_iff held removal rfl rfl rfl) ?_
      have here := Vec.getElem?_of_swapRemove removal
      constructor
      · intro nothing _ _ _ otherRemoving otherHere
        rw [removing] at otherRemoving
        cases otherRemoving
        rw [here] at otherHere
        cases otherHere
        exact nothing
      · intro spares
        exact spares place irp record removing here
  | @outside box place irp removing beyond =>
      refine iff_of_true (eventsHeld_of_same held rfl rfl (.refl _)) ?_
      intro _ _ record otherRemoving here
      exact
        absurd here (nothing_of_outside removing beyond otherRemoving record)
  | @referenced irp answer file request dueTime entered =>
      refine iff_of_true ?_ trivial
      obtain ⟨holdings, listed, owned⟩ := held
      have nothing : (system.calls irp).event = none := by
        rw [entered]
        rfl
      exact
        ⟨_, listed.gain nothing rfl,
          (owned.issue answer.object).perm List.perm_middle.symm⟩
  | @pushedEvent irp box file event dueTime _ referenced =>
      refine iff_of_true ?_ trivial
      obtain ⟨holdings, listed, owned⟩ := held
      have holds : (system.calls irp).event = some event := by
        rw [referenced]
        rfl
      refine ⟨_, listed.lose holds rfl, owned.perm ?_⟩
      have member := (listed.mem_iff irp event).mpr holds
      have perm := (List.perm_cons_erase member).map Prod.snd
      have events :
          eventsOf (system.queue ++ [⟨box, file, .eventBased event⟩]) =
            eventsOf system.queue ++ [event] :=
        List.filterMap_append
      refine (perm.append_left _).trans ?_
      show
        (eventsOf system.queue ++ event :: _).Perm
          (eventsOf (system.queue ++ [_]) ++ _)
      rw [events, List.append_assoc]
      exact .refl _
  | @signalled box event rest place record _ _ _ removal same =>
      refine iff_of_true ?_ trivial
      obtain ⟨holdings, listed, owned⟩ := held
      have perm := eventsOf_removal removal
      rw [same] at perm
      exact
        ⟨holdings, listed,
          owned.release_of_perm (perm.append_right _)⟩
  | @cancelled irp rest place record _ _ removal same =>
      refine iff_of_true ?_ trivial
      have perm := eventsOf_removal removal
      rw [NotifyType.event_of_irp same] at perm
      have references :
          (system.toNotifications.cancelTimer record.box).2.references =
            system.references := by
        unfold Notifications.cancelTimer
        split <;> rfl
      exact eventsHeld_of_same held rfl references perm
  | @cleaned file next cleaned =>
      refine iff_of_true ?_ trivial
      obtain ⟨holdings, listed, owned⟩ := held
      have perm :=
        (eventsOf_cleaned file system.phases system.queue).append_right
          (holdings.map Prod.snd)
      rw [List.append_assoc] at perm
      unfold EventsHeld
      rw [cleaned.calls, congrArg Notifications.queue cleaned.notes,
        congrArg Notifications.references cleaned.notes]
      exact ⟨holdings, listed, (owned.perm perm).foldl_release⟩
  | @pushedIrp irp box file wrapper dueTime middle _ armed calm =>
      refine iff_of_true ?_ trivial
      have calls := pushIrp_calls calm box file dueTime
      have events :
          eventsOf
              (system.queue ++ [⟨box, file, .irpBased irp wrapper⟩]) =
            eventsOf system.queue ++ [] :=
        List.filterMap_append
      have references :=
        congrArg Notifications.references
          (pushIrp_notes calm box file dueTime)
      refine
        eventsHeld_of_call held calls (by rw [armed]; rfl) rfl references ?_
      rw [pushIrp_queue calm, events, List.append_nil]
  | @entered irp file request idle _ =>
      refine iff_of_true ?_ trivial
      exact
        eventsHeld_of_call held rfl (by rw [idle]; rfl) rfl rfl (.refl _)
  | turnedAway idle _ =>
      refine iff_of_true ?_ trivial
      exact
        eventsHeld_of_call held rfl (by rw [idle]; rfl) rfl rfl (.refl _)
  | rejected entered =>
      refine iff_of_true ?_ trivial
      exact
        eventsHeld_of_call held rfl (by rw [entered]; rfl) rfl rfl (.refl _)
  | armed entered =>
      refine iff_of_true ?_ trivial
      exact
        eventsHeld_of_call held rfl (by rw [entered]; rfl) rfl rfl (.refl _)
  | refused armed _ _ =>
      refine iff_of_true ?_ trivial
      exact
        eventsHeld_of_call held rfl (by rw [armed]; rfl) rfl rfl (.refl _)
  | @pending irp file returning =>
      refine iff_of_true ?_ trivial
      obtain ⟨notes, calls, _⟩ :=
        release_frame (system.setCall irp .returned) irp file
      refine
        eventsHeld_of_call held calls (by rw [returning]; rfl) rfl
          (congrArg Notifications.references notes) ?_
      rw [congrArg Notifications.queue notes]
      exact .refl _
  | @returned irp file status returning _ =>
      refine iff_of_true ?_ trivial
      obtain ⟨notes, calls, _⟩ :=
        release_frame
          ((system.complete irp
            (WduIoStatus.newWithStatus status)).setCall irp .returned)
          irp file
      refine
        eventsHeld_of_call held calls (by rw [returning]; rfl) rfl
          (congrArg Notifications.references notes) ?_
      rw [congrArg Notifications.queue notes]
      exact .refl _
  | expired _ | freedBox _ _ | missed _ _ | unset _ _ _ _ | found _ _ _ _
  | completed _ | marked _ _ | taken _ _ | unwrapped _ _ | dropped _
  | waiting _ | cleanedOne _ =>
      exact iff_of_true (eventsHeld_of_same held rfl rfl (.refl _)) trivial

end

/-- Along a run the references on events are those that the queue and the
requests under way account for, with none lost and none released twice, if and
only if no DPC takes out the entry of an event by the place that it
remembers. -/
theorem eventsHeld_iff (events : List Event) :
    Always step EventsHeld start events ↔
      Guarded step SparesEvents start events := by
  refine
    @always_iff_guarded_of_step _ _ step Invariant _ _
      (fun _ _ _ invariant stepped => invariant_step invariant stepped)
      (fun _ _ _ invariant held stepped =>
        eventsHeld_step_iff invariant held stepped) _ _ invariant_start ?_
  exact ⟨[], Holdings.nil fun _ => rfl, Ledger.heldBy_empty⟩

end System

end EventDriver

end WinDrvUtils

import WinDrvUtils.Samples.EventInvariant

/-!
# The place of an entry between two sections

The DPC of a timer looks its entry up, releases the lock to complete the
request, and then removes whatever is at the place that it had found. Entries
that are pushed in between come behind. A removal moves the last entry of the
queue to the place that it frees, and cleanup moves up all that is left.
-/

namespace WinDrvUtils

namespace EventDriver

open StepSystem

/-- The place that a DPC remembers over the release of the lock. -/
def Phase.place : Phase → Option Nat
  | .completing place _ => some place
  | .removing place _ => some place
  | _ => none

namespace System

/-- The DPC of each box is going to remove the entry of its own box. -/
def PlacesKept (system : System) : Prop :=
  ∀ box place, (system.phases box).place = some place →
    system.toNotifications.boxes[place]? = some box

/-- The removal of the entry at a place frees no other place that a DPC
remembers, and moves no such entry. -/
def Spares (system : System) (own : Option Address) (place : Nat) : Prop :=
  ∀ box remembered, (system.phases box).place = some remembered →
    some box ≠ own →
      remembered ≠ place ∧ remembered + 1 ≠ system.queue.length

/-- What is removed is spared by the places that DPCs remember; cleanup keeps
the entries there, and all that come before them. -/
def InPlace (system : System) : Event → Prop
  | .locate box =>
      ∀ event place, system.phases box = .queued (.eventBased event) →
        (box ∈ system.toNotifications.boxes ∨ box ∈ system.detached) →
          system.toNotifications.findData (.eventBased event) = some place →
            system.Spares (some box) place
  | .removeFound box =>
      ∀ place irp, system.phases box = .removing place irp →
        system.Spares (some box) place
  | .cancelRoutine irp =>
      ∀ place, system.cancellations irp = .taken →
        system.toNotifications.findIrp irp = some place →
          system.Spares none place
  | .cleanup file =>
      (system.files file).cleanup = .waiting →
        (system.files file).holders = [] →
          ∀ box place, (system.phases box).place = some place →
            ∀ record ∈ system.queue.take (place + 1),
              (record.kept file system.phases).isSome = true
  | _ => True

/-! ## One step -/

section

variable {system next : System}

/-- No place is remembered anew. -/
theorem placesKept_of_phases
    (places : system.PlacesKept)
    (boxes : next.toNotifications.boxes = system.toNotifications.boxes)
    (phases :
      ∀ box place, (next.phases box).place = some place →
        (system.phases box).place = some place) :
    next.PlacesKept := by
  intro box place remembered
  rw [boxes]
  exact places box place (phases box place remembered)

theorem place_update
    {phases : Address → Phase} {box : Address} {phase : Phase}
    (same : ∀ place, phase.place = some place →
      (phases box).place = some place) :
    ∀ other place,
      (Function.update phases box phase other).place = some place →
        (phases other).place = some place := by
  intro other place remembered
  by_cases equal : other = box
  · subst equal
    rw [Function.update_self] at remembered
    exact same place remembered
  · rw [Function.update_of_ne equal] at remembered
    exact remembered

theorem place_cancelTimer (notes : Notifications) (box other : Address) :
    ((notes.cancelTimer box).2.phases other).place =
      (notes.phases other).place := by
  unfold Notifications.cancelTimer
  split
  · next ty dueTime set =>
    unfold Notifications.setPhase
    by_cases equal : other = box
    · subst equal
      simp only [Function.update_self, set]
      rfl
    · simp only [Function.update_of_ne equal]
  · rfl

theorem PlacesKept.push
    {notes : Notifications} {box file : Address} {ty : NotifyType}
    {dueTime : Int64} (places : system.PlacesKept)
    (same : system.toNotifications = notes)
    (pushed :
      next.toNotifications = notes.push box file ty dueTime) :
    next.PlacesKept := by
  subst same
  intro other place remembered
  rw [pushed, boxes_push]
  have before : (system.phases other).place = some place := by
    rw [congrArg Notifications.phases pushed] at remembered
    refine place_update (fun _ none => ?_) other place remembered
    cases none
  have here := places other place before
  obtain ⟨inside, _⟩ := List.getElem?_eq_some_iff.mp here
  rw [List.getElem?_append_left inside]
  exact here

/-- After the removal of an entry, every other DPC finds its own at its place
exactly when the removal has spared them. -/
theorem placesKept_removal_iff
    {own : Option Address} {place : Nat} {record : NotifyRecord}
    {rest : List NotifyRecord}
    (places : system.PlacesKept)
    (nodup : system.toNotifications.boxes.Nodup)
    (removal : Vec.swapRemove system.queue place = some (record, rest))
    (queue : next.queue = rest)
    (phases :
      ∀ box remembered,
        (next.phases box).place = some remembered ↔
          (system.phases box).place = some remembered ∧ some box ≠ own) :
    next.PlacesKept ↔ system.Spares own place := by
  have mapped := Vec.swapRemove_map NotifyRecord.box removal
  have boxes : next.toNotifications.boxes = rest.map NotifyRecord.box := by
    unfold Notifications.boxes
    rw [queue]
  have length :
      (system.queue.map NotifyRecord.box).length = system.queue.length :=
    List.length_map _
  constructor
  · intro kept box remembered before other
    have after := kept box remembered ((phases _ _).mpr ⟨before, other⟩)
    rw [boxes] at after
    have spared :=
      (Vec.swapRemove_keeps_iff mapped nodup
        (places box remembered before)).mp after
    rw [length] at spared
    exact spared
  · intro spares box remembered after
    obtain ⟨before, other⟩ := (phases _ _).mp after
    rw [boxes]
    refine
      (Vec.swapRemove_keeps_iff mapped nodup
        (places box remembered before)).mpr ?_
    rw [length]
    exact spares box remembered before other

/-- A DPC that is through remembers nothing. -/
theorem place_finished (phases : Address → Phase) (box : Address) :
    ∀ other remembered,
      (Function.update phases box .finished other).place =
          some remembered ↔
        (phases other).place = some remembered ∧ some other ≠ some box := by
  intro other remembered
  rw [Ne, Option.some.injEq]
  by_cases equal : other = box
  · subst equal
    rw [Function.update_self]
    exact iff_of_false (fun none => nomatch none) (fun both => both.2 rfl)
  · rw [Function.update_of_ne equal]
    exact (and_iff_left equal).symm

theorem placesKept_cleaned_iff
    {file : Address} (places : system.PlacesKept)
    (nodup : system.toNotifications.boxes.Nodup)
    (cleaned : system.Cleaned file next) :
    next.PlacesKept ↔
      ∀ box place, (system.phases box).place = some place →
        ∀ record ∈ system.queue.take (place + 1),
          (record.kept file system.phases).isSome = true := by
  refine forall₂_congr fun box place => ?_
  rw [congrArg Notifications.phases cleaned.notes,
    part_afterCleanup Phase.place (fun _ _ => rfl),
    congrArg Notifications.boxes cleaned.notes]
  refine forall_congr' fun remembered => ?_
  have here := places box place remembered
  unfold Notifications.boxes at here
  rw [List.getElem?_map] at here
  obtain ⟨record, there, rfl⟩ := Option.map_eq_some_iff.mp here
  refine Vec.filterMap_keeps_iff ?_ nodup there
  intro other left kept
  exact (same_of_kept kept).box.symm

/-- In a state where every DPC finds its own entry, an event keeps that so
exactly when it happens in place. -/
theorem placesKept_step_iff
    {event : Event} (invariant : system.Invariant)
    (places : system.PlacesKept)
    (stepped : system.step event = some next) :
    next.PlacesKept ↔ system.InPlace event := by
  have nodup := invariant.nodup
  cases effect_of_step nodup stepped with
  | @signalled box event rest place record queued alive found removal _ =>
      refine
        (placesKept_removal_iff places nodup removal rfl
          (place_finished system.phases box)).trans ?_
      constructor
      · intro spares _ _ otherQueued _ otherFound
        rw [queued] at otherQueued
        cases otherQueued
        rw [found] at otherFound
        cases otherFound
        exact spares
      · intro inPlace
        exact inPlace event place queued alive found
  | @removed box irp rest place record removing removal =>
      refine
        (placesKept_removal_iff places nodup removal rfl
          (place_finished system.phases box)).trans ?_
      constructor
      · intro spares _ _ otherRemoving
        rw [removing] at otherRemoving
        cases otherRemoving
        exact spares
      · intro inPlace
        exact inPlace place irp removing
  | @cancelled irp rest place record taken found removal _ =>
      have phases : ∀ box remembered,
          ((system.toNotifications.cancelTimer record.box).2.phases
                box).place = some remembered ↔
            (system.phases box).place = some remembered ∧
              some box ≠ none := by
        intro box remembered
        rw [place_cancelTimer]
        exact (and_iff_left (Option.some_ne_none box)).symm
      refine
        (placesKept_removal_iff places nodup removal rfl phases).trans ?_
      constructor
      · intro spares _ _ otherFound
        rw [found] at otherFound
        cases otherFound
        exact spares
      · intro inPlace
        exact inPlace place taken found
  | cleaned cleaned =>
      rw [placesKept_cleaned_iff places nodup cleaned]
      exact
        ⟨fun kept _ _ => kept, fun inPlace =>
          inPlace cleaned.waiting cleaned.nobody⟩
  | @pushedIrp irp box file wrapper dueTime middle _ _ calm =>
      exact iff_of_true (places.push (middle_notes calm).symm rfl) trivial
  | pushedEvent _ _ => exact iff_of_true (places.push rfl rfl) trivial
  | @freedBox box ty queued freed =>
      refine iff_of_true places ?_
      intro _ _ _ alive
      exact absurd alive freed
  | @missed box ty queued absent =>
      refine
        iff_of_true (placesKept_of_phases places rfl (place_update ?_)) ?_
      · intro _ none
        cases none
      · intro _ _ otherQueued _ found
        rw [queued] at otherQueued
        cases otherQueued
        rw [absent] at found
        cases found
  | @unset box irp wrapper place record queued _ _ _ =>
      refine
        iff_of_true (placesKept_of_phases places rfl (place_update ?_)) ?_
      · intro _ none
        cases none
      · intro _ _ otherQueued
        rw [queued] at otherQueued
        cases otherQueued
  | @found box irp wrapper place record queued here based _ =>
      refine iff_of_true ?_ ?_
      · intro other remembered found
        by_cases same : other = box
        · subst same
          have placed :
              (Function.update system.phases other
                (.completing place irp) other).place =
                  some remembered := found
          rw [Function.update_self] at placed
          cases placed
          have own : record.box = other :=
            invariant.paired other irp (by rw [queued]; rfl) record
              (Notifications.mem_of_place here) based
          show (system.queue.map NotifyRecord.box)[place]? = some other
          rw [List.getElem?_map, here, ← own]
          rfl
        · have placed :
              (Function.update system.phases box
                (.completing place irp) other).place =
                  some remembered := found
          rw [Function.update_of_ne same] at placed
          exact places other remembered placed
      · intro _ _ otherQueued
        rw [queued] at otherQueued
        cases otherQueued
  | @outside box place irp removing beyond =>
      have here := places box place (by rw [removing]; rfl)
      obtain ⟨inside, _⟩ := List.getElem?_eq_some_iff.mp here
      rw [Notifications.boxes, List.length_map] at inside
      obtain ⟨_, _, removal⟩ := Vec.swapRemove_isSome inside
      rw [beyond] at removal
      cases removal
  | @unwrapped irp taken absent =>
      refine iff_of_true places ?_
      intro place _ found
      rw [Notifications.findIrp_eq_none_iff.mpr absent] at found
      cases found
  | @expired box ty dueTime set =>
      refine
        iff_of_true (placesKept_of_phases places rfl (place_update ?_))
          trivial
      intro _ none
      cases none
  | @completed box place irp completing =>
      refine
        iff_of_true (placesKept_of_phases places rfl (place_update ?_))
          trivial
      intro remembered same
      show (system.phases box).place = some remembered
      rw [completing]
      exact same
  | pending _ =>
      refine iff_of_true ?_ trivial
      exact
        placesKept_of_phases places (by rw [release_notes]; rfl) fun _ _ => by
          rw [release_notes]; exact id
  | returned _ _ =>
      refine iff_of_true ?_ trivial
      exact
        placesKept_of_phases places (by rw [release_notes]; rfl) fun _ _ => by
          rw [release_notes]; exact id
  | entered _ _ | turnedAway _ _ | rejected _ | armed _ | referenced _
  | refused _ _ _ | marked _ _ | taken _ _ | dropped _ | waiting _
  | cleanedOne _ =>
      exact iff_of_true places trivial

end

/-- In every state of a run each DPC that has released the lock is going to
remove its own entry, and no removal is beyond the end, if and only if every
removal has spared the places that other DPCs remembered. -/
theorem placesKept_iff (events : List Event) :
    Always step
        (fun system =>
          system.PlacesKept ∧ system.fault ≠ some .swapRemoveIndex)
        start events ↔
      Guarded step InPlace start events := by
  refine
    @always_iff_guarded_of_step _ _ step Invariant _ _
      (fun _ _ _ invariant stepped => invariant_step invariant stepped)
      (fun system event next invariant before stepped => ?_) _ _
      invariant_start ?_
  · obtain ⟨places, _⟩ := before
    rw [← placesKept_step_iff invariant places stepped]
    refine ⟨And.left, fun after => ⟨after, fun fault => ?_⟩⟩
    cases cause_of_step invariant.nodup stepped fault with
    | @swapRemoveIndex box irp place removing beyond =>
        have here := places box place (by rw [removing]; rfl)
        have inside : place < system.queue.length := by
          obtain ⟨inside, _⟩ := List.getElem?_eq_some_iff.mp here
          simpa [Notifications.boxes] using inside
        obtain ⟨_, _, removal⟩ := Vec.swapRemove_isSome inside
        rw [beyond] at removal
        cases removal
  · refine ⟨fun _ _ remembered => ?_, fun fault => ?_⟩
    · cases remembered
    · cases fault

end System

end EventDriver

end WinDrvUtils

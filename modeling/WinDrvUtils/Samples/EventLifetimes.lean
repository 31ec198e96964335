import WinDrvUtils.Samples.EventInvariant

/-!
# Boxes and their timers

The timer and the DPC of a notification lie in the box of its record, so the
record must not be dropped while either is active. `boxesAlive_iff` says
exactly which removals of a run keep that.

Cleanup asks for the timers of other file objects, and stops them; it never
asks for those of its own, whose event records it drops.
-/

namespace WinDrvUtils

namespace EventDriver

open StepSystem

/-- The timer is set, or the DPC is queued or running. -/
def Phase.isActive : Phase → Bool
  | .idle => false
  | .finished => false
  | _ => true

namespace Notifications

/-- The box is in the queue, or a cancel routine has yet to drop it. -/
def IsAlive (notes : Notifications) (box : Address) : Prop :=
  box ∈ notes.boxes ∨ box ∈ notes.detached

/-- The boxes of the queue and those that cancel routines hold. -/
structure Detachment (notes : Notifications) : Prop where
  apart : (notes.boxes ++ notes.detached).Nodup
  held :
    ∀ irp box, notes.cancellations irp = .completing box →
      box ∈ notes.detached
  distinct :
    ∀ irp other box, notes.cancellations irp = .completing box →
      notes.cancellations other = .completing box → irp = other

namespace Detachment

variable {notes : Notifications}

theorem nodup (detachment : notes.Detachment) : notes.boxes.Nodup :=
  (List.nodup_append.mp detachment.apart).1

theorem not_both
    (detachment : notes.Detachment) {box : Address}
    (queued : box ∈ notes.boxes) : box ∉ notes.detached :=
  fun detached =>
    (List.nodup_append.mp detachment.apart).2.2 box queued box detached rfl

/-- Some boxes leave the queue. -/
theorem sublist
    {next : Notifications} (detachment : notes.Detachment)
    (boxes : next.boxes.Subperm notes.boxes)
    (detached : next.detached = notes.detached)
    (cancellations : next.cancellations = notes.cancellations) :
    next.Detachment where
  apart := by
    rw [detached]
    have smaller :
        (next.boxes ++ notes.detached).Subperm
          (notes.boxes ++ notes.detached) :=
      (List.subperm_append_right notes.detached).mpr boxes
    obtain ⟨middle, perm, sublist⟩ := smaller
    exact perm.nodup_iff.mp (detachment.apart.sublist sublist)
  held := by
    rw [cancellations, detached]
    exact detachment.held
  distinct := by
    rw [cancellations]
    exact detachment.distinct

theorem same
    {next : Notifications} (detachment : notes.Detachment)
    (queue : next.queue = notes.queue)
    (detached : next.detached = notes.detached)
    (cancellations : next.cancellations = notes.cancellations) :
    next.Detachment := by
  refine detachment.sublist ?_ detached cancellations
  unfold boxes
  rw [queue]

theorem removal
    {next : Notifications} (detachment : notes.Detachment) {place : Nat}
    {record : NotifyRecord} {rest : List NotifyRecord}
    (removal : Vec.swapRemove notes.queue place = some (record, rest))
    (queue : next.queue = rest)
    (detached : next.detached = notes.detached)
    (cancellations : next.cancellations = notes.cancellations) :
    next.Detachment := by
  refine detachment.sublist ?_ detached cancellations
  have exposed := System.boxes_of_swapRemove removal
  rw [boxes, queue]
  exact
    ((List.sublist_cons_self record.box _).subperm).trans
      exposed.symm.subperm

theorem push
    {box file : Address} {ty : NotifyType} {dueTime : Int64}
    (detachment : notes.Detachment) (free : notes.isFree box = true) :
    (notes.push box file ty dueTime).Detachment where
  apart := by
    obtain ⟨_, notQueued, notDetached⟩ := System.isFree_iff.mp free
    rw [System.boxes_push]
    have moved :
        (notes.boxes ++ [box] ++ notes.detached).Perm
          (box :: (notes.boxes ++ notes.detached)) := by
      rw [List.append_assoc]
      exact List.perm_middle
    refine moved.nodup_iff.mpr (List.nodup_cons.mpr ⟨?_, detachment.apart⟩)
    rw [List.mem_append, not_or]
    exact ⟨notQueued, notDetached⟩
  held := detachment.held
  distinct := detachment.distinct

/-- The kernel takes the cancel routine of a request. -/
theorem take
    {irp : Address} {cancellation : Cancellation}
    (detachment : notes.Detachment)
    (early : ∀ box, cancellation ≠ .completing box) :
    Detachment { notes with
      cancellations :=
        Function.update notes.cancellations irp cancellation } where
  apart := detachment.apart
  held other box completing := by
    by_cases same : other = irp
    · subst same
      simp only [Function.update_self] at completing
      exact absurd completing (early box)
    · simp only [Function.update_of_ne same] at completing
      exact detachment.held other box completing
  distinct first second box one two := by
    by_cases same : first = irp
    · subst same
      simp only [Function.update_self] at one
      exact absurd one (early box)
    · by_cases other : second = irp
      · subst other
        simp only [Function.update_self] at two
        exact absurd two (early box)
      · simp only [Function.update_of_ne same] at one
        simp only [Function.update_of_ne other] at two
        exact detachment.distinct first second box one two

/-- A cancel routine takes the entry of its request out. -/
theorem detach
    {next : Notifications} (detachment : notes.Detachment) {place : Nat}
    {irp : Address} {record : NotifyRecord} {rest : List NotifyRecord}
    (removal : Vec.swapRemove notes.queue place = some (record, rest))
    (queue : next.queue = rest)
    (detached : next.detached = record.box :: notes.detached)
    (cancellations :
      next.cancellations =
        Function.update notes.cancellations irp
          (.completing record.box)) :
    next.Detachment where
  apart := by
    rw [boxes, queue, detached]
    have exposed :=
      (System.boxes_of_swapRemove removal).append_right notes.detached
    exact
      (exposed.trans List.perm_middle.symm).nodup_iff.mp detachment.apart
  held other box completing := by
    rw [cancellations] at completing
    rw [detached]
    by_cases same : other = irp
    · subst same
      rw [Function.update_self] at completing
      cases completing
      exact List.mem_cons_self
    · rw [Function.update_of_ne same] at completing
      exact List.mem_cons_of_mem _ (detachment.held other box completing)
  distinct first second box one two := by
    rw [cancellations] at one two
    have queued : record.box ∈ notes.boxes :=
      (System.boxes_of_swapRemove removal).mem_iff.mpr List.mem_cons_self
    have notHeld : ∀ other,
        notes.cancellations other ≠ .completing record.box :=
      fun other completing =>
        detachment.not_both queued
          (detachment.held other record.box completing)
    by_cases same : first = irp
    · by_cases other : second = irp
      · rw [same, other]
      · rw [same, Function.update_self] at one
        rw [Function.update_of_ne other] at two
        cases one
        exact absurd two (notHeld second)
    · rw [Function.update_of_ne same] at one
      by_cases other : second = irp
      · rw [other, Function.update_self] at two
        cases two
        exact absurd one (notHeld first)
      · rw [Function.update_of_ne other] at two
        exact detachment.distinct first second box one two

/-- A cancel routine drops what it holds. -/
theorem drop
    {next : Notifications} (detachment : notes.Detachment)
    {irp box : Address}
    (completing : notes.cancellations irp = .completing box)
    (queue : next.queue = notes.queue)
    (detached : next.detached = notes.detached.erase box)
    (cancellations :
      next.cancellations =
        Function.update notes.cancellations irp .idle) :
    next.Detachment where
  apart := by
    rw [boxes, queue, detached]
    exact
      detachment.apart.sublist
        ((List.Sublist.refl _).append List.erase_sublist)
  held other dropped still := by
    rw [cancellations] at still
    rw [detached]
    have different : other ≠ irp := by
      intro same
      rw [same, Function.update_self] at still
      cases still
    rw [Function.update_of_ne different] at still
    have apart : dropped ≠ box := by
      intro same
      subst same
      exact different (detachment.distinct other irp dropped still completing)
    exact
      (List.mem_erase_of_ne apart).mpr (detachment.held other dropped still)
  distinct first second dropped one two := by
    rw [cancellations] at one two
    by_cases same : first = irp
    · rw [same, Function.update_self] at one
      cases one
    · by_cases other : second = irp
      · rw [other, Function.update_self] at two
        cases two
      · rw [Function.update_of_ne same] at one
        rw [Function.update_of_ne other] at two
        exact detachment.distinct first second dropped one two

end Detachment

end Notifications

namespace System

theorem detachment_step
    {system next : System} {event : Event}
    (detachment : system.toNotifications.Detachment)
    (stepped : system.step event = some next) :
    next.toNotifications.Detachment := by
  cases effect_of_step detachment.nodup stepped with
  | @pushedIrp irp box file wrapper dueTime middle free _ calm =>
      have same := middle_notes calm
      show (middle.toNotifications.push box file _ dueTime).Detachment
      rw [same]
      exact detachment.push free
  | pushedEvent free _ => exact detachment.push free
  | signalled _ _ _ removal _ => exact detachment.removal removal rfl rfl rfl
  | removed _ removal => exact detachment.removal removal rfl rfl rfl
  | @cancelled irp rest place record _ _ removal _ =>
      obtain ⟨detached, cancellations⟩ :=
        Notifications.cancelTimer_rest system.toNotifications record.box
      have after :=
        congrArg
          (fun before => Function.update before irp
            (Cancellation.completing record.box)) cancellations
      exact
        detachment.detach removal rfl
          (congrArg (List.cons record.box) detached) after
  | dropped completing => exact detachment.drop completing rfl rfl rfl
  | taken _ _ =>
      exact detachment.take fun _ same => Cancellation.noConfusion same
  | cleaned cleaned =>
      rw [cleaned.notes]
      exact
        detachment.sublist (boxes_afterCleanup _ _).subperm rfl rfl
  | pending _ => rwa [release_notes]
  | returned _ _ => rwa [release_notes]
  | entered _ _ | turnedAway _ _ | rejected _ | armed _ | referenced _
  | refused _ _ _ | expired _ | freedBox _ _ | missed _ _ | unset _ _ _ _
  | found _ _ _ _ | completed _ | outside _ _ | marked _ _
  | unwrapped _ _ | waiting _ | cleanedOne _ =>
      exact detachment.same rfl rfl rfl

/-! ## Boxes -/

/-- No active timer and no active DPC lies in a box that was dropped, and no
DPC has read one. -/
def BoxesAlive (system : System) : Prop :=
  (∀ box, (system.phases box).isActive = true →
      system.toNotifications.IsAlive box) ∧
    system.fault ≠ some .freedBox

/-- A record that is dropped is that of the DPC which drops it, or nothing in
its box is active. -/
def DropsInactive (system : System) : Event → Prop
  | .locate box =>
      ∀ event place record, system.phases box = .queued (.eventBased event) →
        system.toNotifications.findData (.eventBased event) = some place →
          system.queue[place]? = some record →
            record.box = box ∨ (system.phases record.box).isActive = false
  | .removeFound box =>
      ∀ place irp record, system.phases box = .removing place irp →
        system.queue[place]? = some record →
          record.box = box ∨ (system.phases record.box).isActive = false
  | .completeCancelled irp =>
      ∀ box, system.cancellations irp = .completing box →
        (system.phases box).isActive = false
  | .cleanup file =>
      (system.files file).cleanup = .waiting →
        (system.files file).holders = [] →
          ∀ record ∈ system.queue, record.fileObject = file →
            record.kept file system.phases = none →
              (system.phases record.box).isActive = false
  | _ => True

section

variable {system next : System}

/-- A record is dropped in the section of a DPC. -/
theorem alive_removal_iff
    {own : Address} {place : Nat} {record : NotifyRecord}
    {rest : List NotifyRecord}
    (alive :
      ∀ box, (system.phases box).isActive = true →
        system.toNotifications.IsAlive box)
    (detachment : system.toNotifications.Detachment)
    (removal : Vec.swapRemove system.queue place = some (record, rest))
    (queue : next.queue = rest)
    (detached : next.detached = system.detached)
    (phases :
      next.phases = Function.update system.phases own .finished) :
    (∀ box, (next.phases box).isActive = true →
        next.toNotifications.IsAlive box) ↔
      record.box = own ∨ (system.phases record.box).isActive = false := by
  have active : ∀ box, (next.phases box).isActive = true ↔
      (system.phases box).isActive = true ∧ box ≠ own := by
    intro box
    rw [phases]
    by_cases same : box = own
    · subst same
      rw [Function.update_self]
      exact iff_of_false Bool.false_ne_true fun both => both.2 rfl
    · rw [Function.update_of_ne same]
      exact (and_iff_left same).symm
  have exposed := boxes_of_swapRemove removal
  have absent := (nodup_removal detachment.nodup removal).1
  have boxes : next.toNotifications.boxes = rest.map NotifyRecord.box := by
    unfold Notifications.boxes
    rw [queue]
  unfold Notifications.IsAlive
  rw [boxes, detached]
  constructor
  · intro after
    by_contra neither
    rw [not_or, Bool.not_eq_false] at neither
    have still :=
      after record.box ((active record.box).mpr ⟨neither.2, neither.1⟩)
    have queued : record.box ∈ system.toNotifications.boxes :=
      exposed.mem_iff.mpr List.mem_cons_self
    rcases still with here | held
    · exact absent here
    · exact detachment.not_both queued held
  · intro either box stillActive
    obtain ⟨before, other⟩ := (active box).mp stillActive
    rcases alive box before with queued | held
    · rcases List.mem_cons.mp (exposed.mem_iff.mp queued) with rfl | left
      · rcases either with same | inactive
        · exact absurd same other
        · rw [before] at inactive
          cases inactive
      · exact Or.inl left
    · exact Or.inr held

/-- A timer moves on, in a box that stays alive. -/
theorem alive_update
    {box : Address} {phase : Phase}
    (alive :
      ∀ box, (system.phases box).isActive = true →
        system.toNotifications.IsAlive box)
    (here :
      phase.isActive = true → (system.phases box).isActive = true) :
    ∀ other,
      (Function.update system.phases box phase other).isActive = true →
        system.toNotifications.IsAlive other := by
  intro other active
  by_cases same : other = box
  · subst same
    rw [Function.update_self] at active
    exact alive other (here active)
  · rw [Function.update_of_ne same] at active
    exact alive other active

theorem active_cancelTimer (notes : Notifications) (box other : Address)
    (active : ((notes.cancelTimer box).2.phases other).isActive = true) :
    (notes.phases other).isActive = true := by
  unfold Notifications.cancelTimer at active
  split at active
  · unfold Notifications.setPhase at active
    dsimp only at active
    by_cases same : other = box
    · subst same
      rw [Function.update_self] at active
      cases active
    · rw [Function.update_of_ne same] at active
      exact active
  · exact active

theorem alive_cleaned_iff
    {file : Address}
    (alive :
      ∀ box, (system.phases box).isActive = true →
        system.toNotifications.IsAlive box)
    (detachment : system.toNotifications.Detachment)
    (cleaned : system.Cleaned file next) :
    (∀ box, (next.phases box).isActive = true →
        next.toNotifications.IsAlive box) ↔
      ∀ record ∈ system.queue, record.fileObject = file →
        record.kept file system.phases = none →
          (system.phases record.box).isActive = false := by
  have active : ∀ box, (next.phases box).isActive = true ↔
      (system.phases box).isActive = true ∧
        ¬ Notifications.Stopped file system.phases system.queue box := by
    intro box
    rw [congrArg Notifications.phases cleaned.notes]
    unfold Notifications.afterCleanup Notifications.afterHits
    dsimp only
    by_cases stopped :
        Notifications.Stopped file system.phases system.queue box
    · rw [if_pos stopped]
      exact iff_of_false Bool.false_ne_true fun both => both.2 stopped
    · rw [if_neg stopped]
      exact (and_iff_left stopped).symm
  have nodup := detachment.nodup
  unfold Notifications.IsAlive
  rw [congrArg Notifications.boxes cleaned.notes,
    congrArg Notifications.detached cleaned.notes]
  constructor
  · intro after record member own dropped
    by_contra isActive
    rw [Bool.not_eq_false] at isActive
    have notStopped :
        ¬ Notifications.Stopped file system.phases system.queue
          record.box := by
      rintro ⟨other, otherMember, same, stops⟩
      rw [eq_of_box nodup otherMember member same] at stops
      simp [NotifyRecord.stopsTimer, own] at stops
    rcases after record.box ((active _).mpr ⟨isActive, notStopped⟩) with
      queued | held
    · obtain ⟨left, leftMember, same⟩ := List.mem_map.mp queued
      obtain ⟨before, earlier, kept⟩ := List.mem_filterMap.mp leftMember
      have equal : before.box = record.box :=
        (same_of_kept kept).box.trans same
      rw [eq_of_box nodup earlier member equal, dropped] at kept
      cases kept
    · exact
        detachment.not_both (List.mem_map_of_mem member) held
  · intro inactive box stillActive
    obtain ⟨before, notStopped⟩ := (active box).mp stillActive
    rcases alive box before with queued | held
    · left
      obtain ⟨record, member, rfl⟩ := List.mem_map.mp queued
      cases kept : record.kept file system.phases with
      | some left =>
          rw [← (same_of_kept kept).box.symm]
          exact
            List.mem_map_of_mem
              (List.mem_filterMap.mpr ⟨record, member, kept⟩)
      | none =>
          by_cases own : record.fileObject = file
          · rw [inactive record member own kept] at before
            cases before
          · refine absurd ⟨record, member, rfl, ?_⟩ notStopped
            have hit : record.isHit file system.phases = true := by
              by_contra missed
              rw [NotifyRecord.kept, if_neg missed] at kept
              cases kept
            simpa [NotifyRecord.isHit, NotifyRecord.stopsTimer, own]
              using hit
    · exact Or.inr held

/-- Some boxes are pushed, and a timer is set in one of them. -/
theorem alive_push
    {notes : Notifications} {box file : Address} {ty : NotifyType}
    {dueTime : Int64}
    (alive :
      ∀ box, (notes.phases box).isActive = true → notes.IsAlive box) :
    ∀ other,
      ((notes.push box file ty dueTime).phases other).isActive = true →
        (notes.push box file ty dueTime).IsAlive other := by
  intro other active
  unfold Notifications.IsAlive
  rw [boxes_push, List.mem_append, List.mem_singleton]
  by_cases same : other = box
  · exact Or.inl (Or.inr same)
  · have before : (notes.phases other).isActive = true := by
      have after :
          (Function.update notes.phases box (.set ty dueTime)
            other).isActive = true := active
      rw [Function.update_of_ne same] at after
      exact after
    rcases alive other before with queued | held
    · exact Or.inl (Or.inl queued)
    · exact Or.inr held

/-- The part of the property that is about boxes. -/
theorem alive_step_iff
    {event : Event}
    (alive :
      ∀ box, (system.phases box).isActive = true →
        system.toNotifications.IsAlive box)
    (detachment : system.toNotifications.Detachment)
    (stepped : system.step event = some next) :
    (∀ box, (next.phases box).isActive = true →
        next.toNotifications.IsAlive box) ↔ system.DropsInactive event := by
  cases effect_of_step detachment.nodup stepped with
  | @signalled box event rest place record queued _ found removal _ =>
      refine
        Iff.trans
          (alive_removal_iff alive detachment removal rfl rfl rfl) ?_
      have here := Vec.getElem?_of_swapRemove removal
      constructor
      · intro either _ _ _ otherQueued otherFound otherHere
        rw [queued] at otherQueued
        cases otherQueued
        rw [found] at otherFound
        cases otherFound
        rw [here] at otherHere
        cases otherHere
        exact either
      · intro drops
        exact drops event place record queued found here
  | @removed box irp rest place record removing removal =>
      refine
        Iff.trans
          (alive_removal_iff alive detachment removal rfl rfl rfl) ?_
      have here := Vec.getElem?_of_swapRemove removal
      constructor
      · intro either _ _ _ otherRemoving otherHere
        rw [removing] at otherRemoving
        cases otherRemoving
        rw [here] at otherHere
        cases otherHere
        exact either
      · intro drops
        exact drops place irp record removing here
  | @dropped irp box completing =>
      constructor
      · intro after other otherCompleting
        rw [completing] at otherCompleting
        cases otherCompleting
        by_contra active
        rw [Bool.not_eq_false] at active
        have held := detachment.held irp box completing
        rcases after box active with queued | still
        · exact detachment.not_both queued held
        · have nodup := (List.nodup_append.mp detachment.apart).2.1
          exact absurd rfl (nodup.mem_erase_iff.mp still).1
      · intro inactive other active
        have different : other ≠ box := by
          rintro rfl
          have idle := inactive other completing
          have before : (system.phases other).isActive = true := active
          rw [idle] at before
          cases before
        rcases alive other active with queued | held
        · exact Or.inl queued
        · exact Or.inr ((List.mem_erase_of_ne different).mpr held)
  | cleaned cleaned =>
      rw [alive_cleaned_iff alive detachment cleaned]
      exact
        ⟨fun inactive _ _ => inactive, fun drops =>
          drops cleaned.waiting cleaned.nobody⟩
  | @cancelled irp rest place record taken found removal _ =>
      refine iff_of_true ?_ trivial
      intro box active
      have rest :=
        Notifications.cancelTimer_rest system.toNotifications record.box
      have before :=
        active_cancelTimer system.toNotifications record.box box active
      rcases alive box before with queued | held
      · rcases List.mem_cons.mp
            ((boxes_of_swapRemove removal).mem_iff.mp queued) with
          rfl | left
        · exact Or.inr List.mem_cons_self
        · exact Or.inl left
      · right
        refine List.mem_cons_of_mem _ ?_
        rw [rest.1]
        exact held
  | @pushedIrp irp box file wrapper dueTime middle _ _ calm =>
      refine iff_of_true ?_ trivial
      rw [← middle_notes calm] at alive
      exact alive_push alive
  | pushedEvent _ _ => exact iff_of_true (alive_push alive) trivial
  | @missed box ty queued absent =>
      refine iff_of_true ?_ ?_
      · exact alive_update alive fun active => by cases active
      · intro _ _ _ otherQueued found
        rw [queued] at otherQueued
        cases otherQueued
        rw [absent] at found
        cases found
  | @freedBox box ty queued freed =>
      exact absurd (alive box (by rw [queued]; rfl)) freed
  | @unset box irp wrapper place record queued _ _ _ =>
      refine iff_of_true ?_ ?_
      · exact alive_update alive fun active => by cases active
      · intro _ _ _ otherQueued
        rw [queued] at otherQueued
        cases otherQueued
  | @found box irp wrapper place record queued _ _ _ =>
      refine iff_of_true ?_ ?_
      · exact @alive_update system _ _ alive fun _ => by rw [queued]; rfl
      · intro _ _ _ otherQueued
        rw [queued] at otherQueued
        cases otherQueued
  | @outside box place irp removing beyond =>
      refine iff_of_true alive ?_
      intro _ _ record otherRemoving here
      rw [removing] at otherRemoving
      cases otherRemoving
      obtain ⟨inside, _⟩ := List.getElem?_eq_some_iff.mp here
      obtain ⟨_, _, removal⟩ := Vec.swapRemove_isSome inside
      rw [beyond] at removal
      cases removal
  | @expired box ty dueTime set =>
      refine iff_of_true ?_ trivial
      exact alive_update alive fun _ => by rw [set]; rfl
  | @completed box place irp completing =>
      refine iff_of_true ?_ trivial
      exact
        @alive_update system _ _ alive fun _ => by rw [completing]; rfl
  | pending _ =>
      refine iff_of_true ?_ trivial
      rw [release_notes]
      exact alive
  | returned _ _ =>
      refine iff_of_true ?_ trivial
      rw [release_notes]
      exact alive
  | entered _ _ | turnedAway _ _ | rejected _ | armed _ | referenced _
  | refused _ _ _ | marked _ _ | taken _ _ | unwrapped _ _ | waiting _
  | cleanedOne _ =>
      exact iff_of_true alive trivial

end

/-- Along a run no timer and no DPC is active in a box that was dropped, and
no DPC reads one, if and only if every record is dropped by its own DPC or
with nothing active in its box. -/
theorem boxesAlive_iff (events : List Event) :
    Always step BoxesAlive start events ↔
      Guarded step DropsInactive start events := by
  refine
    @always_iff_guarded_of_step _ _ step
      (fun system => system.toNotifications.Detachment) _ _
      (fun _ _ _ detachment stepped => detachment_step detachment stepped)
      (fun system event next detachment alive stepped => ?_) _ _ ?_ ?_
  · rw [← alive_step_iff alive.1 detachment stepped]
    refine ⟨And.left, fun after => ⟨after, fun fault => ?_⟩⟩
    cases cause_of_step detachment.nodup stepped fault with
    | @freedBox box ty queued freed =>
        exact freed (alive.1 box (by rw [queued]; rfl))
  · refine ⟨List.nodup_nil, fun _ _ completing => ?_,
      fun _ _ _ completing => ?_⟩
    · cases completing
    · cases completing
  · refine ⟨fun _ active => ?_, fun fault => ?_⟩
    · cases active
    · cases fault

end System

end EventDriver

end WinDrvUtils

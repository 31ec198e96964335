import WinDrvUtils.Samples.Event
import WinDrvUtils.Library.StepSystem

/-!
# What the event driver does to its notifications

`change_of_step` says once what an event can do to the notifications, and
`retain_eq` what the closure of `cleanup` does with one entry. An entry is hit
when it belongs to the file object, or when its timer is still set: then the
call of `cancel` in the condition has stopped the timer.
-/

namespace WinDrvUtils

namespace EventDriver

/-! ## Cleanup -/

def Phase.isSet : Phase → Bool
  | .set _ _ => true
  | _ => false

namespace NotifyRecord

variable (file : Address) (phases : Address → Phase) (record : NotifyRecord)

/-- The closure of `retain_mut` does not simply keep the entry. -/
def isHit : Bool :=
  record.fileObject == file || (phases record.box).isSet

def stopsTimer : Bool :=
  record.fileObject != file && (phases record.box).isSet

/-- What is left of the entry. -/
def kept : Option NotifyRecord :=
  if record.isHit file phases then
    match record.ty with
    | .irpBased irp wrapper =>
        if wrapper.cancel.isSome then
          some { record with
            ty := .irpBased irp { wrapper with cancel := none } }
        else none
    | .eventBased _ => none
  else some record

/-- The request that is going to be completed. -/
def cleaned : Option Address :=
  if record.isHit file phases then
    match record.ty with
    | .irpBased irp wrapper =>
        if wrapper.cancel.isSome then none else some irp
    | .eventBased _ => none
  else none

/-- The event that is dereferenced. -/
def dropped : Option Address :=
  if record.isHit file phases then record.ty.event else none

/-! Of the phases only that of the entry's own box matters. -/

variable {phases} {others : Address → Phase} {record}

theorem stopsTimer_congr (same : phases record.box = others record.box) :
    record.stopsTimer file phases = record.stopsTimer file others := by
  unfold stopsTimer
  rw [same]

theorem isHit_congr (same : phases record.box = others record.box) :
    record.isHit file phases = record.isHit file others := by
  unfold isHit
  rw [same]

theorem kept_congr (same : phases record.box = others record.box) :
    record.kept file phases = record.kept file others := by
  unfold kept
  rw [isHit_congr file same]

theorem cleaned_congr (same : phases record.box = others record.box) :
    record.cleaned file phases = record.cleaned file others := by
  unfold cleaned
  rw [isHit_congr file same]

theorem dropped_congr (same : phases record.box = others record.box) :
    record.dropped file phases = record.dropped file others := by
  unfold dropped
  rw [isHit_congr file same]

end NotifyRecord

namespace Notifications

/-- The notifications after the closure has had the entry. -/
def afterHit (file : Address) (notes : Notifications)
    (record : NotifyRecord) : Notifications :=
  { notes with
    phases :=
      if record.stopsTimer file notes.phases then
        Function.update notes.phases record.box .idle
      else notes.phases
    references :=
      match record.dropped file notes.phases with
      | some event => notes.references.release event
      | none => notes.references }

theorem afterHit_phases_of_ne
    (file : Address) (notes : Notifications) (record : NotifyRecord)
    {other : Address} (different : other ≠ record.box) :
    (notes.afterHit file record).phases other = notes.phases other := by
  unfold afterHit
  dsimp only
  split
  · exact Function.update_of_ne different _ _
  · rfl

/-- The timer in a box is stopped by the call in the condition. -/
def Stopped (file : Address) (phases : Address → Phase)
    (entries : List NotifyRecord) (box : Address) : Prop :=
  ∃ record ∈ entries,
    record.box = box ∧ record.stopsTimer file phases = true

instance (file : Address) (phases : Address → Phase)
    (entries : List NotifyRecord) (box : Address) :
    Decidable (Stopped file phases entries box) :=
  inferInstanceAs (Decidable (∃ record ∈ entries, _))

/-- The notifications after the closure has had some entries. -/
def afterHits (file : Address) (notes : Notifications)
    (entries : List NotifyRecord) : Notifications :=
  { notes with
    phases := fun box =>
      if Stopped file notes.phases entries box then .idle
      else notes.phases box
    references :=
      (entries.filterMap
        (NotifyRecord.dropped file notes.phases)).foldl
        Ledger.release notes.references }

section

variable (file : Address) (notes : Notifications) {record : NotifyRecord}
    {rest : List NotifyRecord}

theorem afterHit_agrees
    (fresh : record.box ∉ rest.map NotifyRecord.box)
    {other : NotifyRecord} (member : other ∈ rest) :
    (notes.afterHit file record).phases other.box =
      notes.phases other.box := by
  apply afterHit_phases_of_ne
  intro same
  exact fresh (same ▸ List.mem_map_of_mem member)

theorem stopped_cons_iff
    (fresh : record.box ∉ rest.map NotifyRecord.box) (box : Address) :
    Stopped file notes.phases (record :: rest) box ↔
      (record.box = box ∧ record.stopsTimer file notes.phases = true) ∨
        Stopped file (notes.afterHit file record).phases rest box := by
  unfold Stopped
  rw [List.exists_mem_cons_iff]
  refine or_congr_right (exists_congr fun other => ?_)
  refine and_congr_right fun member => ?_
  rw [NotifyRecord.stopsTimer_congr file
    (afterHit_agrees file notes fresh member)]

/-- Of entries in different boxes, each is treated as if it came first. -/
theorem afterHits_cons
    (fresh : record.box ∉ rest.map NotifyRecord.box) :
    (notes.afterHit file record).afterHits file rest =
      notes.afterHits file (record :: rest) := by
  have phases : ∀ box,
      ((notes.afterHit file record).afterHits file rest).phases box =
        (notes.afterHits file (record :: rest)).phases box := by
    intro box
    have either := stopped_cons_iff file notes fresh box
    unfold afterHits
    dsimp only
    by_cases later :
        Stopped file (notes.afterHit file record).phases rest box
    · rw [if_pos later, if_pos (either.mpr (Or.inr later))]
    · rw [if_neg later]
      by_cases same : box = record.box
      · subst same
        unfold afterHit
        dsimp only
        cases stops : record.stopsTimer file notes.phases with
        | true =>
            rw [if_pos rfl, Function.update_self,
              if_pos (either.mpr (Or.inl ⟨rfl, stops⟩))]
        | false =>
            rw [if_neg Bool.false_ne_true, if_neg]
            intro stopped
            rcases either.mp stopped with ⟨_, head⟩ | tail
            · rw [stops] at head
              cases head
            · exact later tail
      · rw [afterHit_phases_of_ne file notes record same, if_neg]
        intro stopped
        rcases either.mp stopped with ⟨head, _⟩ | tail
        · exact same head.symm
        · exact later tail
  have dropped :
      rest.filterMap
          (NotifyRecord.dropped file (notes.afterHit file record).phases) =
        rest.filterMap (NotifyRecord.dropped file notes.phases) :=
    List.filterMap_congr fun other member =>
      NotifyRecord.dropped_congr file
        (afterHit_agrees file notes fresh member)
  have references :
      ((notes.afterHit file record).afterHits file rest).references =
        (notes.afterHits file (record :: rest)).references := by
    unfold afterHits
    dsimp only
    rw [dropped, List.filterMap_cons]
    unfold afterHit
    cases record.dropped file notes.phases <;> rfl
  unfold afterHits at *
  dsimp only at *
  rw [funext phases, references]
  rfl

theorem foldl_afterHit
    {entries : List NotifyRecord}
    (nodup : (entries.map NotifyRecord.box).Nodup) :
    entries.foldl (afterHit file) notes = notes.afterHits file entries := by
  induction entries generalizing notes with
  | nil =>
      unfold afterHits Stopped
      simp
  | cons record rest inductionHypothesis =>
      obtain ⟨fresh, nodup⟩ := List.nodup_cons.mp nodup
      rw [List.foldl_cons, inductionHypothesis _ nodup]
      exact afterHits_cons file notes fresh

end

/-- The notifications after the section of `cleanup`. -/
def afterCleanup (notes : Notifications) (file : Address) : Notifications :=
  { notes.afterHits file notes.queue with
    queue := notes.queue.filterMap (NotifyRecord.kept file notes.phases) }

end Notifications

/-- One packet after another: the same request, armed only if it was. -/
structure Packet.Weaker (before after : Packet) : Prop where
  irp : after.irp = before.irp
  cancel : after.cancel = before.cancel
  routine :
    after.fields.cancelRoutine = true → before.fields.cancelRoutine = true

namespace Packet.Weaker

theorem refl (packet : Packet) : packet.Weaker packet :=
  ⟨rfl, rfl, id⟩

theorem trans
    {first second third : Packet} (before : first.Weaker second)
    (after : second.Weaker third) : first.Weaker third :=
  ⟨after.irp.trans before.irp, after.cancel.trans before.cancel,
    fun armed => before.routine (after.routine armed)⟩

/-- What is not armed stays so. -/
theorem unarmed
    {before after : Packet} (weaker : before.Weaker after)
    (unarmed : before.fields.cancelRoutine = false) :
    after.fields.cancelRoutine = false := by
  apply Bool.eq_false_iff.mpr
  intro armed
  rw [weaker.routine armed] at unarmed
  cases unarmed

end Packet.Weaker

namespace System

theorem disarm_eq (system : System) (irp : Address) (wrapper : WduIrp) :
    system.disarm irp wrapper =
      (wrapper.cancel, { wrapper with cancel := none },
        (system.disarm irp wrapper).2.2) := rfl

theorem disarm_notes (system : System) (irp : Address) (wrapper : WduIrp) :
    (system.disarm irp wrapper).2.2.toNotifications =
      system.toNotifications := rfl

theorem disarm_unarmed (system : System) (irp : Address) (wrapper : WduIrp) :
    ((system.disarm irp wrapper).2.2.packets irp).fields.cancelRoutine =
      false := by
  unfold disarm setPacket
  dsimp only
  rw [Function.update_self]
  rfl

theorem disarm_weaker
    (system : System) (irp other : Address) (wrapper : WduIrp) :
    (system.packets other).Weaker
      ((system.disarm irp wrapper).2.2.packets other) := by
  by_cases same : other = irp
  · subst same
    have unarmed := disarm_unarmed system other wrapper
    refine ⟨?_, ?_, fun armed => ?_⟩
    · unfold disarm setPacket
      dsimp only
      rw [Function.update_self]
    · unfold disarm setPacket
      dsimp only
      rw [Function.update_self]
    · rw [unarmed] at armed
      cases armed
  · unfold disarm setPacket
    dsimp only
    rw [Function.update_of_ne same]
    exact .refl _

/-- What `cancelEntry` does with an entry that it gets. -/
theorem cancelEntry_eq
    (system : System) (irps : List Address) (record : NotifyRecord) :
    system.cancelEntry irps record =
      match record.ty with
      | .irpBased irp wrapper =>
          (wrapper.cancel.isSome,
            (irps ++ (if wrapper.cancel.isSome then [] else [irp]),
              (system.disarm irp wrapper).2.2),
            { record with
              ty := .irpBased irp { wrapper with cancel := none } })
      | .eventBased event =>
          (false,
            (irps,
              system.setNotes (system.toNotifications.dereference event)),
            record) := by
  unfold cancelEntry
  cases record.ty with
  | irpBased irp wrapper =>
      dsimp only
      rw [disarm_eq]
      cases wrapper.cancel with
      | none => rfl
      | some routine => simp
  | eventBased event => rfl

theorem retain_eq
    (file : Address) (irps : List Address) (system : System)
    (record : NotifyRecord) :
    Vec.outcome (retain file) (irps, system) record =
        record.kept file system.phases ∧
      (retain file (irps, system) record).2.1.1 =
        irps ++ (record.cleaned file system.phases).toList ∧
      (retain file (irps, system) record).2.1.2.toNotifications =
        system.toNotifications.afterHit file record := by
  unfold Vec.outcome retain NotifyRecord.kept NotifyRecord.cleaned
    Notifications.afterHit NotifyRecord.dropped NotifyRecord.isHit
    NotifyRecord.stopsTimer Notifications.cancelTimer
  by_cases own : record.fileObject = file
  · simp only [own, ne_eq, not_true_eq_false, if_false, cancelEntry_eq]
    cases record.ty with
    | irpBased irp wrapper =>
        cases cached : wrapper.cancel <;>
          simp [cached, disarm_notes, NotifyType.event]
    | eventBased event =>
        simp [NotifyType.event, setNotes, Notifications.dereference]
  · simp only [own, ne_eq, not_false_eq_true, if_true, cancelEntry_eq]
    cases system.phases record.box with
    | set ty dueTime =>
        cases record.ty with
        | irpBased irp wrapper =>
            cases cached : wrapper.cancel <;>
              simp [cached, own, Phase.isSet, disarm_notes, setNotes,
                Notifications.setPhase, NotifyType.event]
        | eventBased event =>
            simp [own, Phase.isSet, NotifyType.event, setNotes,
              Notifications.dereference, Notifications.setPhase]
    | idle => simp [own, Phase.isSet]
    | queued ty => simp [own, Phase.isSet]
    | completing place irp => simp [own, Phase.isSet]
    | removing place irp => simp [own, Phase.isSet]
    | finished => simp [own, Phase.isSet]

/-- The closure changes the notifications and the packets only. -/
theorem retain_frame
    (file : Address) (irps : List Address) (system : System)
    (record : NotifyRecord) :
    (retain file (irps, system) record).2.1.2.calls = system.calls ∧
      (retain file (irps, system) record).2.1.2.files = system.files ∧
      (retain file (irps, system) record).2.1.2.fault = system.fault := by
  unfold retain
  dsimp only
  split
  · split
    · exact ⟨rfl, rfl, rfl⟩
    · rw [cancelEntry_eq]
      cases record.ty <;> exact ⟨rfl, rfl, rfl⟩
  · rw [cancelEntry_eq]
    cases record.ty <;> exact ⟨rfl, rfl, rfl⟩

theorem retain_weaker
    (file : Address) (irps : List Address) (system : System)
    (record : NotifyRecord) (other : Address) :
    (system.packets other).Weaker
      ((retain file (irps, system) record).2.1.2.packets other) := by
  unfold retain
  dsimp only
  split
  · split
    · exact .refl _
    · rw [cancelEntry_eq]
      cases record.ty with
      | irpBased irp wrapper => exact disarm_weaker _ irp other wrapper
      | eventBased event => exact .refl _
  · rw [cancelEntry_eq]
    cases record.ty with
    | irpBased irp wrapper => exact disarm_weaker _ irp other wrapper
    | eventBased event => exact .refl _

/-- The packet of an entry that is hit is disarmed. -/
theorem retain_unarmed
    (file : Address) (irps : List Address) (system : System)
    {record : NotifyRecord} {irp : Address} {wrapper : WduIrp}
    (hit : record.isHit file system.phases = true)
    (based : record.ty = .irpBased irp wrapper) :
    ((retain file (irps, system) record).2.1.2.packets
      irp).fields.cancelRoutine = false := by
  unfold retain Notifications.cancelTimer
  unfold NotifyRecord.isHit at hit
  dsimp only
  by_cases own : record.fileObject = file
  · rw [if_neg (not_not.mpr own), cancelEntry_eq, based]
    exact disarm_unarmed _ irp wrapper
  · rw [if_pos own]
    cases phase : system.phases record.box with
    | set ty dueTime =>
        dsimp only
        rw [cancelEntry_eq, based]
        exact disarm_unarmed _ irp wrapper
    | idle | queued _ | completing _ _ | removing _ _ | finished =>
        simp [own, phase, Phase.isSet] at hit

/-! ### The whole queue -/

section

variable (file : Address)

theorem retain_state
    (irps : List Address) (system : System) (record : NotifyRecord) :
    (retain file (irps, system) record).2.1 =
      (irps ++ (record.cleaned file system.phases).toList,
        (retain file (irps, system) record).2.1.2) := by
  exact Prod.ext (retain_eq file irps system record).2.1 rfl

theorem foldl_retain_notes
    (queue : List NotifyRecord) (irps : List Address) (system : System) :
    (queue.foldl (fun state record => (retain file state record).2.1)
        (irps, system)).2.toNotifications =
      queue.foldl (Notifications.afterHit file) system.toNotifications := by
  induction queue generalizing irps system with
  | nil => rfl
  | cons record rest inductionHypothesis =>
      rw [List.foldl_cons, retain_state, inductionHypothesis,
        (retain_eq file irps system record).2.2]
      rfl

theorem foldl_retain_frame
    (queue : List NotifyRecord) (irps : List Address) (system : System) :
    let last :=
      (queue.foldl (fun state record => (retain file state record).2.1)
        (irps, system)).2
    last.calls = system.calls ∧ last.files = system.files ∧
      last.fault = system.fault := by
  induction queue generalizing irps system with
  | nil => exact ⟨rfl, rfl, rfl⟩
  | cons record rest inductionHypothesis =>
      obtain ⟨calls, files, fault⟩ := retain_frame file irps system record
      rw [List.foldl_cons, retain_state, ← calls, ← files, ← fault]
      exact inductionHypothesis _ _

theorem foldl_retain_irps
    {queue : List NotifyRecord}
    (nodup : (queue.map NotifyRecord.box).Nodup)
    (irps : List Address) (system : System) :
    (queue.foldl (fun state record => (retain file state record).2.1)
        (irps, system)).1 =
      irps ++ queue.filterMap (NotifyRecord.cleaned file system.phases) := by
  induction queue generalizing irps system with
  | nil => exact (List.append_nil irps).symm
  | cons record rest inductionHypothesis =>
      obtain ⟨fresh, nodup⟩ := List.nodup_cons.mp nodup
      rw [List.foldl_cons, retain_state, inductionHypothesis nodup,
        List.append_assoc]
      congr 1
      have later :
          rest.filterMap
              (NotifyRecord.cleaned file
                (retain file (irps, system) record).2.1.2.phases) =
            rest.filterMap (NotifyRecord.cleaned file system.phases) := by
        apply List.filterMap_congr
        intro other member
        apply NotifyRecord.cleaned_congr
        have after := (retain_eq file irps system record).2.2
        rw [congrArg Notifications.phases after]
        exact
          Notifications.afterHit_agrees file system.toNotifications fresh
            member
      rw [later, List.filterMap_cons]
      cases record.cleaned file system.phases <;> rfl

theorem retain_independent
    {queue : List NotifyRecord}
    (nodup : (queue.map NotifyRecord.box).Nodup) :
    queue.Pairwise fun first later => ∀ state,
      Vec.outcome (retain file) (retain file state first).2.1 later =
        Vec.outcome (retain file) state later := by
  refine (List.pairwise_map.mp nodup).imp ?_
  intro first later different state
  obtain ⟨irps, system⟩ := state
  rw [(retain_eq file irps system later).1, retain_state,
    (retain_eq file _ _ later).1]
  apply NotifyRecord.kept_congr
  rw [congrArg Notifications.phases (retain_eq file irps system first).2.2]
  exact
    Notifications.afterHit_phases_of_ne file _ first (Ne.symm different)

theorem foldl_retain_weaker
    (queue : List NotifyRecord) (irps : List Address) (system : System)
    (other : Address) :
    (system.packets other).Weaker
      ((queue.foldl (fun state record => (retain file state record).2.1)
        (irps, system)).2.packets other) := by
  induction queue generalizing irps system with
  | nil => exact .refl _
  | cons record rest inductionHypothesis =>
      rw [List.foldl_cons, retain_state]
      exact
        (retain_weaker file irps system record other).trans
          (inductionHypothesis _ _)

theorem foldl_retain_unarmed
    {queue : List NotifyRecord}
    (nodup : (queue.map NotifyRecord.box).Nodup)
    (irps : List Address) (system : System)
    {record : NotifyRecord} (member : record ∈ queue)
    {irp : Address} {wrapper : WduIrp}
    (hit : record.isHit file system.phases = true)
    (based : record.ty = .irpBased irp wrapper) :
    ((queue.foldl (fun state record => (retain file state record).2.1)
        (irps, system)).2.packets irp).fields.cancelRoutine = false := by
  induction queue generalizing irps system with
  | nil => exact absurd member List.not_mem_nil
  | cons first rest inductionHypothesis =>
      obtain ⟨fresh, nodup⟩ := List.nodup_cons.mp nodup
      rw [List.foldl_cons, retain_state]
      rcases List.mem_cons.mp member with rfl | later
      · exact
          (foldl_retain_weaker file rest _ _ irp).unarmed
            (retain_unarmed file irps system hit based)
      · refine inductionHypothesis nodup _ _ later ?_
        have after := (retain_eq file irps system first).2.2
        rw [← hit, congrArg Notifications.phases after]
        exact
          NotifyRecord.isHit_congr file
            (Notifications.afterHit_agrees file system.toNotifications fresh
              later)

/-- All that the section of `cleanup` does. -/
structure Cleaned (system : System) (file : Address) (next : System) :
    Prop where
  waiting : (system.files file).cleanup = .waiting
  nobody : (system.files file).holders = []
  notes : next.toNotifications = system.toNotifications.afterCleanup file
  files :
    next.files = Function.update system.files file
      { system.files file with
        cleanup := .completing
          (system.queue.filterMap
            (NotifyRecord.cleaned file system.phases)) }
  calls : next.calls = system.calls
  fault : next.fault = system.fault
  weaker : ∀ irp, (system.packets irp).Weaker (next.packets irp)
  unarmed :
    ∀ record ∈ system.queue, record.isHit file system.phases = true →
      ∀ irp wrapper, record.ty = .irpBased irp wrapper →
        (next.packets irp).fields.cancelRoutine = false

theorem cleaned_of_cleanup
    {system next : System} (nodup : system.toNotifications.boxes.Nodup)
    (stepped : system.cleanup file = some next) :
    system.Cleaned file next := by
  unfold cleanup at stepped
  dsimp only at stepped
  split at stepped
  case h_1 waiting =>
      obtain ⟨nobody, stepped⟩ := Option.ite_none_right_eq_some.mp stepped
      have state :=
        Vec.retainMut_state (retain file) ([], system) system.queue
      have items :
          (Vec.retainMut (retain file) ([], system) system.queue).2 =
            system.queue.filterMap (NotifyRecord.kept file system.phases) := by
        rw [Vec.retainMut_items _ (retain_independent file nodup)]
        exact List.filterMap_congr fun record _ =>
          (retain_eq file [] system record).1
      have irps := foldl_retain_irps file nodup [] system
      have notes := foldl_retain_notes file system.queue [] system
      have weaker := foldl_retain_weaker file system.queue [] system
      obtain ⟨calls, files, fault⟩ :=
        foldl_retain_frame file system.queue [] system
      have unarmed := @foldl_retain_unarmed file system.queue nodup [] system
      rw [← state] at irps notes calls files fault
      rw [Notifications.foldl_afterHit file _ nodup] at notes
      simp only [← state] at weaker unarmed
      cases stepped
      refine ⟨waiting, nobody, ?_, ?_, calls, fault, weaker, ?_⟩
      · unfold Notifications.afterCleanup
        rw [← notes, ← items]
        rfl
      · unfold setFile
        dsimp only
        rw [irps, files, List.nil_append]
      · intro record member hit irp wrapper based
        exact unarmed member hit based
  case h_2 => cases stepped

end

end System

end EventDriver

end WinDrvUtils

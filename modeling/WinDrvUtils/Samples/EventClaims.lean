import WinDrvUtils.Samples.EventInvariant

/-!
# Who completes a request

A request is completed by `device_control` itself, by its cancel routine, by
the DPC of its timer, or by the cleanup of a file object. Each of them decides
under the lock that it is the one, and completes the request after it.

`set_cancel_rtn(None)` is what they ask. It answers with the routine that the
wrapper has cached, whether or not the kernel has taken the routine before, so
the answer does not tell who is first.
-/

namespace WinDrvUtils

namespace EventDriver

inductive Completer where
  | request
  | cancelRoutine
  | dpc (box : Address)
  | cleanup (file : Address)
  deriving DecidableEq, Repr

/-- `device_control` is going to complete the request. -/
def Call.completes : Call → Bool
  | .returning _ status => status != statusPending
  | _ => false

/-- The cancel routine of the request has not been set. -/
def Call.isCalm : Call → Bool
  | .idle => true
  | .entered _ _ => true
  | .referenced _ _ _ => true
  | _ => false

/-- The request that the DPC of a box is going to complete. -/
def Phase.completes : Phase → Option Address
  | .completing _ irp => some irp
  | _ => none

def Cleanup.irps : Cleanup → List Address
  | .completing irps => irps
  | _ => []

theorem Call.not_isPast_of_isCalm
    {call : Call} (calm : call.isCalm = true) : call.isPast = false := by
  cases call with
  | idle | entered _ _ | referenced _ _ _ => rfl
  | armed _ _ _ | returning _ _ | returned => cases calm

theorem Phase.irp_of_completes
    {phase : Phase} {irp : Address} (completes : phase.completes = some irp) :
    phase.irp = some irp := by
  cases phase with
  | completing place other => exact completes
  | idle | set _ _ | queued _ | removing _ _ | finished => cases completes

namespace System

section

variable (system : System) (irp : Address)

def isArmed : Bool :=
  (system.packets irp).fields.cancelRoutine

def completions : Nat :=
  (system.packets irp).irp.completions

def Claims : Completer → Prop
  | .request => (system.calls irp).completes = true
  | .cancelRoutine => system.cancellations irp ≠ .idle
  | .dpc box => (system.phases box).completes = some irp
  | .cleanup file => irp ∈ (system.files file).cleanup.irps

/-- At most one is going to complete the request, and none that has been
completed. -/
structure CompletedOnce : Prop where
  one :
    ∀ completer other, system.Claims irp completer →
      system.Claims irp other → completer = other
  once : ∀ file, (system.files file).cleanup.irps.count irp ≤ 1
  fresh :
    ∀ completer, system.Claims irp completer → system.completions irp = 0
  most : system.completions irp ≤ 1

structure Unclaimed : Prop where
  nobody : ∀ completer, ¬ system.Claims irp completer
  fresh : system.completions irp = 0

/-- Nobody but a DPC, or a cancel routine that waits for the lock, is going
to complete the request. -/
structure Waits : Prop where
  request : (system.calls irp).completes = false
  cancelRoutine : ∀ box, system.cancellations irp ≠ .completing box
  cleanup : ∀ file, irp ∉ (system.files file).cleanup.irps

/-- What is known of a request before one of them takes it. -/
structure Handed : Prop where
  armed : system.isArmed irp = true → system.Unclaimed irp
  calm :
    (system.calls irp).isCalm = true →
      system.cancellations irp = .idle ∧ system.isArmed irp = false
  early :
    (system.calls irp).isPast = false →
      system.Waits irp ∧ system.completions irp = 0
  entry :
    ∀ record ∈ system.queue, record.ty.irp = some irp →
      system.Waits irp ∧
        ∀ ty, (system.phases record.box).context = some ty →
          system.completions irp = 0

end

/-- Those who decide under the lock are the first. -/
def HandsOver (system : System) : Event → Prop
  | .enqueue irp _ =>
      ∀ file wrapper dueTime, system.calls irp = .armed file wrapper dueTime →
        (system.packets irp).cancel = true →
          system.cancellations irp = .idle
  | .locate box =>
      ∀ irp wrapper, system.phases box = .queued (.irpBased irp wrapper) →
        ∀ record ∈ system.queue, record.ty.irp = some irp →
          system.cancellations irp = .idle
  | .cleanup file =>
      (system.files file).cleanup = .waiting →
        (system.files file).holders = [] →
          ∀ record ∈ system.queue, ∀ irp,
            record.cleaned file system.phases = some irp →
              system.cancellations irp = .idle ∧
                (system.phases record.box).completes ≠ some irp ∧
                  system.completions irp = 0
  | _ => True

/-! ## What a step leaves of one request -/

section

variable {system next : System} {irp : Address}

theorem Unclaimed.of_waits
    (waits : system.Waits irp) (fresh : system.completions irp = 0)
    (idle : system.cancellations irp = .idle)
    (dpcs : ∀ box, (system.phases box).completes ≠ some irp) :
    system.Unclaimed irp where
  nobody completer := by
    cases completer with
    | request =>
        intro completes
        rw [Claims, waits.request] at completes
        cases completes
    | cancelRoutine => exact fun busy => busy idle
    | dpc box => exact dpcs box
    | cleanup file => exact waits.cleanup file
  fresh := fresh

/-- Before its cancel routine is set nobody has the request. -/
theorem Handed.unclaimed
    (handed : system.Handed irp) (invariant : system.Invariant)
    (calm : (system.calls irp).isCalm = true) : system.Unclaimed irp := by
  have early := Call.not_isPast_of_isCalm calm
  obtain ⟨waits, fresh⟩ := handed.early early
  obtain ⟨_, noTimer⟩ := invariant.early irp early
  exact
    .of_waits waits fresh (handed.calm calm).1 fun box completes =>
      noTimer box (Phase.irp_of_completes completes)

theorem Handed.unarmed
    (handed : system.Handed irp) {completer : Completer}
    (claimed : system.Claims irp completer) :
    system.isArmed irp = false := by
  apply Bool.eq_false_iff.mpr
  intro armed
  exact (handed.armed armed).nobody completer claimed

/-- The request is past its section and has no entry: nothing is to know. -/
theorem Handed.of_past
    (past : (system.calls irp).isPast = true)
    (unarmed : system.isArmed irp = false)
    (absent : ∀ record ∈ system.queue, record.ty.irp ≠ some irp) :
    system.Handed irp where
  armed armed := by
    rw [unarmed] at armed
    cases armed
  calm calm := by
    rw [Call.not_isPast_of_isCalm calm] at past
    cases past
  early early := by
    rw [past] at early
    cases early
  entry record member based := absurd based (absent record member)

/-- Nobody new takes the request. -/
structure Recedes (system next : System) (irp : Address) : Prop where
  request :
    (next.calls irp).completes = true → (system.calls irp).completes = true
  cancellation : next.cancellations irp = system.cancellations irp
  dpcs :
    ∀ box, (next.phases box).completes = some irp →
      (system.phases box).completes = some irp
  cleanups :
    ∀ file, (next.files file).cleanup.irps.count irp ≤
      (system.files file).cleanup.irps.count irp
  completions : next.completions irp = system.completions irp

namespace Recedes

theorem claims
    (recedes : system.Recedes next irp) {completer : Completer}
    (claims : next.Claims irp completer) : system.Claims irp completer := by
  cases completer with
  | request => exact recedes.request claims
  | cancelRoutine =>
      rw [Claims, recedes.cancellation] at claims
      exact claims
  | dpc box => exact recedes.dpcs box claims
  | cleanup file =>
      have positive := List.count_pos_iff.mpr claims
      exact
        List.count_pos_iff.mp (positive.trans_le (recedes.cleanups file))

theorem unclaimed
    (recedes : system.Recedes next irp) (before : system.Unclaimed irp) :
    next.Unclaimed irp where
  nobody completer claims := before.nobody completer (recedes.claims claims)
  fresh := recedes.completions.trans before.fresh

theorem waits
    (recedes : system.Recedes next irp) (before : system.Waits irp) :
    next.Waits irp where
  request := by
    apply Bool.eq_false_iff.mpr
    intro completes
    have completed := recedes.request completes
    rw [before.request] at completed
    cases completed
  cancelRoutine := by
    rw [recedes.cancellation]
    exact before.cancelRoutine
  cleanup file left := by
    have claims : next.Claims irp (.cleanup file) := left
    exact before.cleanup file (recedes.claims claims)

end Recedes

/-- What of the records and the section of a request a step leaves. -/
structure Keeps (system next : System) (irp : Address) : Prop where
  calm :
    (next.calls irp).isCalm = true → (system.calls irp).isCalm = true
  early :
    (next.calls irp).isPast = false → (system.calls irp).isPast = false
  armed : next.isArmed irp = true → system.isArmed irp = true
  entries :
    ∀ record ∈ next.queue, record.ty.irp = some irp →
      ∃ before ∈ system.queue, before.Same record ∧
        ∀ ty, (next.phases record.box).context = some ty →
          (system.phases record.box).context = some ty

/-- A record that was not queued for a request was there before. -/
theorem entries_of_changes
    {event : Event}
    (changes : system.Changes event next)
    (other : ∀ box, event ≠ .enqueue irp box) :
    ((next.calls irp).isPast = false → (system.calls irp).isPast = false) ∧
      ∀ record ∈ next.queue, record.ty.irp = some irp →
        ∃ before ∈ system.queue, before.Same record ∧
          ∀ ty, (next.phases record.box).context = some ty →
            (system.phases record.box).context = some ty := by
  rcases changes with shrinks | ⟨box, file, pushed, dueTime, pushes⟩
  · refine ⟨shrinks.calls irp, fun record member _ => ?_⟩
    obtain ⟨before, earlier, same⟩ := shrinks.records record member
    exact ⟨before, earlier, same, shrinks.contexts record.box⟩
  · refine
      ⟨fun early => (pushes.calls irp early).1, fun record member based => ?_⟩
    rcases pushes.records record member with before | rfl
    · refine ⟨record, before, ⟨rfl, rfl, rfl⟩, fun ty context => ?_⟩
      have apart : record.box ≠ box := by
        rintro rfl
        exact
          (isFree_iff.mp pushes.free).2.1 (List.mem_map_of_mem before)
      rw [congrArg Notifications.phases pushes.notes] at context
      have same :
          (system.toNotifications.push box file pushed dueTime).phases
              record.box =
            system.phases record.box :=
        Function.update_of_ne apart _ _
      rw [same] at context
      exact context
    · exact absurd (pushes.own irp based) (other box)

theorem Handed.keep
    (handed : system.Handed irp) (recedes : system.Recedes next irp)
    (keeps : system.Keeps next irp) : next.Handed irp where
  armed armed := recedes.unclaimed (handed.armed (keeps.armed armed))
  calm calm := by
    obtain ⟨idle, unarmed⟩ := handed.calm (keeps.calm calm)
    refine ⟨recedes.cancellation.trans idle, Bool.eq_false_iff.mpr ?_⟩
    intro armed
    rw [keeps.armed armed] at unarmed
    cases unarmed
  early early := by
    obtain ⟨waits, fresh⟩ := handed.early (keeps.early early)
    exact ⟨recedes.waits waits, recedes.completions.trans fresh⟩
  entry record member based := by
    obtain ⟨before, earlier, same, contexts⟩ :=
      keeps.entries record member based
    obtain ⟨waits, fresh⟩ :=
      handed.entry before earlier (same.irp.trans based)
    refine ⟨recedes.waits waits, fun ty context => ?_⟩
    rw [← same.box] at contexts context
    exact recedes.completions.trans (fresh ty (contexts ty context))

/-- What becomes of one request in a step. -/
inductive Fate (system : System) (event : Event) (next : System)
    (irp : Address) : Prop
  | kept
      (claims : ∀ other, next.Claims irp other → system.Claims irp other)
      (cleanups :
        ∀ file, (next.files file).cleanup.irps.count irp ≤
          (system.files file).cleanup.irps.count irp)
      (completions : next.completions irp = system.completions irp)
      (handed : next.Handed irp)
  | taken (completer : Completer)
      (first : system.HandsOver event → system.Unclaimed irp)
      (claims :
        ∀ other, next.Claims irp other →
          other = completer ∨ system.Claims irp other)
      (once : ∀ file, (next.files file).cleanup.irps.count irp ≤ 1)
      (completions : next.completions irp = system.completions irp)
      (handed : next.Handed irp)
  | completed (completer : Completer)
      (claimed : system.Claims irp completer)
      (claims : ∀ other, next.Claims irp other → system.Claims irp other)
      (done : system.CompletedOnce irp → ¬ next.Claims irp completer)
      (cleanups :
        ∀ file, (next.files file).cleanup.irps.count irp ≤
          (system.files file).cleanup.irps.count irp)
      (completions : next.completions irp = system.completions irp + 1)
      (handed : next.Handed irp)

namespace Fate

variable {event : Event}

theorem handed (fate : Fate system event next irp) : next.Handed irp := by
  cases fate with
  | kept _ _ _ handed => exact handed
  | taken _ _ _ _ _ handed => exact handed
  | completed _ _ _ _ _ _ handed => exact handed

/-- The one rule for all completers. -/
theorem completedOnce
    (fate : Fate system event next irp)
    (before : system.CompletedOnce irp) (met : system.HandsOver event) :
    next.CompletedOnce irp := by
  cases fate with
  | kept claims cleanups completions _ =>
      refine
        ⟨fun one other first second =>
            before.one one other (claims one first) (claims other second),
          fun file => (cleanups file).trans (before.once file),
          fun other claimed =>
            completions.trans (before.fresh other (claims other claimed)),
          ?_⟩
      rw [completions]
      exact before.most
  | taken completer first claims once completions _ =>
      have unclaimed := first met
      have only : ∀ other, next.Claims irp other → other = completer := by
        intro other claimed
        rcases claims other claimed with same | earlier
        · exact same
        · exact absurd earlier (unclaimed.nobody other)
      have fresh : next.completions irp = 0 :=
        completions.trans unclaimed.fresh
      refine ⟨fun one other first second => ?_, once, fun _ _ => fresh, ?_⟩
      · rw [only one first, only other second]
      · rw [fresh]
        exact Nat.zero_le 1
  | completed completer claimed claims done cleanups completions _ =>
      have nobody : ∀ other, ¬ next.Claims irp other := by
        intro other still
        have same := before.one other completer (claims other still) claimed
        rw [same] at still
        exact done before still
      refine
        ⟨fun one _ first _ => absurd first (nobody one),
          fun file => (cleanups file).trans (before.once file),
          fun other still => absurd still (nobody other), ?_⟩
      rw [completions, before.fresh completer claimed]

end Fate

/-! ## One step -/

/-- A step that leaves the request to itself. -/
theorem Fate.quiet
    {event : Event} (handed : system.Handed irp)
    (changes : system.Changes event next)
    (other : ∀ box, event ≠ .enqueue irp box)
    (recedes : system.Recedes next irp)
    (calm :
      (next.calls irp).isCalm = true → (system.calls irp).isCalm = true)
    (armed : next.isArmed irp = true → system.isArmed irp = true) :
    Fate system event next irp := by
  obtain ⟨early, entries⟩ := entries_of_changes changes other
  exact
    .kept (fun _ => recedes.claims) recedes.cleanups recedes.completions
      (handed.keep recedes ⟨calm, early, armed, entries⟩)

/-- A step in which the request has no part. -/
theorem Fate.apart
    {event : Event} (handed : system.Handed irp)
    (changes : system.Changes event next)
    (other : ∀ box, event ≠ .enqueue irp box)
    (call : next.calls irp = system.calls irp)
    (packet : (system.packets irp).Weaker (next.packets irp))
    (cancellation : next.cancellations irp = system.cancellations irp)
    (dpcs :
      ∀ box, (next.phases box).completes = some irp →
        (system.phases box).completes = some irp)
    (cleanups :
      ∀ file, (next.files file).cleanup.irps.count irp ≤
        (system.files file).cleanup.irps.count irp) :
    Fate system event next irp := by
  refine
    .quiet handed changes other
      ⟨?_, cancellation, dpcs, cleanups, ?_⟩ ?_ packet.routine
  · rw [call]
    exact id
  · unfold completions
    rw [packet.irp]
  · rw [call]
    exact id

/-- A request that is past its section is taken. -/
theorem Fate.take
    {event : Event} {completer : Completer}
    (first : system.HandsOver event → system.Unclaimed irp)
    (claims :
      ∀ other, next.Claims irp other →
        other = completer ∨ system.Claims irp other)
    (once : ∀ file, (next.files file).cleanup.irps.count irp ≤ 1)
    (completions : next.completions irp = system.completions irp)
    (past : (next.calls irp).isPast = true)
    (unarmed : next.isArmed irp = false)
    (absent : ∀ record ∈ next.queue, record.ty.irp ≠ some irp) :
    Fate system event next irp :=
  .taken completer first claims once completions
    (.of_past past unarmed absent)

/-- A request that comes to its answer. -/
theorem Fate.answered
    {event : Event} (invariant : system.Invariant)
    (handed : system.Handed irp)
    (early : (system.calls irp).isPast = false)
    (first : system.HandsOver event → system.cancellations irp = .idle)
    (past : (next.calls irp).isPast = true)
    (unarmed : next.isArmed irp = false)
    (records :
      ∀ record ∈ next.queue, record.ty.irp = some irp →
        record ∈ system.queue)
    (cancellation : next.cancellations irp = system.cancellations irp)
    (dpcs :
      ∀ box, (next.phases box).completes = some irp →
        (system.phases box).completes = some irp)
    (cleanups :
      ∀ file, (next.files file).cleanup = (system.files file).cleanup)
    (completions : next.completions irp = system.completions irp) :
    Fate system event next irp := by
  obtain ⟨waits, fresh⟩ := handed.early early
  obtain ⟨noRecord, noTimer⟩ := invariant.early irp early
  have noDpc : ∀ box, (system.phases box).completes ≠ some irp :=
    fun box completes => noTimer box (Phase.irp_of_completes completes)
  refine
    @take system next irp event .request
      (fun met => .of_waits waits fresh (first met) noDpc) ?_ ?_ completions
      past unarmed ?_
  · intro other claims
    cases other with
    | request => exact Or.inl rfl
    | cancelRoutine =>
        rw [Claims, cancellation] at claims
        exact Or.inr claims
    | dpc box => exact Or.inr (dpcs box claims)
    | cleanup file =>
        rw [Claims, cleanups] at claims
        exact Or.inr claims
  · intro file
    rw [cleanups, List.count_eq_zero.mpr (waits.cleanup file)]
    exact Nat.zero_le 1
  · intro record member based
    exact noRecord record (records record member based) based

theorem cleanup_update
    (files : Address → FileState) (file other : Address)
    (holders : List Address) :
    (Function.update files file
        { files file with holders := holders } other).cleanup =
      (files other).cleanup := by
  by_cases same : other = file
  · subst same
    rw [Function.update_self]
  · rw [Function.update_of_ne same]

theorem release_cleanup
    (system : System) (irp : Address) (file : Option Address)
    (other : Address) :
    ((system.release irp file).files other).cleanup =
      (system.files other).cleanup := by
  cases file with
  | none => rfl
  | some file => exact cleanup_update system.files file other _

/-- One call moves on to where nobody completes. -/
theorem Recedes.of_call
    {moved : Address} {call : Call}
    (calls : next.calls = Function.update system.calls moved call)
    (silent : call.completes = false)
    (notes : next.toNotifications = system.toNotifications)
    (cleanups :
      ∀ file, (next.files file).cleanup = (system.files file).cleanup)
    (completions : next.completions irp = system.completions irp) :
    system.Recedes next irp where
  request := by
    rw [calls]
    by_cases same : irp = moved
    · subst same
      rw [Function.update_self, silent]
      exact fun completes => by cases completes
    · rw [Function.update_of_ne same]
      exact id
  cancellation := by rw [congrArg Notifications.cancellations notes]
  dpcs box := by
    rw [congrArg Notifications.phases notes]
    exact id
  cleanups file := by rw [cleanups file]
  completions := completions

theorem calm_update
    {calls : Address → Call} {moved : Address} {call : Call}
    (before :
      call.isCalm = true → (calls moved).isCalm = true) :
    (Function.update calls moved call irp).isCalm = true →
      (calls irp).isCalm = true := by
  by_cases same : irp = moved
  · subst same
    rw [Function.update_self]
    exact before
  · rw [Function.update_of_ne same]
    exact id

/-- Nobody has the request, and its cancel routine may be set by now. -/
theorem Handed.of_waits
    (unclaimed : next.isArmed irp = true → next.Unclaimed irp)
    (notCalm : (next.calls irp).isCalm = false)
    (waits : next.Waits irp) (fresh : next.completions irp = 0) :
    next.Handed irp where
  armed := unclaimed
  calm calm := by
    rw [notCalm] at calm
    cases calm
  early _ := ⟨waits, fresh⟩
  entry _ _ _ := ⟨waits, fun _ _ => fresh⟩

/-- The DPC in the box of the request has taken its timer. -/
theorem Handed.of_dpc
    {box : Address} {phase : Phase} (invariant : system.Invariant)
    (handed : system.Handed irp)
    (based : (system.phases box).irp = some irp)
    (unarmed : next.isArmed irp = false)
    (calls : next.calls = system.calls)
    (cancellations : next.cancellations = system.cancellations)
    (files : next.files = system.files)
    (queue : next.queue = system.queue)
    (phases : next.phases = Function.update system.phases box phase)
    (context : phase.context = none) : next.Handed irp := by
  have past := invariant.past_of_phase based
  rw [← calls] at past
  refine ⟨?_, ?_, ?_, ?_⟩
  · intro armed
    rw [unarmed] at armed
    cases armed
  · intro calm
    rw [Call.not_isPast_of_isCalm calm] at past
    cases past
  · intro early
    rw [early] at past
    cases past
  · intro record member recorded
    rw [queue] at member
    obtain ⟨waits, _⟩ := handed.entry record member recorded
    refine ⟨⟨?_, ?_, ?_⟩, fun ty still => ?_⟩
    · rw [calls]
      exact waits.request
    · rw [cancellations]
      exact waits.cancelRoutine
    · rw [files]
      exact waits.cleanup
    · have own := invariant.paired box irp based record member recorded
      rw [phases, own, Function.update_self, context] at still
      cases still

theorem complete_completions
    (system : System) (irp : Address) (ioStatus : WduIoStatus) :
    (system.complete irp ioStatus).completions irp =
      system.completions irp + 1 := by
  unfold completions complete setPacket
  dsimp only
  rw [Function.update_self]
  rfl

theorem complete_armed
    (system : System) (irp other : Address) (ioStatus : WduIoStatus) :
    (system.complete irp ioStatus).isArmed other = system.isArmed other := by
  unfold isArmed complete setPacket
  dsimp only
  by_cases same : other = irp
  · subst same
    rw [Function.update_self]
  · rw [Function.update_of_ne same]

theorem setCall_self (system : System) (irp : Address) (call : Call) :
    (system.setCall irp call).calls irp = call := by
  unfold setCall
  exact Function.update_self _ _ _

theorem setPacket_packets
    {moved : Address} {packet : Packet} (different : irp ≠ moved) :
    (system.packets irp).Weaker
      ((system.setPacket moved packet).packets irp) := by
  unfold setPacket
  dsimp only
  rw [Function.update_of_ne different]
  exact .refl _

/-- The DPC in a box goes on, and does not complete the request. -/
theorem completes_update
    {phases : Address → Phase} {box : Address} {phase : Phase}
    (silent : phase.completes ≠ some irp) :
    ∀ other,
      (Function.update phases box phase other).completes = some irp →
        (phases other).completes = some irp := by
  intro other completes
  by_cases same : other = box
  · rw [same, Function.update_self] at completes
    exact absurd completes silent
  · rw [Function.update_of_ne same] at completes
    exact completes

end

end System

end EventDriver

end WinDrvUtils

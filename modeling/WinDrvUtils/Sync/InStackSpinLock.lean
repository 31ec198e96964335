import WinDrvUtils.Sync.SpinLock

/-!
# In-stack queued spin locks

`KeAcquireInStackQueuedSpinLock` queues its caller through a handle that the
caller provides, and wants the handle untouched until the release. As the name
says, a handle belongs on the caller's stack. `WduSpinLock` has one handle for
all processors, in its field `lockhandle`: an acquire stores a new one before
it queues, and a release sets the field to none after it has released.

So a processor that waits replaces the handle of the one that holds the lock.
In a debug build it fails an assertion instead, if it comes late enough.
-/

namespace WinDrvUtils

namespace Sync

namespace InStackSpinLock

open StepSystem Parties

/-- The next step of a processor. A queued processor comes with the handle
that its acquire passed. -/
inductive Phase (Processor : Type) where
  | idle
  | storing
  | queueing
  | queued (handle : LockHandle Processor)
  | holding (handle : LockHandle Processor)
  | releasing (handle passed : LockHandle Processor)
  | clearing
  deriving DecidableEq, Repr

def Phase.busy {Processor : Type} : Phase Processor → Bool
  | .idle => false
  | _ => true

/-- The handle that the kernel has of a processor. -/
def Phase.handle {Processor : Type} :
    Phase Processor → Option (LockHandle Processor)
  | .queued handle => some handle
  | .holding handle => some handle
  | .releasing handle _ => some handle
  | _ => none

/-- A release: who releases, the handle of its own acquire, and the handle
that the kernel got. -/
structure Release (Processor : Type) where
  processor : Processor
  handle : LockHandle Processor
  passed : LockHandle Processor
  deriving DecidableEq, Repr

/-- `queue` is the kernel's: its head is next, or has the lock already. -/
structure System (Processor : Type) where
  lock : WduSpinLock Processor
  queue : List Processor
  phases : Processor → Phase Processor
  releases : List (Release Processor)
  panics : List Panic

def unwrapNone : Panic :=
  .explicit "called `Option::unwrap()` on a `None` value"

/-- The accesses that `acquire_in_stack` and `release_in_stack` make, with the
answer of `current_irql`. -/
inductive Event (Processor : Type) where
  | check (processor : Processor) (irql : UInt8)
  | storeHandle (processor : Processor)
  | enqueue (processor : Processor)
  | grant (processor : Processor)
  | readHandle (processor : Processor)
  | kernelRelease (processor : Processor)
  | clearHandle (processor : Processor)

variable {Processor : Type}

def System.new : System Processor :=
  ⟨WduSpinLock.new Processor, [], fun _ => .idle, [], []⟩

variable [DecidableEq Processor]

namespace System

def move (system : System Processor) (processor : Processor)
    (phase : Phase Processor) : System Processor :=
  { system with
    phases := Function.update system.phases processor phase }

def setHandle (system : System Processor)
    (handle : Option (LockHandle Processor)) : System Processor :=
  { system with lock := { system.lock with lockhandle := handle } }

/-- The processor stops in the panic. -/
def fail (system : System Processor) (panic : Panic) : System Processor :=
  { system with panics := panic :: system.panics }

end System

/-- `debugAssertions` tells whether `debug_assert!` does something. -/
def step (debugAssertions : Bool) (system : System Processor) :
    Event Processor → Option (System Processor)
  | .check processor irql =>
      match system.phases processor with
      | .idle =>
          if debugAssertions = true ∧ ¬ irql ≤ dispatchLevel then
            some
              (system.fail
                (.assertion "current_irql() <= DISPATCH_LEVEL as u8"))
          else if debugAssertions = true ∧
              system.lock.lockhandle.isSome = true then
            some (system.fail (.assertion "self.lockhandle.is_none()"))
          else some (system.move processor .storing)
      | _ => none
  | .storeHandle processor =>
      match system.phases processor with
      | .storing =>
          some
            ((system.setHandle (some ⟨processor⟩)).move processor .queueing)
      | _ => none
  | .enqueue processor =>
      match system.phases processor with
      | .queueing =>
          match system.lock.lockhandle with
          | none => some (system.fail unwrapNone)
          | some handle =>
              some
                { system.move processor (.queued handle) with
                  queue := system.queue ++ [processor] }
      | _ => none
  | .grant processor =>
      match system.phases processor with
      | .queued handle =>
          if system.queue.head? = some processor then
            some
              { system.move processor (.holding handle) with
                lock := { system.lock with spinlock := some processor } }
          else none
      | _ => none
  | .readHandle processor =>
      match system.phases processor with
      | .holding handle =>
          match system.lock.lockhandle with
          | none =>
              some
                (system.fail
                  (if debugAssertions then
                    .assertion "self.lockhandle.is_some()"
                  else unwrapNone))
          | some passed =>
              some (system.move processor (.releasing handle passed))
      | _ => none
  | .kernelRelease processor =>
      match system.phases processor with
      | .releasing handle passed =>
          some
            { system.move processor .clearing with
              lock := { system.lock with spinlock := none }
              queue := system.queue.erase processor
              releases :=
                ⟨processor, handle, passed⟩ :: system.releases }
      | _ => none
  | .clearHandle processor =>
      match system.phases processor with
      | .clearing =>
          some ((system.setHandle none).move processor .idle)
      | _ => none

/-- The field still has the handle of every processor that the kernel has
queued, each release passed the handle of its own acquire, and nothing
failed. -/
structure Intact (system : System Processor) : Prop where
  kept : ∀ processor handle,
    (system.phases processor).handle = some handle →
      handle = ⟨processor⟩ ∧ system.lock.lockhandle = some handle
  passed : ∀ release ∈ system.releases,
    release.handle = ⟨release.processor⟩ ∧
      release.passed = release.handle
  unfailed : system.panics = []

/-- `acquire_in_stack` begins while no other processor is between the
beginning of `acquire_in_stack` and the end of `release_in_stack`, and where
that is asserted at a low IRQL. -/
def Alone (debugAssertions : Bool) (system : System Processor) :
    Event Processor → Prop
  | .check processor irql =>
      (debugAssertions = true → irql ≤ dispatchLevel) ∧
        OnlyBusy Phase.busy system.phases (some processor)
  | _ => True

/-! ## The invariant -/

/-- What a processor relies on between its steps. -/
def Phase.Fits (processor : Processor)
    (field : Option (LockHandle Processor)) : Phase Processor → Prop
  | .idle => True
  | .storing => True
  | .queueing => field = some ⟨processor⟩
  | .queued handle => handle = ⟨processor⟩ ∧ field = some handle
  | .holding handle => handle = ⟨processor⟩ ∧ field = some handle
  | .releasing handle passed =>
      handle = ⟨processor⟩ ∧ field = some handle ∧ passed = handle
  | .clearing => True

def Release.Own (release : Release Processor) : Prop :=
  release.handle = ⟨release.processor⟩ ∧ release.passed = release.handle

structure Sound (system : System Processor) : Prop where
  alone : ∃ who, OnlyBusy Phase.busy system.phases who
  free :
    OnlyBusy Phase.busy system.phases none → system.lock.lockhandle = none
  fits : ∀ processor,
    (system.phases processor).Fits processor system.lock.lockhandle
  passed : ∀ release ∈ system.releases, release.Own
  unfailed : system.panics = []

omit [DecidableEq Processor] in
theorem Sound.intact
    {system : System Processor} (sound : Sound system) :
    Intact system where
  kept processor handle has := by
    have fits := sound.fits processor
    cases phase : system.phases processor with
    | queued own | holding own =>
        rw [phase] at fits has
        cases has
        exact fits
    | releasing own passed =>
        rw [phase] at fits has
        cases has
        exact ⟨fits.1, fits.2.1⟩
    | idle | storing | queueing | clearing =>
        rw [phase] at has
        cases has
  passed := sound.passed
  unfailed := sound.unfailed

omit [DecidableEq Processor] in
theorem Phase.fits_of_calm
    {phase : Phase Processor} (calm : phase.busy = false)
    (processor : Processor) (field : Option (LockHandle Processor)) :
    phase.Fits processor field := by
  cases phase with
  | idle => trivial
  | _ => cases calm

section Steps

variable {system next : System Processor} {processor : Processor}

omit [DecidableEq Processor] in
theorem Sound.alone_in
    {phase : Phase Processor} (sound : Sound system)
    (here : system.phases processor = phase) (busy : phase.busy = true) :
    OnlyBusy Phase.busy system.phases (some processor) := by
  obtain ⟨who, only⟩ := sound.alone
  exact only.of_state here busy

omit [DecidableEq Processor] in
theorem Sound.fits_in
    {phase : Phase Processor} (sound : Sound system)
    (here : system.phases processor = phase) :
    phase.Fits processor system.lock.lockhandle := by
  rw [← here]
  exact sound.fits processor

/-- Nobody but the busy processor has to fit the field. -/
theorem fits_update
    (alone : OnlyBusy Phase.busy system.phases (some processor))
    {phase : Phase Processor} {field : Option (LockHandle Processor)}
    (here : phase.Fits processor field) :
    ∀ other,
      (Function.update system.phases processor phase other).Fits other
        field := by
  apply alone.forall_update fun other phase => phase.Fits other field
  · intro other resting calm
    exact resting.fits_of_calm calm other field
  · exact here

/-- The only busy processor goes on: it alone has to fit the field. -/
theorem sound_move
    (alone : OnlyBusy Phase.busy system.phases (some processor))
    {phase : Phase Processor}
    (phases :
      next.phases = Function.update system.phases processor phase)
    (busy : phase.busy = true)
    (fits : phase.Fits processor next.lock.lockhandle)
    (passed : ∀ release ∈ next.releases, release.Own)
    (unfailed : next.panics = []) :
    Sound next where
  alone := by
    rw [phases]
    exact ⟨some processor, alone.update⟩
  free calm := by
    have still : (next.phases processor).busy = true := by
      rw [phases, Function.update_self]
      exact busy
    exact absurd calm (OnlyBusy.not_none still)
  fits := by
    rw [phases]
    exact fits_update alone fits
  passed := passed
  unfailed := unfailed

/-- Alone, a processor finds no handle in the field. -/
theorem sound_check
    {debugAssertions : Bool} {irql : UInt8} (sound : Sound system)
    (guarded : Alone debugAssertions system (.check processor irql))
    (stepped :
      step debugAssertions system (.check processor irql) = some next) :
    Sound next := by
  obtain ⟨low, alone⟩ := guarded
  simp only [step] at stepped
  split at stepped
  · next phase =>
      have calm : OnlyBusy Phase.busy system.phases none := by
        intro other busy
        rw [alone.eq busy, phase] at busy
        cases busy
      rw [sound.free calm] at stepped
      split at stepped
      · next high => exact absurd (low high.1) high.2
      · split at stepped
        · next taken => cases taken.2
        · cases stepped
          exact sound_move alone rfl rfl trivial sound.passed sound.unfailed
  · cases stepped

theorem sound_step
    {debugAssertions : Bool} {event : Event Processor} (sound : Sound system)
    (guarded : Alone debugAssertions system event)
    (stepped : step debugAssertions system event = some next) :
    Sound next := by
  cases event with
  | check processor irql =>
      exact sound_check sound guarded stepped
  | storeHandle processor =>
      simp only [step] at stepped
      split at stepped
      · next phase =>
          cases stepped
          have alone := sound.alone_in phase rfl
          exact sound_move alone rfl rfl rfl sound.passed sound.unfailed
      · cases stepped
  | enqueue processor =>
      simp only [step] at stepped
      split at stepped
      · next phase =>
          have alone := sound.alone_in phase rfl
          have field : system.lock.lockhandle = some ⟨processor⟩ :=
            sound.fits_in phase
          rw [field] at stepped
          cases stepped
          exact
            sound_move alone rfl rfl ⟨rfl, field⟩ sound.passed
              sound.unfailed
      · cases stepped
  | grant processor =>
      simp only [step] at stepped
      split at stepped
      · next phase =>
          have alone := sound.alone_in phase rfl
          have fits := sound.fits_in phase
          split at stepped
          · cases stepped
            exact
              sound_move alone rfl rfl fits sound.passed sound.unfailed
          · cases stepped
      · cases stepped
  | readHandle processor =>
      simp only [step] at stepped
      split at stepped
      · next handle phase =>
          have alone := sound.alone_in phase rfl
          obtain ⟨own, field⟩ := sound.fits_in phase
          rw [field] at stepped
          cases stepped
          exact
            sound_move alone rfl rfl ⟨own, field, rfl⟩ sound.passed
              sound.unfailed
      · cases stepped
  | kernelRelease processor =>
      simp only [step] at stepped
      split at stepped
      · next handle passed phase =>
          have alone := sound.alone_in phase rfl
          obtain ⟨own, _, same⟩ := sound.fits_in phase
          cases stepped
          refine sound_move alone rfl rfl trivial ?_ sound.unfailed
          exact List.forall_mem_cons.mpr ⟨⟨own, same⟩, sound.passed⟩
      · cases stepped
  | clearHandle processor =>
      simp only [step] at stepped
      split at stepped
      · next phase =>
          have alone := sound.alone_in phase rfl
          cases stepped
          exact
            ⟨⟨none, alone.leave rfl⟩, fun _ => rfl,
              fits_update alone trivial, sound.passed, sound.unfailed⟩
      · cases stepped

end Steps

omit [DecidableEq Processor] in
theorem sound_new : Sound (System.new : System Processor) where
  alone := ⟨none, fun _ busy => nomatch busy⟩
  free _ := rfl
  fits _ := trivial
  passed := nofun
  unfailed := rfl

/-- For any processors that share one lock and every interleaving of the steps
of `acquire_in_stack` and `release_in_stack` in which an acquire only begins
while no other processor is inside: the field keeps the handle of the
processor that is queued, each release passes the handle of its own acquire,
and nothing fails. -/
theorem handles_intact
    (debugAssertions : Bool) (events : List (Event Processor))
    (guarded :
      Guarded (step debugAssertions) (Alone debugAssertions)
        (System.new : System Processor) events) :
    Always (step debugAssertions) Intact (System.new : System Processor)
      events :=
  (always_of_guarded
    (fun _ _ _ sound alone stepped => sound_step sound alone stepped)
    sound_new guarded).mono fun _ sound => sound.intact

def acquireInStack (processor : Nat) : List (Event Nat) :=
  [.check processor passiveLevel, .storeHandle processor,
    .enqueue processor, .grant processor]

def releaseInStack (processor : Nat) : List (Event Nat) :=
  [.readHandle processor, .kernelRelease processor, .clearHandle processor]

theorem acquireAndRelease_intact :
    Always (step true) Intact (System.new : System Nat)
      (acquireInStack 1 ++ releaseInStack 1) := by
  apply handles_intact true _
  refine .cons rfl ⟨fun _ => by decide, fun _ busy => nomatch busy⟩ ?_
  refine .cons rfl trivial (.cons rfl trivial (.cons rfl trivial ?_))
  exact .cons rfl trivial (.cons rfl trivial (.cons rfl trivial trivial))

/-- While the first processor holds the lock, the second one replaces its
handle. A debug build stops the second one instead. -/
theorem contention_replacesHandle :
    (∃ last,
        run (step false) (System.new : System Nat)
            (acquireInStack 1 ++ [.check 2 passiveLevel, .storeHandle 2]) =
          some last ∧
        (last.phases 1).handle = some ⟨1⟩ ∧
        last.lock.lockhandle = some ⟨2⟩ ∧
        ¬ Always (step false) Intact (System.new : System Nat)
            (acquireInStack 1 ++
              [.check 2 passiveLevel, .storeHandle 2])) ∧
      ¬ Always (step true) Intact (System.new : System Nat)
          (acquireInStack 1 ++ [.check 2 passiveLevel]) := by
  refine ⟨⟨_, rfl, rfl, rfl, fun always => ?_⟩, fun always => ?_⟩
  · have kept := (always.last rfl).kept 1 ⟨1⟩ rfl
    exact absurd kept.2 (by decide)
  · have unfailed := (always.last rfl).unfailed
    exact List.cons_ne_nil _ _ unfailed

end InStackSpinLock

end Sync

end WinDrvUtils

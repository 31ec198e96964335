import WinDrvUtils.Nt
import WinDrvUtils.Library.Parties
import WinDrvUtils.Library.StepSystem

/-!
# Spin locks

`WduSpinLock` keeps in `old_irql` the IRQL to which a release lowers its
processor. Any number of processors share one lock, and one field. An acquire
stores to the field when the kernel has given it the lock, and a release reads
it before it gives the lock back, so the accesses of a pair lie inside of its
critical section. `Restored` says that the field did its work: each release
got the IRQL that its own acquire returned.

`acquire_at_dpc` and `release_from_dpc` leave the IRQL and the field alone.
-/

namespace WinDrvUtils

namespace Sync

def passiveLevel : UInt8 := 0

def dispatchLevel : UInt8 := 2

/-- A `KLOCK_QUEUE_HANDLE` starts as zeros, so a handle is known by the
processor that stored it. -/
structure LockHandle (Processor : Type) where
  storedBy : Processor
  deriving DecidableEq, Repr

/-- `spinlock` is the processor that the kernel gave the lock to. -/
structure WduSpinLock (Processor : Type) where
  oldIrql : UInt8
  spinlock : Option Processor
  lockhandle : Option (LockHandle Processor)

def WduSpinLock.new (Processor : Type) : WduSpinLock Processor where
  oldIrql := 0
  spinlock := none
  lockhandle := none

namespace SpinLock

open StepSystem Parties

/-- The matched methods: `acquire` and `release`, `acquire_for_dpc` and
`release_for_dpc`, `acquire_at_dpc` and `release_from_dpc`. -/
inductive MethodPair where
  | raiseToDpc
  | forDpc
  | atDpc
  deriving DecidableEq, Repr

namespace MethodPair

/-- The debug assertion of the method that acquires, which is also what the
kernel wants. -/
def MayAcquire (irql : UInt8) : MethodPair → Prop
  | raiseToDpc => irql ≤ dispatchLevel
  | forDpc => irql ≤ dispatchLevel
  | atDpc => dispatchLevel ≤ irql

/-- The debug assertion of the method that releases. -/
def MayRelease (irql : UInt8) : MethodPair → Prop
  | raiseToDpc => irql = dispatchLevel
  | forDpc => irql = dispatchLevel
  | atDpc => dispatchLevel ≤ irql

instance (irql : UInt8) : (pair : MethodPair) →
    Decidable (MayAcquire irql pair)
  | raiseToDpc => inferInstanceAs (Decidable (irql ≤ dispatchLevel))
  | forDpc => inferInstanceAs (Decidable (irql ≤ dispatchLevel))
  | atDpc => inferInstanceAs (Decidable (dispatchLevel ≤ irql))

/-- Whether the methods raise the IRQL and lower it again. -/
def raises : MethodPair → Bool
  | raiseToDpc => true
  | forDpc => true
  | atDpc => false

end MethodPair

/-- A critical section: the IRQL before it, and what the kernel returned to
the acquire, which is nothing for `acquire_at_dpc`. -/
structure Section where
  pair : MethodPair
  entered : UInt8
  returned : Option UInt8
  deriving DecidableEq, Repr

/-- The next step of a processor. -/
inductive Phase where
  | idle
  | storing (entry : Section) (irql : UInt8)
  | holding (entry : Section)
  | releasing (entry : Section) (read : Option UInt8)
  deriving DecidableEq, Repr

def Phase.busy : Phase → Bool
  | .idle => false
  | _ => true

/-- A release: its critical section, the IRQL that the kernel got, and the
IRQL of the processor afterwards. -/
structure Release where
  entry : Section
  passed : Option UInt8
  left : UInt8
  deriving DecidableEq, Repr

structure System (Processor : Type) where
  lock : WduSpinLock Processor
  irql : Processor → UInt8
  phases : Processor → Phase
  releases : List Release

/-- A processor changes its IRQL as it likes while it has nothing to do with
the lock. The other events are the accesses that the methods make. -/
inductive Event (Processor : Type) where
  | setIrql (processor : Processor) (irql : UInt8)
  | kernelAcquire (processor : Processor) (pair : MethodPair)
  | storeOldIrql (processor : Processor)
  | readOldIrql (processor : Processor)
  | kernelRelease (processor : Processor)

variable {Processor : Type}

def System.new (irql : Processor → UInt8) : System Processor :=
  ⟨WduSpinLock.new Processor, irql, fun _ => .idle, []⟩

variable [DecidableEq Processor]

namespace System

/-- The kernel gives a lock that is free, and raises the IRQL. -/
def kernelAcquire (system : System Processor) (processor : Processor)
    (pair : MethodPair) : System Processor :=
  let irql := system.irql processor
  let entry : Section :=
    ⟨pair, irql, if pair.raises then some irql else none⟩
  { system with
    lock := { system.lock with spinlock := some processor }
    irql :=
      if pair.raises then
        Function.update system.irql processor dispatchLevel
      else system.irql
    phases :=
      Function.update system.phases processor
        (if pair.raises then .storing entry irql else .holding entry) }

def storeOldIrql (system : System Processor) (processor : Processor)
    (entry : Section) (irql : UInt8) : System Processor :=
  { system with
    lock := { system.lock with oldIrql := irql }
    phases := Function.update system.phases processor (.holding entry) }

def readOldIrql (system : System Processor) (processor : Processor)
    (entry : Section) : System Processor :=
  { system with
    phases :=
      Function.update system.phases processor
        (.releasing entry
          (if entry.pair.raises then some system.lock.oldIrql else none)) }

/-- The kernel lowers the IRQL to the one that it gets. -/
def kernelRelease (system : System Processor) (processor : Processor)
    (entry : Section) (read : Option UInt8) : System Processor :=
  let left := read.getD (system.irql processor)
  { lock := { system.lock with spinlock := none }
    irql := Function.update system.irql processor left
    phases := Function.update system.phases processor .idle
    releases := ⟨entry, read, left⟩ :: system.releases }

end System

def step (system : System Processor) :
    Event Processor → Option (System Processor)
  | .setIrql processor irql =>
      match system.phases processor with
      | .idle =>
          some
            { system with
              irql := Function.update system.irql processor irql }
      | _ => none
  | .kernelAcquire processor pair =>
      match system.phases processor, system.lock.spinlock with
      | .idle, none =>
          if pair.MayAcquire (system.irql processor) then
            some (system.kernelAcquire processor pair)
          else none
      | _, _ => none
  | .storeOldIrql processor =>
      match system.phases processor with
      | .storing entry irql => some (system.storeOldIrql processor entry irql)
      | _ => none
  | .readOldIrql processor =>
      match system.phases processor with
      | .holding entry => some (system.readOldIrql processor entry)
      | _ => none
  | .kernelRelease processor =>
      match system.phases processor with
      | .releasing entry read =>
          some (system.kernelRelease processor entry read)
      | _ => none

/-- Each release passed the IRQL that its own acquire returned, and left its
processor at the IRQL at which it had entered. Whoever is about to release
meets the debug assertion. -/
structure Restored (system : System Processor) : Prop where
  passed : ∀ release ∈ system.releases,
    release.passed = release.entry.returned
  left : ∀ release ∈ system.releases,
    release.left = release.entry.entered
  asserted : ∀ processor entry,
    system.phases processor = .holding entry →
      entry.pair.MayRelease (system.irql processor)

/-! ## The invariant -/

/-- What is known of a critical section while the field is the holder's. -/
def Section.Fits (entry : Section) (oldIrql irql : UInt8) : Prop :=
  if entry.pair.raises then
    entry.returned = some oldIrql ∧ entry.entered = oldIrql ∧
      irql = dispatchLevel
  else
    entry.returned = none ∧ entry.entered = irql ∧ dispatchLevel ≤ irql

def Phase.Fits (oldIrql irql : UInt8) : Phase → Prop
  | .idle => True
  | .storing entry returned => entry.Fits returned irql
  | .holding entry => entry.Fits oldIrql irql
  | .releasing entry read =>
      read = entry.returned ∧ read.getD irql = entry.entered

/-- The processor that has the lock is the only one with something to do, so
the field is its own. -/
structure Sound (system : System Processor) : Prop where
  alone : OnlyBusy Phase.busy system.phases system.lock.spinlock
  fits : ∀ processor,
    (system.phases processor).Fits system.lock.oldIrql
      (system.irql processor)
  passed : ∀ release ∈ system.releases,
    release.passed = release.entry.returned
  left : ∀ release ∈ system.releases,
    release.left = release.entry.entered

omit [DecidableEq Processor] in
theorem Sound.fits_in
    {system : System Processor} {processor : Processor} {phase : Phase}
    (sound : Sound system) (here : system.phases processor = phase) :
    phase.Fits system.lock.oldIrql (system.irql processor) := by
  rw [← here]
  exact sound.fits processor

omit [DecidableEq Processor] in
theorem Sound.restored
    {system : System Processor} (sound : Sound system) :
    Restored system where
  passed := sound.passed
  left := sound.left
  asserted processor entry phase := by
    have fits := sound.fits_in phase
    obtain ⟨pair, entered, returned⟩ := entry
    cases pair with
    | raiseToDpc | forDpc | atDpc => exact fits.2.2

theorem Phase.fits_of_calm
    {phase : Phase} (calm : phase.busy = false) (oldIrql irql : UInt8) :
    phase.Fits oldIrql irql := by
  cases phase with
  | idle => trivial
  | _ => cases calm

section Steps

variable {system : System Processor} {processor : Processor}

/-- Nobody else has anything to do with the field. -/
theorem fits_update
    (alone : OnlyBusy Phase.busy system.phases (some processor))
    {phase : Phase} {oldIrql : UInt8} {irql : Processor → UInt8}
    (here : phase.Fits oldIrql (irql processor)) :
    ∀ other,
      (Function.update system.phases processor phase other).Fits oldIrql
        (irql other) := by
  apply alone.forall_update fun other phase => phase.Fits oldIrql (irql other)
  · intro other resting calm
    exact Phase.fits_of_calm calm oldIrql (irql other)
  · exact here

theorem sound_setIrql
    (sound : Sound system) (irql : UInt8)
    (phase : system.phases processor = .idle) :
    Sound
      { system with irql := Function.update system.irql processor irql } where
  alone := sound.alone
  fits other := by
    by_cases same : other = processor
    · rw [same, phase]
      trivial
    · simp only [Function.update_of_ne same]
      exact sound.fits other
  passed := sound.passed
  left := sound.left

theorem sound_kernelAcquire
    (sound : Sound system) {pair : MethodPair}
    (free : system.lock.spinlock = none)
    (may : pair.MayAcquire (system.irql processor)) :
    Sound (system.kernelAcquire processor pair) := by
  have alone := sound.alone
  rw [free] at alone
  have entering := alone.weaken (some processor)
  refine ⟨entering.update, ?_, sound.passed, sound.left⟩
  apply fits_update entering
  cases pair with
  | raiseToDpc | forDpc =>
      exact ⟨rfl, rfl, Function.update_self _ _ _⟩
  | atDpc =>
      exact ⟨rfl, rfl, may⟩

theorem sound_storeOldIrql
    (sound : Sound system) {entry : Section} {irql : UInt8}
    (phase : system.phases processor = .storing entry irql) :
    Sound (system.storeOldIrql processor entry irql) := by
  have fits := sound.fits_in phase
  have alone := sound.alone.of_state phase rfl
  refine ⟨?_, fits_update alone fits, sound.passed, sound.left⟩
  exact sound.alone.stay phase rfl

theorem sound_readOldIrql
    (sound : Sound system) {entry : Section}
    (phase : system.phases processor = .holding entry) :
    Sound (system.readOldIrql processor entry) := by
  have fits := sound.fits_in phase
  have alone := sound.alone.of_state phase rfl
  refine ⟨?_, fits_update alone ?_, sound.passed, sound.left⟩
  · exact sound.alone.stay phase rfl
  · obtain ⟨pair, entered, returned⟩ := entry
    cases pair with
    | raiseToDpc | forDpc | atDpc =>
        obtain ⟨same, own, _⟩ := fits
        exact ⟨same.symm, own.symm⟩

theorem sound_kernelRelease
    (sound : Sound system) {entry : Section} {read : Option UInt8}
    (phase : system.phases processor = .releasing entry read) :
    Sound (system.kernelRelease processor entry read) := by
  have fits := sound.fits_in phase
  have alone := sound.alone.of_state phase rfl
  refine ⟨alone.leave rfl, fits_update alone trivial, ?_, ?_⟩
  · exact List.forall_mem_cons.mpr ⟨fits.1, sound.passed⟩
  · exact List.forall_mem_cons.mpr ⟨fits.2, sound.left⟩

end Steps

theorem sound_step
    {system next : System Processor} {event : Event Processor}
    (sound : Sound system) (stepped : step system event = some next) :
    Sound next := by
  cases event with
  | setIrql processor irql =>
      simp only [step] at stepped
      split at stepped
      · next phase =>
          cases stepped
          exact sound_setIrql sound irql phase
      · cases stepped
  | kernelAcquire processor pair =>
      simp only [step] at stepped
      split at stepped
      · next _ free =>
          split at stepped
          · next may =>
              cases stepped
              exact sound_kernelAcquire sound free may
          · cases stepped
      · cases stepped
  | storeOldIrql processor =>
      simp only [step] at stepped
      split at stepped
      · next phase =>
          cases stepped
          exact sound_storeOldIrql sound phase
      · cases stepped
  | readOldIrql processor =>
      simp only [step] at stepped
      split at stepped
      · next phase =>
          cases stepped
          exact sound_readOldIrql sound phase
      · cases stepped
  | kernelRelease processor =>
      simp only [step] at stepped
      split at stepped
      · next phase =>
          cases stepped
          exact sound_kernelRelease sound phase
      · cases stepped

omit [DecidableEq Processor] in
theorem sound_new (irql : Processor → UInt8) : Sound (System.new irql) where
  alone := fun _ busy => nomatch busy
  fits _ := trivial
  passed := nofun
  left := nofun

/-- For any processors that share one spin lock and every interleaving of the
steps of their matched acquires and releases: each release passes the IRQL
that its own acquire returned, and each processor leaves its critical section
at the IRQL at which it entered. -/
theorem irqls_restored
    (irql : Processor → UInt8) (events : List (Event Processor)) :
    Always step Restored (System.new irql) events :=
  always_of_preserved (fun _ sound => sound.restored)
    (fun _ _ _ sound stepped => sound_step sound stepped) (sound_new irql)
    events

end SpinLock

end Sync

end WinDrvUtils

import WinDrvUtils.Nt
import WinDrvUtils.Library.StepSystem
import WinDrvUtils.Sync.SpinLock

/-!
# Fast mutexes

`new`, `const_new` and `default` make a `WduFastMutex` of zeros, which is one
that nobody holds and nobody can get: only `init` stores the lock bit to
`Count`. `acquire` raises the thread to `APC_LEVEL`, and the kernel keeps in
the mutex the IRQL to which `release` lowers it. `acquire_unsafe` and
`release_unsafe` leave the IRQL alone; the thread has to be in a critical
region, so that no APC makes it wait for itself.

Any number of threads share one mutex, at `PASSIVE_LEVEL` but for what the
mutex does. A thread that asks for the mutex that it holds is stuck.
-/

namespace WinDrvUtils

namespace Sync

def apcLevel : UInt8 := 1

/-- `FM_LOCK_BIT` -/
def fmLockBit : UInt32 := 1

namespace FastMutex

open StepSystem

/-- `FAST_MUTEX`, without what only the kernel uses. -/
structure WduFastMutex where
  count : Int32
  oldIrql : UInt8
  deriving DecidableEq, Repr

/-- Also `const_new` and `default`. -/
def new : WduFastMutex := ⟨0, 0⟩

def init (mutex : WduFastMutex) : WduFastMutex :=
  { mutex with count := fmLockBit.toInt32 }

/-- The bit is there while nobody holds the mutex. -/
def IsFree (mutex : WduFastMutex) : Prop :=
  mutex.count = fmLockBit.toInt32

instance (mutex : WduFastMutex) : Decidable (IsFree mutex) :=
  inferInstanceAs (Decidable (mutex.count = fmLockBit.toInt32))

/-- The kernel takes the bit, and stores the IRQL if it has raised it. -/
def take (mutex : WduFastMutex) (saved : Option UInt8) :
    WduFastMutex :=
  ⟨0, saved.getD mutex.oldIrql⟩

/-- `saved` is the IRQL that `acquire` came with, and `raised` says that the
mutex was got by it or by `try_acquire`. -/
inductive Phase where
  | idle
  | waiting (saved : Option UInt8)
  | holding (raised : Bool)
  | stuck
  deriving DecidableEq, Repr

def Phase.holds : Phase → Bool
  | .holding _ => true
  | _ => false

def Phase.waits : Phase → Bool
  | .waiting _ => true
  | _ => false

structure ThreadState where
  phase : Phase
  irql : UInt8
  regions : Nat
  deriving DecidableEq, Repr

/-- `stray` are the threads that released what they did not hold. -/
structure System (Thread : Type) where
  mutex : WduFastMutex
  threads : Thread → ThreadState
  stray : List Thread

/-- `acquire` with `raises` is `acquire`, and `acquire_unsafe` without;
likewise `release`. `wake` is the kernel's, and the last two are those of the
critical regions. -/
inductive Event (Thread : Type) where
  | init
  | acquire (thread : Thread) (raises : Bool)
  | wake (thread : Thread)
  | tryAcquire (thread : Thread)
  | release (thread : Thread) (lowers : Bool)
  | enterRegion (thread : Thread)
  | leaveRegion (thread : Thread)
  deriving DecidableEq, Repr

def System.new (Thread : Type) : System Thread where
  mutex := FastMutex.new
  threads := fun _ => ⟨.idle, passiveLevel, 0⟩
  stray := []

section

variable {Thread : Type} [DecidableEq Thread]

namespace System

variable (system : System Thread) (thread : Thread)

def setThread (state : ThreadState) : System Thread :=
  { system with threads := Function.update system.threads thread state }

/-- `ExAcquireFastMutex` and `ExAcquireFastMutexUnsafe`. -/
def acquire (raises : Bool) : Option (System Thread) :=
  let state := system.threads thread
  match state.phase with
  | .idle =>
      let saved := if raises then some state.irql else none
      let irql := if raises then apcLevel else state.irql
      if IsFree system.mutex then
        some
          { system.setThread thread
              { state with phase := .holding raises, irql := irql } with
            mutex := take system.mutex saved }
      else
        some
          (system.setThread thread
            { state with phase := .waiting saved, irql := irql })
  | .holding _ => some (system.setThread thread { state with phase := .stuck })
  | _ => none

def wake : Option (System Thread) :=
  let state := system.threads thread
  match state.phase with
  | .waiting saved =>
      if IsFree system.mutex then
        some
          { system.setThread thread
              { state with phase := .holding saved.isSome } with
            mutex := take system.mutex saved }
      else none
  | _ => none

/-- `ExTryToAcquireFastMutex`, which lowers the thread again if it is in
vain. -/
def tryAcquire : Option (System Thread) :=
  let state := system.threads thread
  match state.phase with
  | .idle =>
      if IsFree system.mutex then
        some
          { system.setThread thread
              { state with phase := .holding true, irql := apcLevel } with
            mutex := take system.mutex (some state.irql) }
      else some system
  | .holding _ => some system
  | _ => none

/-- `ExReleaseFastMutex` and `ExReleaseFastMutexUnsafe`. -/
def release (lowers : Bool) : Option (System Thread) :=
  let state := system.threads thread
  match state.phase with
  | .idle => some { system with stray := thread :: system.stray }
  | .holding _ =>
      some
        { system.setThread thread
            { state with
              phase := .idle
              irql := if lowers then system.mutex.oldIrql else state.irql } with
          mutex := init system.mutex }
  | _ => none

def enterRegion : Option (System Thread) :=
  let state := system.threads thread
  match state.phase with
  | .idle | .holding _ =>
      some
        (system.setThread thread { state with regions := state.regions + 1 })
  | _ => none

def leaveRegion : Option (System Thread) :=
  let state := system.threads thread
  match state.phase with
  | .idle | .holding _ =>
      if state.regions = 0 then none
      else
        some
          (system.setThread thread
            { state with regions := state.regions - 1 })
  | _ => none

end System

def step (system : System Thread) :
    Event Thread → Option (System Thread)
  | .init => some { system with mutex := init system.mutex }
  | .acquire thread raises => system.acquire thread raises
  | .wake thread => system.wake thread
  | .tryAcquire thread => system.tryAcquire thread
  | .release thread lowers => system.release thread lowers
  | .enterRegion thread => system.enterRegion thread
  | .leaveRegion thread => system.leaveRegion thread

/-! ## What the threads rely on -/

/-- A thread that has nothing to do with the mutex is where it was. One that
waits or holds runs no APC: it is at `APC_LEVEL`, or in a critical region. -/
def ThreadState.Fits : ThreadState → Prop
  | ⟨.idle, irql, _⟩ => irql = passiveLevel
  | ⟨.waiting (some saved), irql, _⟩ =>
      irql = apcLevel ∧ saved = passiveLevel
  | ⟨.holding true, irql, _⟩ => irql = apcLevel
  | ⟨.waiting none, irql, regions⟩ | ⟨.holding false, irql, regions⟩ =>
      irql = passiveLevel ∧ regions ≠ 0
  | ⟨.stuck, _, _⟩ => False

def System.Holds (system : System Thread) (thread : Thread) : Prop :=
  (system.threads thread).phase.holds = true

/-- Somebody holds the mutex. -/
def System.Held (system : System Thread) : Prop :=
  ∃ thread, system.Holds thread

/-- One thread at most holds the mutex, no thread waits for nothing, and the
IRQL of every thread is as it should be, after the next `release` too. -/
structure Sound (system : System Thread) : Prop where
  fits : ∀ thread, (system.threads thread).Fits
  restores : system.mutex.oldIrql = passiveLevel
  exclusive :
    ∀ thread other, system.Holds thread → system.Holds other →
      thread = other
  taken : ∀ thread, system.Holds thread → ¬ IsFree system.mutex
  awaited :
    ∀ thread, (system.threads thread).phase.waits = true →
      IsFree system.mutex ∨ system.Held
  clean : system.stray = []

/-- The mutex is initialised while nobody holds it, and before it is asked
for. Nobody asks for it again, `acquire_unsafe` comes in a region and is not
left alone in it, and each releases what it holds, with `release` if it was
raised. -/
def InOrder (system : System Thread) : Event Thread → Prop
  | .init => ¬ system.Held
  | .acquire thread raises =>
      (system.threads thread).phase.holds = false ∧
        (IsFree system.mutex ∨ system.Held) ∧
          (raises = true ∨ (system.threads thread).regions ≠ 0)
  | .wake _ | .tryAcquire _ | .enterRegion _ => True
  | .release thread lowers =>
      ∃ raised, (system.threads thread).phase = .holding raised ∧
        (raised = true → lowers = true)
  | .leaveRegion thread =>
      (system.threads thread).phase = .holding false →
        (system.threads thread).regions ≠ 1

/-! ## One step -/

section Changes

variable {system : System Thread} {thread : Thread} {state : ThreadState}

theorem not_isFree_take (mutex : WduFastMutex) (saved : Option UInt8) :
    ¬ IsFree (take mutex saved) :=
  show (0 : Int32) ≠ fmLockBit.toInt32 by decide

@[simp]
theorem threads_setThread_self :
    (system.setThread thread state).threads thread = state := by
  dsimp only [System.setThread]
  rw [Function.update_self]

theorem threads_setThread_of_ne {other : Thread} (different : other ≠ thread) :
    (system.setThread thread state).threads other =
      system.threads other := by
  dsimp only [System.setThread]
  rw [Function.update_of_ne different]

theorem fits_setThread_iff (sound : Sound system) :
    (∀ other, ((system.setThread thread state).threads other).Fits) ↔
      state.Fits := by
  unfold System.setThread
  rw [Function.forall_update_iff system.threads fun _ other => other.Fits]
  exact and_iff_left fun other _ => sound.fits other

theorem holds_setThread_self (holds : state.phase.holds = true) :
    (system.setThread thread state).Holds thread := by
  unfold System.Holds
  rw [threads_setThread_self]
  exact holds

theorem holds_setThread_of_ne {other : Thread} (different : other ≠ thread) :
    (system.setThread thread state).Holds other ↔ system.Holds other := by
  unfold System.Holds
  rw [threads_setThread_of_ne different]

/-- The thread holds the mutex as before, or still does not. -/
theorem holds_setThread_iff
    (same : state.phase.holds = (system.threads thread).phase.holds)
    (other : Thread) :
    (system.setThread thread state).Holds other ↔ system.Holds other := by
  by_cases equal : other = thread
  · subst equal
    unfold System.Holds
    rw [threads_setThread_self, same]
  · exact holds_setThread_of_ne equal

theorem waits_setThread
    {other : Thread} (different : other ≠ thread)
    (waits :
      ((system.setThread thread state).threads other).phase.waits = true) :
    (system.threads other).phase.waits = true := by
  rw [threads_setThread_of_ne different] at waits
  exact waits

theorem sound_stay_iff
    (sound : Sound system)
    (same : state.phase.holds = (system.threads thread).phase.holds) :
    Sound (system.setThread thread state) ↔
      state.Fits ∧
        (state.phase.waits = true →
          IsFree system.mutex ∨ system.Held) := by
  have held : (system.setThread thread state).Held ↔ system.Held :=
    exists_congr (holds_setThread_iff same)
  constructor
  · intro next
    refine ⟨(fits_setThread_iff sound).mp next.fits, fun waits => ?_⟩
    have self :
        ((system.setThread thread state).threads thread).phase.waits =
          true := by
      rw [threads_setThread_self]
      exact waits
    exact (next.awaited thread self).imp_right held.mp
  · rintro ⟨fits, waits⟩
    refine
      ⟨(fits_setThread_iff sound).mpr fits, sound.restores, ?_, ?_, ?_,
        sound.clean⟩
    · intro first second holds also
      exact
        sound.exclusive first second ((holds_setThread_iff same first).mp holds)
          ((holds_setThread_iff same second).mp also)
    · intro other holds
      exact sound.taken other ((holds_setThread_iff same other).mp holds)
    · intro other waiting
      by_cases equal : other = thread
      · subst equal
        rw [threads_setThread_self] at waiting
        exact (waits waiting).imp_right held.mpr
      · exact
          (sound.awaited other (waits_setThread equal waiting)).imp_right
            held.mpr

/-- The mutex is free, so nobody has held it. -/
theorem sound_take_iff
    (sound : Sound system) (free : IsFree system.mutex)
    (holds : state.phase.holds = true) {saved : Option UInt8}
    (passive : ∀ old, saved = some old → old = passiveLevel) :
    Sound
        { system.setThread thread state with
          mutex := take system.mutex saved } ↔
      state.Fits := by
  have only :
      ∀ other, (system.setThread thread state).Holds other →
        other = thread := by
    intro other holding
    by_contra different
    exact
      sound.taken other ((holds_setThread_of_ne different).mp holding) free
  constructor
  · intro next
    exact (fits_setThread_iff sound).mp next.fits
  · intro fits
    refine
      ⟨(fits_setThread_iff sound).mpr fits, ?_, ?_, ?_, ?_, sound.clean⟩
    · cases saved with
      | none => exact sound.restores
      | some old => exact passive old rfl
    · intro first second holding also
      exact (only first holding).trans (only second also).symm
    · exact fun _ _ => not_isFree_take system.mutex saved
    · exact fun _ _ => .inr ⟨thread, holds_setThread_self holds⟩

/-- The thread was the only one. -/
theorem sound_free_iff
    (sound : Sound system) (held : system.Holds thread)
    (idle : state.phase.holds = false) :
    Sound
        { system.setThread thread state with mutex := init system.mutex } ↔
      state.Fits := by
  constructor
  · intro next
    exact (fits_setThread_iff sound).mp next.fits
  · intro fits
    have nobody :
        ∀ other, ¬ (system.setThread thread state).Holds other := by
      intro other holding
      by_cases equal : other = thread
      · subst equal
        unfold System.Holds at holding
        rw [threads_setThread_self, idle] at holding
        cases holding
      · exact
          equal
            (sound.exclusive other thread
              ((holds_setThread_of_ne equal).mp holding) held)
    exact
      ⟨(fits_setThread_iff sound).mpr fits, sound.restores,
        fun other _ holding => absurd holding (nobody other),
        fun other holding => absurd holding (nobody other),
        fun _ _ => .inl rfl, sound.clean⟩

omit [DecidableEq Thread] in
theorem sound_init_iff (sound : Sound system) :
    Sound { system with mutex := init system.mutex } ↔ ¬ system.Held := by
  constructor
  · rintro next ⟨other, holds⟩
    exact next.taken other holds rfl
  · intro nobody
    exact
      ⟨sound.fits, sound.restores, sound.exclusive,
        fun other holds => absurd ⟨other, holds⟩ nobody,
        fun _ _ => .inl rfl, sound.clean⟩

variable {next : System Thread}

theorem sound_acquire_iff
    {raises : Bool} (sound : Sound system)
    (stepped : system.acquire thread raises = some next) :
    Sound next ↔ InOrder system (.acquire thread raises) := by
  have fits := sound.fits thread
  unfold System.acquire at stepped
  dsimp only [InOrder] at stepped ⊢
  cases there : system.threads thread with
  | mk phase irql regions =>
  rw [there] at fits stepped
  cases phase with
  | waiting saved | stuck => cases stepped
  | holding raised =>
      cases stepped
      refine iff_of_false (fun next => ?_) fun inOrder => ?_
      · exact (fits_setThread_iff sound).mp next.fits
      · cases inOrder.1
  | idle =>
      have passive : irql = passiveLevel := fits
      subst passive
      dsimp only at stepped
      by_cases free : IsFree system.mutex
      · rw [if_pos free] at stepped
        cases stepped
        cases raises with
        | true =>
            rw [sound_take_iff sound free rfl]
            · exact iff_of_true rfl ⟨rfl, .inl free, .inl rfl⟩
            · rintro old ⟨⟩
              rfl
        | false =>
            rw [sound_take_iff sound free rfl]
            · exact
                ⟨fun fits => ⟨rfl, .inl free, .inr fits.2⟩, fun inOrder =>
                  ⟨rfl, inOrder.2.2.resolve_left Bool.false_ne_true⟩⟩
            · intro _ nothing
              cases nothing
      · rw [if_neg free] at stepped
        cases stepped
        rw [sound_stay_iff sound (by rw [there]; rfl)]
        cases raises with
        | true =>
            exact
              ⟨fun both => ⟨rfl, both.2 rfl, .inl rfl⟩, fun inOrder =>
                ⟨⟨rfl, rfl⟩, fun _ => inOrder.2.1⟩⟩
        | false =>
            exact
              ⟨fun both => ⟨rfl, both.2 rfl, .inr both.1.2⟩, fun inOrder =>
                ⟨⟨rfl, inOrder.2.2.resolve_left Bool.false_ne_true⟩,
                  fun _ => inOrder.2.1⟩⟩

theorem sound_wake
    (sound : Sound system) (stepped : system.wake thread = some next) :
    Sound next := by
  have fits := sound.fits thread
  unfold System.wake at stepped
  dsimp only at stepped
  cases there : system.threads thread with
  | mk phase irql regions =>
  rw [there] at fits stepped
  cases phase with
  | idle | holding raised | stuck => cases stepped
  | waiting saved =>
      obtain ⟨free, same⟩ := Option.ite_none_right_eq_some.mp stepped
      cases same
      cases saved with
      | none =>
          rw [sound_take_iff sound free rfl]
          · exact fits
          · intro _ nothing
            cases nothing
      | some old =>
          rw [sound_take_iff sound free rfl]
          · exact fits.1
          · rintro other ⟨⟩
            exact fits.2

theorem sound_tryAcquire
    (sound : Sound system) (stepped : system.tryAcquire thread = some next) :
    Sound next := by
  have fits := sound.fits thread
  unfold System.tryAcquire at stepped
  dsimp only at stepped
  cases there : system.threads thread with
  | mk phase irql regions =>
  rw [there] at fits stepped
  cases phase with
  | waiting saved | stuck => cases stepped
  | holding raised =>
      cases stepped
      exact sound
  | idle =>
      have passive : irql = passiveLevel := fits
      by_cases free : IsFree system.mutex
      · dsimp only at stepped
        rw [if_pos free] at stepped
        cases stepped
        rw [sound_take_iff sound free rfl]
        · rfl
        · rintro old ⟨⟩
          exact passive
      · dsimp only at stepped
        rw [if_neg free] at stepped
        cases stepped
        exact sound

theorem sound_release_iff
    {lowers : Bool} (sound : Sound system)
    (stepped : system.release thread lowers = some next) :
    Sound next ↔ InOrder system (.release thread lowers) := by
  have fits := sound.fits thread
  unfold System.release at stepped
  dsimp only [InOrder] at stepped ⊢
  cases there : system.threads thread with
  | mk phase irql regions =>
  rw [there] at fits stepped
  cases phase with
  | waiting saved | stuck => cases stepped
  | idle =>
      cases stepped
      refine iff_of_false (fun next => ?_) ?_
      · exact List.cons_ne_nil _ _ next.clean
      · rintro ⟨raised, holding, _⟩
        cases holding
  | holding raised =>
      cases stepped
      have held : system.Holds thread := by
        unfold System.Holds
        rw [there]
        rfl
      rw [sound_free_iff sound held rfl]
      cases lowers with
      | true => exact iff_of_true sound.restores ⟨raised, rfl, fun _ => rfl⟩
      | false =>
          cases raised with
          | true =>
              have apc : irql = apcLevel := fits
              subst apc
              refine iff_of_false (fun low => ?_) ?_
              · have equal : apcLevel = passiveLevel := low
                exact absurd equal (by decide)
              · rintro ⟨raised, ⟨⟩, lowered⟩
                cases lowered rfl
          | false =>
              exact iff_of_true fits.1 ⟨false, rfl, nofun⟩

theorem sound_enterRegion
    (sound : Sound system)
    (stepped : system.enterRegion thread = some next) :
    Sound next := by
  have fits := sound.fits thread
  unfold System.enterRegion at stepped
  dsimp only at stepped
  cases there : system.threads thread with
  | mk phase irql regions =>
  rw [there] at fits stepped
  cases phase with
  | waiting saved | stuck => cases stepped
  | idle =>
      cases stepped
      rw [sound_stay_iff sound (by rw [there])]
      exact ⟨fits, nofun⟩
  | holding raised =>
      cases stepped
      rw [sound_stay_iff sound (by rw [there])]
      cases raised with
      | true => exact ⟨fits, nofun⟩
      | false => exact ⟨⟨fits.1, Nat.succ_ne_zero regions⟩, nofun⟩

theorem sound_leaveRegion_iff
    (sound : Sound system)
    (stepped : system.leaveRegion thread = some next) :
    Sound next ↔ InOrder system (.leaveRegion thread) := by
  have fits := sound.fits thread
  unfold System.leaveRegion at stepped
  dsimp only [InOrder] at stepped ⊢
  cases there : system.threads thread with
  | mk phase irql regions =>
  rw [there] at fits stepped
  cases phase with
  | waiting saved | stuck => cases stepped
  | idle =>
      obtain ⟨_, same⟩ := Option.ite_none_left_eq_some.mp stepped
      cases same
      rw [sound_stay_iff sound (by rw [there])]
      exact iff_of_true ⟨fits, nofun⟩ nofun
  | holding raised =>
      obtain ⟨inside, same⟩ := Option.ite_none_left_eq_some.mp stepped
      cases same
      rw [sound_stay_iff sound (by rw [there])]
      cases raised with
      | true => exact iff_of_true ⟨fits, nofun⟩ nofun
      | false =>
          have more : regions - 1 ≠ 0 ↔ regions ≠ 1 := by
            dsimp only at inside
            omega
          exact
            ⟨fun both _ => more.mp both.1.2, fun inOrder =>
              ⟨⟨fits.1, more.mpr (inOrder rfl)⟩, nofun⟩⟩

end Changes

theorem sound_step_iff
    {system next : System Thread} {event : Event Thread}
    (sound : Sound system) (stepped : step system event = some next) :
    Sound next ↔ InOrder system event := by
  cases event with
  | init =>
      cases stepped
      exact sound_init_iff sound
  | acquire thread raises => exact sound_acquire_iff sound stepped
  | wake thread => exact iff_of_true (sound_wake sound stepped) trivial
  | tryAcquire thread =>
      exact iff_of_true (sound_tryAcquire sound stepped) trivial
  | release thread lowers => exact sound_release_iff sound stepped
  | enterRegion thread =>
      exact iff_of_true (sound_enterRegion sound stepped) trivial
  | leaveRegion thread => exact sound_leaveRegion_iff sound stepped

omit [DecidableEq Thread] in
theorem sound_new : Sound (System.new Thread) :=
  ⟨fun _ => rfl, rfl, nofun, nofun, nofun, rfl⟩

end

end FastMutex

end Sync

end WinDrvUtils

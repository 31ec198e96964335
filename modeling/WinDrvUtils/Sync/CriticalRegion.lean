import WinDrvUtils.Sync.LockApi

/-!
# Critical regions of the resource lock

`RawRwLock for WduEResource` enters a critical region before it asks for the
resource and leaves it after the resource has been released. A thread that
holds something is in the region, so that normal APCs cannot stop it.

The `try` methods enter in the same way, and return what the kernel answers.
When the kernel refuses, the thread holds nothing and nobody leaves.
-/

namespace WinDrvUtils

namespace Sync

open StepSystem

inductive RegionAction where
  | keEnterCriticalRegion
  | keLeaveCriticalRegion
  | resource (call : KernelCall)
  deriving DecidableEq, Repr

def enterCriticalRegion : RegionAction := .keEnterCriticalRegion

def leaveCriticalRegion : RegionAction := .keLeaveCriticalRegion

/-- `RawRwLock for WduEResource`: the kernel calls of a method, in order. The
`try` methods return the answer to the call of the resource. -/
def rawEResource (frame : Frame) : Method → Option (List RegionAction)
  | .lockShared =>
      some [enterCriticalRegion, .resource (WduEResource.lockShared frame)]
  | .tryLockShared =>
      some [enterCriticalRegion, .resource (WduEResource.tryLockShared frame)]
  | .unlockShared =>
      some [.resource (WduEResource.unlockShared frame), leaveCriticalRegion]
  | .lockExclusive =>
      some [enterCriticalRegion, .resource (WduEResource.lockExclusive frame)]
  | .tryLockExclusive =>
      some
        [enterCriticalRegion,
          .resource (WduEResource.tryLockExclusive frame)]
  | .unlockExclusive =>
      some
        [.resource (WduEResource.unlockExclusive frame), leaveCriticalRegion]
  | _ => none

namespace CriticalRegion

/-- The calls that a thread has made, and what it holds. -/
structure Thread where
  enters : Nat
  leaves : Nat
  shared : Nat
  exclusive : Nat
  deriving DecidableEq, Repr

/-- A call of a method, and whether the kernel grants what it asks for. -/
structure Event where
  frame : Frame
  method : Method
  granted : Bool
  deriving DecidableEq, Repr

namespace Thread

def new : Thread :=
  ⟨0, 0, 0, 0⟩

def perform (thread : Thread) : RegionAction → Thread
  | .keEnterCriticalRegion => { thread with enters := thread.enters + 1 }
  | .keLeaveCriticalRegion => { thread with leaves := thread.leaves + 1 }
  | .resource _ => thread

def gain (thread : Thread) : LockMode → Thread
  | .shared => { thread with shared := thread.shared + 1 }
  | .exclusive => { thread with exclusive := thread.exclusive + 1 }

/-- A thread only unlocks what it holds. -/
def lose (thread : Thread) : LockMode → Option Thread
  | .shared =>
      if thread.shared = 0 then none
      else some { thread with shared := thread.shared - 1 }
  | .exclusive =>
      if thread.exclusive = 0 then none
      else some { thread with exclusive := thread.exclusive - 1 }

/-- What the thread holds when a method has returned. -/
def settle (thread : Thread) (event : Event) : Option Thread :=
  match event.method.promise with
  | .hold mode => some (if event.granted then thread.gain mode else thread)
  | .unhold mode => thread.lose mode

end Thread

/-- The kernel refuses what it was asked for. -/
def Event.refused (event : Event) : Bool :=
  match event.method.promise with
  | .hold _ => !event.granted
  | .unhold _ => false

/-- A call that waits is not refused. -/
def waits : RegionAction → Bool
  | .resource call =>
      match call.action with
      | .acquire _ _ wait => wait
      | .release _ => false
  | _ => false

def step (thread : Thread) (event : Event) : Option Thread :=
  (rawEResource event.frame event.method).bind fun actions =>
    if event.refused = true ∧ actions.any waits = true then none
    else (actions.foldl Thread.perform thread).settle event

/-- The thread has entered once more than it has left for each of its
holds. -/
def Balanced (thread : Thread) : Prop :=
  (thread.enters : Int) - thread.leaves = thread.shared + thread.exclusive

instance (thread : Thread) : Decidable (Balanced thread) :=
  inferInstanceAs
    (Decidable
      ((thread.enters : Int) - thread.leaves =
        thread.shared + thread.exclusive))

def NotRefused (_ : Thread) (event : Event) : Prop :=
  event.refused = false

/-! ## One call -/

/-- A method that locks enters once, and one that unlocks leaves once. -/
theorem step_cases
    {thread next : Thread} {event : Event}
    (stepped : step thread event = some next) :
    (∃ mode, event.method.promise = .hold mode ∧
        some next = (thread.perform enterCriticalRegion).settle event) ∨
      ∃ mode, event.method.promise = .unhold mode ∧
        some next = (thread.perform leaveCriticalRegion).settle event := by
  obtain ⟨actions, made, called⟩ := Option.bind_eq_some_iff.mp stepped
  obtain ⟨frame, method, granted⟩ := event
  split at called
  · cases called
  · cases method with
    | lock | tryLock | unlock => cases made
    | lockShared | tryLockShared =>
        cases made
        exact Or.inl ⟨.shared, rfl, called.symm⟩
    | lockExclusive | tryLockExclusive =>
        cases made
        exact Or.inl ⟨.exclusive, rfl, called.symm⟩
    | unlockShared =>
        cases made
        exact Or.inr ⟨.shared, rfl, called.symm⟩
    | unlockExclusive =>
        cases made
        exact Or.inr ⟨.exclusive, rfl, called.symm⟩

theorem balanced_gain
    {thread : Thread} (balanced : Balanced thread) (mode : LockMode) :
    Balanced ((thread.perform enterCriticalRegion).gain mode) := by
  unfold Balanced at *
  cases mode with
  | shared | exclusive =>
      simp only [Thread.perform, enterCriticalRegion, Thread.gain]
      omega

theorem balanced_lose
    {thread next : Thread} (balanced : Balanced thread) {mode : LockMode}
    (lost : (thread.perform leaveCriticalRegion).lose mode = some next) :
    Balanced next := by
  unfold Balanced at *
  cases mode with
  | shared | exclusive =>
      simp only [Thread.lose] at lost
      split at lost
      · cases lost
      · next held =>
          cases lost
          simp only [Thread.perform, leaveCriticalRegion] at held ⊢
          omega

theorem not_balanced_enter
    {thread : Thread} (balanced : Balanced thread) :
    ¬ Balanced (thread.perform enterCriticalRegion) := by
  unfold Balanced at *
  simp only [Thread.perform, enterCriticalRegion]
  omega

/-- A call keeps the balance exactly when it is not refused. -/
theorem balanced_step_iff
    {thread next : Thread} {event : Event} (balanced : Balanced thread)
    (stepped : step thread event = some next) :
    Balanced next ↔ NotRefused thread event := by
  rcases step_cases stepped with
    ⟨mode, promise, settled⟩ | ⟨mode, promise, settled⟩
  · unfold NotRefused Event.refused
    unfold Thread.settle at settled
    rw [promise] at settled ⊢
    have after := Option.some.inj settled
    cases granted : event.granted with
    | true =>
        rw [granted, if_pos rfl] at after
        rw [after]
        exact iff_of_true (balanced_gain balanced mode) rfl
    | false =>
        rw [granted, if_neg Bool.false_ne_true] at after
        rw [after]
        exact
          iff_of_false (not_balanced_enter balanced) Bool.noConfusion
  · unfold NotRefused Event.refused
    unfold Thread.settle at settled
    rw [promise] at settled ⊢
    exact iff_of_true (balanced_lose balanced settled.symm) rfl

/-! ## Runs -/

/-- For every thread and every sequence of calls that it makes: it has always
entered critical regions as many times more than it has left them as it has
holds if and only if the kernel never refuses it a lock. -/
theorem criticalRegions_balanced_iff (events : List Event) :
    Always step Balanced Thread.new events ↔
      Guarded step NotRefused Thread.new events :=
  always_iff_guarded (fun _ balanced => balanced)
    (fun _ _ _ balanced notRefused stepped =>
      (balanced_step_iff balanced stepped).mpr notRefused)
    (fun _ _ _ balanced stepped => (balanced_step_iff balanced stepped).mp)
    rfl

def refusedTry : List Event :=
  [⟨⟨0x1000, 0x8000⟩, .tryLockShared, false⟩]

/-- The thread holds nothing and is in a critical region. -/
theorem refusedTry_staysInRegion :
    run step Thread.new refusedTry = some ⟨1, 0, 0, 0⟩ ∧
      ¬ Always step Balanced Thread.new refusedTry := by
  refine ⟨rfl, fun always => ?_⟩
  have balanced := always.last rfl
  exact absurd balanced (by decide)

end CriticalRegion

end Sync

end WinDrvUtils

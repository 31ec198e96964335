import WinDrvUtils.Sync.LockApi

/-!
# Mutual exclusion through `lock_api`

Any number of threads call the methods of one shared lock value, each from a
frame of its own. `holders` is what the callers believe, and `calls` keeps the
addresses that the kernel was given.

Exclusion follows from the kernel's as soon as all calls are about one kernel
lock (`RwLock.Covers`). The wrappers hand over an address in the frame of the
call, so they are about the lock in the value only if the frame's variable
`self` and the value have one address.
-/

namespace WinDrvUtils

namespace Sync

open StepSystem RwLock

universe u

/-- The lock value that the threads share. `offset` is that of `pushlock` in a
`WduPushLock`. -/
structure SharedLock where
  kind : LockKind
  value : Address
  offset : Nat
  deriving DecidableEq, Repr

namespace SharedLock

def memberOffset (shared : SharedLock) : Nat :=
  match shared.kind with
  | .pushLock => shared.offset
  | _ => 0

def embedded (shared : SharedLock) : Address :=
  shared.value + shared.memberOffset

end SharedLock

/-- A call of a method by a thread. `slot` is the address of the variable
`self` in its frame, and `residue` what memory beside it holds. -/
structure Call (Thread : Type u) where
  thread : Thread
  method : Method
  slot : Address
  residue : PushLockAccess

structure System (Thread : Type u) where
  locks : Address → RwLock Thread
  access : PushLockAccess
  holders : List (Thread × LockMode)
  calls : List Address

variable {Thread : Type u}

def System.start : System Thread :=
  ⟨fun _ => RwLock.free, .none, [], []⟩

def readAccess (shared : SharedLock) (system : System Thread)
    (call : Call Thread) : PushLockAccess :=
  if call.slot = shared.value then system.access else call.residue

/-- What the call does, unless its lock has no such method or panics. -/
def effect (shared : SharedLock) (system : System Thread)
    (call : Call Thread) : Option Effect :=
  let frame : Frame := ⟨call.slot, shared.value⟩
  match shared.kind with
  | .fastMutex => fastMutex frame call.method
  | .guardedMutex => guardedMutex frame call.method
  | .eResource => eResource frame call.method
  | .pushLock =>
      match
        pushLock shared.offset frame (readAccess shared system call)
          call.method with
      | .ok effect => effect
      | .error _ => none

def kernelCall (shared : SharedLock) (system : System Thread)
    (call : Call Thread) : Option KernelCall :=
  (effect shared system call).bind Effect.call

variable [DecidableEq Thread]

/-- One kernel primitive; `none` if it does not grant what it is asked. -/
def perform (locks : Address → RwLock Thread) (thread : Thread)
    (call : KernelCall) : Option (Address → RwLock Thread) :=
  let lock := locks call.address
  match call.action with
  | .acquire reentrant mode _ =>
      (lock.acquire reentrant thread mode).map
        (Function.update locks call.address)
  | .release none =>
      some (Function.update locks call.address (lock.release thread))
  | .release (some mode) =>
      if lock.mode = mode then
        some (Function.update locks call.address (lock.release thread))
      else some locks

def KernelAction.waits : KernelAction → Bool
  | .acquire _ _ wait => wait
  | .release _ => false

/-- `access` is stored in the value, or somewhere in the frame. -/
def storeAccess (shared : SharedLock) (system : System Thread)
    (call : Call Thread) (stored : Option PushLockAccess) : PushLockAccess :=
  if call.slot = shared.value then stored.getD system.access
  else system.access

/-- One call from beginning to end. A call that has to wait does not happen
yet, and `lock_api` unlocks only what its caller holds. -/
def step (shared : SharedLock) (system : System Thread)
    (call : Call Thread) : Option (System Thread) :=
  match effect shared system call, call.method.promise with
  | none, _ => none
  | some ⟨none, _⟩, .hold _ => none
  | some ⟨none, _⟩, .unhold mode =>
      if (call.thread, mode) ∈ system.holders then
        some { system with
          holders := system.holders.erase (call.thread, mode) }
      else none
  | some ⟨some primitive, stored⟩, .hold mode =>
      match perform system.locks call.thread primitive with
      | some locks =>
          some
            { locks := locks
              access := storeAccess shared system call stored
              holders := (call.thread, mode) :: system.holders
              calls := primitive.address :: system.calls }
      | none =>
          if primitive.action.waits then none
          else some { system with calls := primitive.address :: system.calls }
  | some ⟨some primitive, _⟩, .unhold mode =>
      if (call.thread, mode) ∈ system.holders then
        match perform system.locks call.thread primitive with
        | some locks =>
            some { system with
              locks := locks
              holders := system.holders.erase (call.thread, mode)
              calls := primitive.address :: system.calls }
        | none => none
      else none

/-- All calls were about the lock in the value, and no two threads hold it but
to share it. -/
def Exclusive (shared : SharedLock) (system : System Thread) : Prop :=
  (∀ address ∈ system.calls, address = shared.embedded) ∧
    Excludes system.holders

/-- A call that reaches the kernel comes from a frame whose variable `self` is
at the address of the value. -/
def AtValue (shared : SharedLock) (system : System Thread)
    (call : Call Thread) : Prop :=
  kernelCall shared system call ≠ none → call.slot = shared.value

structure Invariant (shared : SharedLock) (system : System Thread) :
    Prop where
  embedded : ∀ address ∈ system.calls, address = shared.embedded
  covers : (system.locks shared.embedded).Covers system.holders

section

variable {shared : SharedLock} {system next : System Thread}
    {call : Call Thread} {primitive : KernelCall}

/-- The primitive does what the method promises. -/
def Promise.KeptBy : Promise → KernelAction → Prop
  | .hold mode, .acquire _ asked _ => asked = mode
  | .unhold _, .release _ => True
  | _, _ => False

omit [DecidableEq Thread] in
/-- Every primitive gets the frame's variable, taken for a lock value. -/
theorem kernelCall_spec
    (reached : kernelCall shared system call = some primitive) :
    primitive.address = call.slot + shared.memberOffset ∧
      call.method.promise.KeptBy primitive.action := by
  obtain ⟨thread, method, slot, residue⟩ := call
  obtain ⟨kind, value, offset⟩ := shared
  cases kind with
  | fastMutex =>
      cases method <;> cases reached <;>
        first | exact ⟨rfl, rfl⟩ | exact ⟨rfl, trivial⟩
  | guardedMutex =>
      cases method <;> cases reached <;>
        first | exact ⟨rfl, rfl⟩ | exact ⟨rfl, trivial⟩
  | eResource =>
      cases method <;> cases reached <;>
        first | exact ⟨rfl, rfl⟩ | exact ⟨rfl, trivial⟩
  | pushLock =>
      cases method with
      | lock | tryLock | unlock | tryLockShared | tryLockExclusive =>
          cases reached
      | lockShared | lockExclusive =>
          cases reached
          exact ⟨rfl, rfl⟩
      | unlockShared | unlockExclusive =>
          -- Which release it is depends on what `self.access` reads.
          simp only [kernelCall, effect, pushLock, WduPushLock.unlock,
            WduPushLock.release, Option.bind_some] at reached
          split at reached <;> cases reached <;> exact ⟨rfl, trivial⟩

/-- A step gives up a hold without the kernel, or makes one kernel call that
grants, refuses or takes back a hold. -/
theorem step_cases (stepped : step shared system call = some next) :
    (kernelCall shared system call = none ∧ next.calls = system.calls ∧
      next.locks = system.locks ∧
      ∃ hold, next.holders = system.holders.erase hold) ∨
    ∃ primitive,
      kernelCall shared system call = some primitive ∧
      next.calls = primitive.address :: system.calls ∧
      ((∃ mode,
          call.method.promise = .hold mode ∧
          perform system.locks call.thread primitive = some next.locks ∧
          next.holders = (call.thread, mode) :: system.holders) ∨
        (next.locks = system.locks ∧ next.holders = system.holders) ∨
        ∃ mode,
          call.method.promise = .unhold mode ∧
          (call.thread, mode) ∈ system.holders ∧
          perform system.locks call.thread primitive = some next.locks ∧
          next.holders = system.holders.erase (call.thread, mode)) := by
  unfold step at stepped
  unfold kernelCall
  split at stepped
  case h_1 => cases stepped
  case h_2 => cases stepped
  case h_3 access mode noCall promised =>
      split at stepped
      case isTrue member =>
          cases stepped
          exact Or.inl ⟨by rw [noCall]; rfl, rfl, rfl, _, rfl⟩
      case isFalse => cases stepped
  case h_4 primitive stored mode called promised =>
      refine Or.inr ⟨primitive, by rw [called]; rfl, ?_⟩
      split at stepped
      case h_1 locks performed =>
          cases stepped
          exact ⟨rfl, Or.inl ⟨mode, promised, performed, rfl⟩⟩
      case h_2 =>
          split at stepped
          case isTrue => cases stepped
          case isFalse =>
              cases stepped
              exact ⟨rfl, Or.inr (Or.inl ⟨rfl, rfl⟩)⟩
  case h_5 primitive stored mode called promised =>
      refine Or.inr ⟨primitive, by rw [called]; rfl, ?_⟩
      split at stepped
      case isTrue member =>
          split at stepped
          case h_1 locks performed =>
              cases stepped
              exact
                ⟨rfl, Or.inr (Or.inr
                  ⟨mode, promised, member, performed, rfl⟩)⟩
          case h_2 => cases stepped
      case isFalse => cases stepped

theorem perform_acquire
    {locks after : Address → RwLock Thread} {thread : Thread}
    {reentrant wait : Bool} {mode : LockMode}
    (action : primitive.action = .acquire reentrant mode wait)
    (performed : perform locks thread primitive = some after) :
    ∃ granted,
      (locks primitive.address).acquire reentrant thread mode =
        some granted ∧
      after = Function.update locks primitive.address granted := by
  simp only [perform, action, Option.map_eq_some_iff] at performed
  obtain ⟨granted, acquired, rfl⟩ := performed
  exact ⟨granted, acquired, rfl⟩

theorem perform_release
    {locks after : Address → RwLock Thread} {thread : Thread}
    {named : Option LockMode}
    (action : primitive.action = .release named)
    (performed : perform locks thread primitive = some after) :
    after = Function.update locks primitive.address
        ((locks primitive.address).release thread) ∨
      after = locks := by
  cases named with
  | none =>
      simp only [perform, action, Option.some.injEq] at performed
      exact Or.inl performed.symm
  | some mode =>
      simp only [perform, action] at performed
      split at performed
      case isTrue => exact Or.inl (Option.some.inj performed).symm
      case isFalse => exact Or.inr (Option.some.inj performed).symm

theorem covers_step
    (covers : (system.locks shared.embedded).Covers system.holders)
    (atValue : AtValue shared system call)
    (stepped : step shared system call = some next) :
    (next.locks shared.embedded).Covers next.holders := by
  rcases step_cases stepped with
    ⟨_, _, locks, hold, holders⟩ | ⟨primitive, reached, _, outcome⟩
  · rw [locks, holders]
    exact covers.forget hold
  · obtain ⟨address, kept⟩ := kernelCall_spec reached
    have embedded : primitive.address = shared.embedded := by
      rw [address, atValue (by simp [reached])]
      rfl
    rcases outcome with
      ⟨mode, promised, performed, holders⟩ | ⟨locks, holders⟩ |
        ⟨mode, promised, member, performed, holders⟩
    · rw [promised] at kept
      cases action : primitive.action with
      | release named =>
          rw [action] at kept
          cases kept
      | acquire reentrant asked wait =>
          rw [action] at kept
          obtain rfl : asked = mode := kept
          obtain ⟨granted, acquired, locks⟩ :=
            perform_acquire action performed
          rw [embedded] at acquired locks
          rw [locks, holders, Function.update_self]
          exact covers.acquire acquired
    · rw [locks, holders]
      exact covers
    · rw [promised] at kept
      cases action : primitive.action with
      | acquire reentrant asked wait =>
          rw [action] at kept
          cases kept
      | release named =>
          rcases perform_release action performed with released | unheard
          · rw [embedded] at released
            rw [released, holders, Function.update_self]
            exact covers.release member
          · rw [unheard, holders]
            exact covers.forget (call.thread, mode)

theorem embedded_step
    (embedded : ∀ address ∈ system.calls, address = shared.embedded)
    (atValue : AtValue shared system call)
    (stepped : step shared system call = some next) :
    ∀ address ∈ next.calls, address = shared.embedded := by
  rcases step_cases stepped with ⟨_, calls, _⟩ | ⟨primitive, reached, calls, _⟩
  · rw [calls]
    exact embedded
  · obtain ⟨address, _⟩ := kernelCall_spec reached
    have slot := atValue (by simp [reached])
    intro other member
    rw [calls] at member
    rcases List.mem_cons.mp member with rfl | earlier
    · rw [address, slot]
      rfl
    · exact embedded other earlier

/-- A kernel call that is about the embedded lock comes from the value's own
address. -/
theorem atValue_of_embedded
    (stepped : step shared system call = some next)
    (embedded : ∀ address ∈ next.calls, address = shared.embedded) :
    AtValue shared system call := by
  intro reachedSome
  rcases step_cases stepped with ⟨none, _⟩ | ⟨primitive, reached, calls, _⟩
  · exact absurd none reachedSome
  · obtain ⟨address, _⟩ := kernelCall_spec reached
    have equal : primitive.address = shared.embedded :=
      embedded primitive.address (by rw [calls]; exact List.mem_cons_self)
    rw [address] at equal
    exact Nat.add_right_cancel equal

end

/-- For each of the four lock types, the calls of any number of threads are
about the one embedded lock, and exclude each other, along exactly the runs in
which every call that reaches the kernel comes from a frame whose variable
`self` is where the lock value is. -/
theorem lockApi_exclusive_iff
    (shared : SharedLock) (calls : List (Call Thread)) :
    Always (step shared) (Exclusive shared) System.start calls ↔
      Guarded (step shared) (AtValue shared) System.start calls := by
  have initial : Invariant shared (System.start : System Thread) :=
    ⟨fun address member => absurd member List.not_mem_nil, covers_free⟩
  refine always_iff_guarded ?_ ?_ ?_ initial
  · intro system invariant
    exact ⟨invariant.embedded, invariant.covers.excludes⟩
  · intro system call next invariant atValue stepped
    exact
      ⟨embedded_step invariant.embedded atValue stepped,
        covers_step invariant.covers atValue stepped⟩
  · intro system call next _ stepped exclusive
    exact atValue_of_embedded stepped exclusive.1

def LockKind.exclusiveMethod : LockKind → Method
  | .fastMutex => .lock
  | .guardedMutex => .lock
  | .eResource => .lockExclusive
  | .pushLock => .lockExclusive

/-- Whatever the lock type, it is taken if the lock that the frame's address
stands for is free. -/
theorem step_takesFree
    (shared : SharedLock) (system : System Thread) (thread : Thread)
    (slot : Address) (residue : PushLockAccess)
    (free : (system.locks (slot + shared.memberOffset)).threads = []) :
    ∃ next,
      step shared system
          ⟨thread, shared.kind.exclusiveMethod, slot, residue⟩ = some next ∧
      next.holders = (thread, .exclusive) :: system.holders ∧
      next.locks =
        Function.update system.locks (slot + shared.memberOffset)
          (grant .exclusive thread) := by
  have taken :
      ∃ primitive stored reentrant,
        effect shared system
            ⟨thread, shared.kind.exclusiveMethod, slot, residue⟩ =
          some ⟨some primitive, stored⟩ ∧
        primitive.address = slot + shared.memberOffset ∧
        primitive.action = .acquire reentrant .exclusive true := by
    obtain ⟨kind, value, offset⟩ := shared
    cases kind <;> exact ⟨_, _, _, rfl, rfl, rfl⟩
  obtain ⟨primitive, stored, reentrant, effective, address, action⟩ := taken
  have promised :
      shared.kind.exclusiveMethod.promise = .hold .exclusive := by
    cases shared.kind <;> rfl
  have performed :
      perform system.locks thread primitive =
        some (Function.update system.locks (slot + shared.memberOffset)
          (grant .exclusive thread)) := by
    rw [← address] at free ⊢
    simp only [perform, action, acquire_of_free free, Option.map_some]
  simp only [step, effective, promised, performed]
  exact ⟨_, rfl, rfl, rfl⟩

/-- Two calls from different frames both take the lock, each another one. -/
theorem distinctFrames_bothHold
    (shared : SharedLock) (thread other : Thread) {first second : Address}
    (residue : PushLockAccess) (different : first ≠ second) :
    ∃ last,
      run (step shared) System.start
          [⟨thread, shared.kind.exclusiveMethod, first, residue⟩,
            ⟨other, shared.kind.exclusiveMethod, second, residue⟩] =
        some last ∧
      last.holders = [(other, .exclusive), (thread, .exclusive)] := by
  obtain ⟨middle, firstStep, holders, locks⟩ :=
    step_takesFree shared System.start thread first residue rfl
  have apart :
      second + shared.memberOffset ≠ first + shared.memberOffset :=
    fun equal => different (Nat.add_right_cancel equal).symm
  have free :
      (middle.locks (second + shared.memberOffset)).threads = [] := by
    rw [locks, Function.update_of_ne apart]
    rfl
  obtain ⟨last, secondStep, lastHolders, _⟩ :=
    step_takesFree shared middle other second residue free
  refine ⟨last, ?_, ?_⟩
  · rw [run_cons_of_step _ firstStep, run_cons_of_step _ secondStep, run_nil]
  · rw [lastHolders, holders]
    rfl

/-- Two threads lock one fast mutex, and both get it. -/
theorem twoThreads_bothLock :
    ¬ Always (step ⟨.fastMutex, 0x8000, 0⟩)
      (Exclusive ⟨.fastMutex, 0x8000, 0⟩) System.start
      [⟨1, .lock, 0x1000, .none⟩, (⟨2, .lock, 0x2000, .none⟩ : Call Nat)] := by
  obtain ⟨last, reached, holders⟩ :=
    distinctFrames_bothHold ⟨.fastMutex, 0x8000, 0⟩ 1 2 .none
      (by decide : (0x1000 : Address) ≠ 0x2000)
  apply not_always_of_run reached
  intro exclusive
  have both :=
    exclusive.2 (2, .exclusive) (by simp [holders]) (1, .exclusive)
      (by simp [holders]) (by decide)
  cases both.1

end Sync

end WinDrvUtils

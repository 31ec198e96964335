import WinDrvUtils.Sync.LockApi
import WinDrvUtils.Library.Parties

/-!
# Push locks

The kernel has one function to release a push lock that is held shared, and
another one for a lock that is held exclusively. `WduPushLock` remembers in
`access` which one a release has to call. The threads that share the lock
share the field too, and each stores to it after the kernel has let it in.

All threads that are in at one time are there in the same mode, so they store
the same value, and a release finds the mode of its own thread in the field.
A field that is left from earlier holds does no harm, since a thread stores
before it releases.
-/

namespace WinDrvUtils

namespace Sync

namespace PushLock

open StepSystem Parties

/-- The next step of a thread, and the mode in which it is in. `release` makes
the kernel call that `access` says. -/
inductive Phase where
  | idle
  | storing (mode : LockMode) (access : PushLockAccess)
  | holding (mode : LockMode)
  | releasing (mode : LockMode) (call : Option KernelCall)
  deriving DecidableEq, Repr

/-- The mode in which the kernel has let a thread in. -/
def Phase.mode : Phase → Option LockMode
  | .idle => none
  | .storing mode _ => some mode
  | .holding mode => some mode
  | .releasing mode _ => some mode

/-- A release: the mode that the thread held, and the kernel call. -/
structure Release where
  mode : LockMode
  call : Option KernelCall
  deriving DecidableEq, Repr

/-- `kernel` is the kernel's lock in the field `pushlock`. -/
structure System (Thread : Type) where
  kernel : RwLock Thread
  access : PushLockAccess
  phases : Thread → Phase
  releases : List Release

inductive Event (Thread : Type) where
  | acquire (thread : Thread) (mode : LockMode)
  | storeAccess (thread : Thread)
  | readAccess (thread : Thread)
  | kernelRelease (thread : Thread)

variable {Thread : Type}

/-- `WduPushLock::new` -/
def System.new : System Thread :=
  ⟨RwLock.free, .none, fun _ => .idle, []⟩

/-- The method that acquires in a mode: its kernel call, and what it stores
afterwards. -/
def acquireMethod (offset : Nat) (this : Address) :
    LockMode → KernelCall × PushLockAccess
  | .shared => WduPushLock.acquiredShared offset this
  | .exclusive => WduPushLock.acquireExclusive offset this

variable [DecidableEq Thread]

/-- The kernel lets a thread in, if it may come in now. -/
def kernelAcquire (kernel : RwLock Thread) (thread : Thread)
    (call : KernelCall) : Option (RwLock Thread) :=
  match call.action with
  | .acquire reentrant mode _ => kernel.acquire reentrant thread mode
  | .release _ => none

/-- Without a call, the kernel's lock stays as it is. -/
def kernelRelease (kernel : RwLock Thread) (thread : Thread)
    (call : Option KernelCall) : RwLock Thread :=
  match call with
  | some _ => kernel.release thread
  | none => kernel

def step (offset : Nat) (this : Address) (system : System Thread) :
    Event Thread → Option (System Thread)
  | .acquire thread mode =>
      match system.phases thread with
      | .idle =>
          let (call, access) := acquireMethod offset this mode
          (kernelAcquire system.kernel thread call).map fun kernel =>
            { system with
              kernel := kernel
              phases :=
                Function.update system.phases thread
                  (.storing mode access) }
      | _ => none
  | .storeAccess thread =>
      match system.phases thread with
      | .storing mode access =>
          some
            { system with
              access := access
              phases :=
                Function.update system.phases thread (.holding mode) }
      | _ => none
  | .readAccess thread =>
      match system.phases thread with
      | .holding mode =>
          some
            { system with
              phases :=
                Function.update system.phases thread
                  (.releasing mode
                    (WduPushLock.release offset this system.access)) }
      | _ => none
  | .kernelRelease thread =>
      match system.phases thread with
      | .releasing mode call =>
          some
            { system with
              kernel := kernelRelease system.kernel thread call
              phases := Function.update system.phases thread .idle
              releases := ⟨mode, call⟩ :: system.releases }
      | _ => none

/-- Each release made the kernel call for the mode that its thread held, and
the kernel's lock is free exactly when no thread is in. -/
structure Released (system : System Thread) : Prop where
  matched : ∀ release ∈ system.releases,
    ∃ call, release.call = some call ∧
      call.action = .release (some release.mode)
  free : system.kernel.threads = [] ↔
    ∀ thread, (system.phases thread).mode = none

/-! ## The invariant -/

def accessOf : LockMode → PushLockAccess
  | .shared => .shared
  | .exclusive => .exclusive

theorem acquireMethod_eq (offset : Nat) (this : Address) (mode : LockMode) :
    (acquireMethod offset this mode).1.action = .acquire false mode true ∧
      (acquireMethod offset this mode).2 = accessOf mode := by
  cases mode <;> exact ⟨rfl, rfl⟩

/-- The call that the field says is the one for the mode. -/
theorem release_accessOf (offset : Nat) (this : Address) (mode : LockMode) :
    ∃ call, WduPushLock.release offset this (accessOf mode) = some call ∧
      call.action = .release (some mode) := by
  cases mode <;> exact ⟨_, rfl, rfl⟩

/-- What a thread relies on between its steps. -/
def Phase.Fits (access : PushLockAccess) : Phase → Prop
  | .idle => True
  | .storing mode stored => stored = accessOf mode
  | .holding mode => access = accessOf mode
  | .releasing mode call =>
      ∃ made, call = some made ∧ made.action = .release (some mode)

/-- All threads that are in are there in the mode of the kernel's lock. -/
structure Sound (system : System Thread) : Prop where
  nodup : system.kernel.threads.Nodup
  inside : ∀ thread,
    thread ∈ system.kernel.threads ↔ (system.phases thread).mode ≠ none
  modes : ∀ thread mode,
    (system.phases thread).mode = some mode → system.kernel.mode = mode
  fits : ∀ thread, (system.phases thread).Fits system.access
  matched : ∀ release ∈ system.releases,
    ∃ call, release.call = some call ∧
      call.action = .release (some release.mode)

omit [DecidableEq Thread] in
theorem Sound.fits_in
    {system : System Thread} {thread : Thread} {phase : Phase}
    (sound : Sound system) (here : system.phases thread = phase) :
    phase.Fits system.access := by
  rw [← here]
  exact sound.fits thread

omit [DecidableEq Thread] in
theorem Sound.released
    {system : System Thread} (sound : Sound system) : Released system where
  matched := sound.matched
  free := by
    rw [List.eq_nil_iff_forall_not_mem]
    refine forall_congr' fun thread => ?_
    rw [sound.inside thread]
    exact not_not

section Steps

variable {offset : Nat} {this : Address} {system : System Thread}
    {thread : Thread}

/-- A thread that moves on inside keeps the rest of the invariant, if it and
the others still fit the field. -/
theorem sound_move
    (sound : Sound system) {phase : Phase} {access : PushLockAccess}
    (same : phase.mode = (system.phases thread).mode)
    (here : phase.Fits access)
    (others : ∀ other, other ≠ thread →
      (system.phases other).Fits access) :
    Sound
      { system with
        access := access
        phases := Function.update system.phases thread phase } := by
  have modes : ∀ other,
      (Function.update system.phases thread phase other).mode =
        (system.phases other).mode := by
    intro other
    by_cases equal : other = thread
    · rw [equal, Function.update_self, same]
    · rw [Function.update_of_ne equal]
  refine ⟨sound.nodup, ?_, ?_, ?_, sound.matched⟩
  · intro other
    rw [modes]
    exact sound.inside other
  · intro other mode
    rw [modes]
    exact sound.modes other mode
  · exact
      (Function.forall_update_iff system.phases fun _ phase =>
        phase.Fits access).mpr ⟨here, others⟩

theorem sound_acquire
    (sound : Sound system) {mode : LockMode} {kernel : RwLock Thread}
    (phase : system.phases thread = .idle)
    (granted :
      kernelAcquire system.kernel thread (acquireMethod offset this mode).1 =
        some kernel) :
    Sound
      { system with
        kernel := kernel
        phases :=
          Function.update system.phases thread
            (.storing mode (acquireMethod offset this mode).2) } := by
  obtain ⟨action, access⟩ := acquireMethod_eq offset this mode
  rw [kernelAcquire, action] at granted
  obtain ⟨threads, _⟩ := RwLock.acquire_cases granted
  obtain ⟨mine, before⟩ := RwLock.acquire_mode granted
  have outside : thread ∉ system.kernel.threads := by
    rw [sound.inside thread, phase]
    exact not_not.mpr rfl
  refine ⟨?_, ?_, ?_, ?_, sound.matched⟩
  · rw [threads]
    exact List.nodup_cons.mpr ⟨outside, sound.nodup⟩
  · intro other
    simp only [threads, List.mem_cons]
    by_cases equal : other = thread
    · simp [equal, Phase.mode]
    · rw [Function.update_of_ne equal, sound.inside other]
      exact or_iff_right equal
  · intro other otherMode
    simp only [mine]
    by_cases equal : other = thread
    · rw [equal, Function.update_self]
      exact Option.some.inj
    · rw [Function.update_of_ne equal]
      intro held
      have member : other ∈ system.kernel.threads := by
        rw [sound.inside other, held]
        exact Option.some_ne_none _
      have same : system.kernel.mode = mode :=
        before.resolve_left (List.ne_nil_of_mem member)
      exact same.symm.trans (sound.modes other otherMode held)
  · exact
      (Function.forall_update_iff system.phases fun _ phase =>
        phase.Fits system.access).mpr
          ⟨access, fun other _ => sound.fits other⟩

omit [DecidableEq Thread] in
/-- Every thread that is in fits the value for the mode of the kernel's
lock. -/
theorem Sound.fits_mode (sound : Sound system) (other : Thread) :
    (system.phases other).Fits (accessOf system.kernel.mode) := by
  have before := sound.fits other
  cases state : system.phases other with
  | idle => trivial
  | storing otherMode stored =>
      rw [state] at before
      exact before
  | holding otherMode =>
      have inside : (system.phases other).mode = some otherMode := by
        rw [state]
        rfl
      have same := sound.modes other otherMode inside
      rw [same]
      rfl
  | releasing otherMode call =>
      rw [state] at before
      exact before

theorem sound_storeAccess
    (sound : Sound system) {mode : LockMode} {access : PushLockAccess}
    (phase : system.phases thread = .storing mode access) :
    Sound
      { system with
        access := access
        phases := Function.update system.phases thread (.holding mode) } := by
  have stored : access = accessOf mode := sound.fits_in phase
  have inside : (system.phases thread).mode = some mode := by
    rw [phase]
    rfl
  have own := sound.modes thread mode inside
  have same : (Phase.holding mode).mode = (system.phases thread).mode :=
    inside.symm
  apply sound_move sound same stored
  intro other _
  rw [stored, ← own]
  exact sound.fits_mode other

theorem sound_readAccess
    (sound : Sound system) {mode : LockMode}
    (phase : system.phases thread = .holding mode) :
    Sound
      { system with
        phases :=
          Function.update system.phases thread
            (.releasing mode
              (WduPushLock.release offset this system.access)) } := by
  have access : system.access = accessOf mode := sound.fits_in phase
  have same :
      (Phase.releasing mode
          (WduPushLock.release offset this system.access)).mode =
        (system.phases thread).mode := by
    rw [phase]
    rfl
  refine sound_move sound same ?_ fun other _ => sound.fits other
  rw [access]
  exact release_accessOf offset this mode

theorem sound_kernelRelease
    (sound : Sound system) {mode : LockMode} {call : Option KernelCall}
    (phase : system.phases thread = .releasing mode call) :
    Sound
      { system with
        kernel := kernelRelease system.kernel thread call
        phases := Function.update system.phases thread .idle
        releases := ⟨mode, call⟩ :: system.releases } := by
  obtain ⟨made, rfl, action⟩ := sound.fits_in phase
  refine ⟨sound.nodup.erase thread, ?_, ?_, ?_, ?_⟩
  · intro other
    simp only [kernelRelease, RwLock.release, sound.nodup.mem_erase_iff]
    by_cases equal : other = thread
    · simp [equal, Phase.mode]
    · rw [Function.update_of_ne equal, sound.inside other]
      exact and_iff_right equal
  · intro other otherMode
    by_cases equal : other = thread
    · simp [equal, Phase.mode]
    · simp only [Function.update_of_ne equal]
      exact sound.modes other otherMode
  · exact
      (Function.forall_update_iff system.phases fun _ phase =>
        phase.Fits system.access).mpr
          ⟨trivial, fun other _ => sound.fits other⟩
  · exact List.forall_mem_cons.mpr ⟨⟨made, rfl, action⟩, sound.matched⟩

end Steps

theorem sound_step
    {offset : Nat} {this : Address} {system next : System Thread}
    {event : Event Thread} (sound : Sound system)
    (stepped : step offset this system event = some next) :
    Sound next := by
  cases event with
  | acquire thread mode =>
      simp only [step] at stepped
      split at stepped
      · next phase =>
          obtain ⟨kernel, granted, rfl⟩ := Option.map_eq_some_iff.mp stepped
          exact sound_acquire sound phase granted
      · cases stepped
  | storeAccess thread =>
      simp only [step] at stepped
      split at stepped
      · next phase =>
          cases stepped
          exact sound_storeAccess sound phase
      · cases stepped
  | readAccess thread =>
      simp only [step] at stepped
      split at stepped
      · next phase =>
          cases stepped
          exact sound_readAccess sound phase
      · cases stepped
  | kernelRelease thread =>
      simp only [step] at stepped
      split at stepped
      · next phase =>
          cases stepped
          exact sound_kernelRelease sound phase
      · cases stepped

omit [DecidableEq Thread] in
theorem sound_new : Sound (System.new : System Thread) where
  nodup := List.nodup_nil
  inside _ := iff_of_false List.not_mem_nil (not_not.mpr rfl)
  modes := nofun
  fits _ := trivial
  matched := nofun

end PushLock

end Sync

end WinDrvUtils

import Mathlib.Data.List.Perm.Subperm

/-!
# A lock that is shared or exclusive

The contract of an atomic reader-writer lock; a mutex is one that is only
taken exclusively. `threads` has one entry for each hold, and the field
`single` says that all holds of a lock that is held exclusively are one
thread's. A reentrant lock grants its exclusive holder anything it asks for.

`Covers lock holders` relates the lock to what its users believe they hold,
and `Covers.excludes` is what they may conclude from it.
-/

universe u

inductive LockMode where
  | shared
  | exclusive
  deriving DecidableEq, Repr

structure RwLock (Thread : Type u) where
  mode : LockMode
  threads : List Thread
  /-- An exclusive lock has one holder. -/
  single :
    mode = .exclusive →
      ∀ thread ∈ threads, ∀ other ∈ threads, thread = other

namespace RwLock

variable {Thread : Type u}

def free : RwLock Thread :=
  ⟨.shared, [], fun _ _ member => absurd member List.not_mem_nil⟩

def grant (mode : LockMode) (thread : Thread) : RwLock Thread :=
  ⟨mode, [thread], fun _ _ memberFirst _ memberSecond =>
    (List.mem_singleton.mp memberFirst).trans
      (List.mem_singleton.mp memberSecond).symm⟩

def join (lock : RwLock Thread) (thread : Thread)
    (shared : lock.mode = .shared) : RwLock Thread :=
  ⟨lock.mode, thread :: lock.threads, fun exclusive =>
    absurd (shared.symm.trans exclusive) LockMode.noConfusion⟩

def reenter (lock : RwLock Thread) (thread : Thread)
    (member : thread ∈ lock.threads) : RwLock Thread where
  mode := lock.mode
  threads := thread :: lock.threads
  single exclusive first memberFirst second memberSecond := by
    have old :
        ∀ other ∈ thread :: lock.threads, other ∈ lock.threads := by
      intro other memberOther
      rcases List.mem_cons.mp memberOther with rfl | later
      · exact member
      · exact later
    exact
      lock.single exclusive first (old first memberFirst) second
        (old second memberSecond)

variable [DecidableEq Thread]

/-- Ask for the lock; `none` is a refusal. -/
def acquire (reentrant : Bool) (lock : RwLock Thread) (thread : Thread)
    (mode : LockMode) : Option (RwLock Thread) :=
  if lock.threads = [] then some (grant mode thread)
  else
    if shared : lock.mode = .shared then
      if mode = .shared then some (lock.join thread shared) else none
    else
      if member : reentrant = true ∧ thread ∈ lock.threads then
        some (lock.reenter thread member.2)
      else none

def release (lock : RwLock Thread) (thread : Thread) : RwLock Thread where
  mode := lock.mode
  threads := lock.threads.erase thread
  single exclusive first memberFirst second memberSecond :=
    lock.single exclusive first (List.mem_of_mem_erase memberFirst) second
      (List.mem_of_mem_erase memberSecond)

/-- A lock that is granted is granted to one more hold, and it is shared
afterwards only if that was asked of a lock that was free or shared. -/
theorem acquire_cases
    {reentrant : Bool} {lock granted : RwLock Thread} {thread : Thread}
    {mode : LockMode}
    (acquired : lock.acquire reentrant thread mode = some granted) :
    granted.threads = thread :: lock.threads ∧
      (granted.mode = .shared →
        mode = .shared ∧ (lock.threads = [] ∨ lock.mode = .shared)) := by
  unfold acquire at acquired
  split at acquired
  case isTrue empty =>
      cases acquired
      exact ⟨by simp [grant, empty], fun shared => ⟨shared, Or.inl empty⟩⟩
  case isFalse =>
      split at acquired
      case isTrue shared =>
          split at acquired
          case isTrue asked =>
              cases acquired
              exact ⟨rfl, fun _ => ⟨asked, Or.inr shared⟩⟩
          case isFalse => cases acquired
      case isFalse exclusive =>
          split at acquired
          case isTrue member =>
              cases acquired
              exact ⟨rfl, fun shared => absurd shared exclusive⟩
          case isFalse => cases acquired

/-- A lock that is not reentrant is granted in the mode that was asked for,
and to several threads only in the mode in which it is held already. -/
theorem acquire_mode
    {lock granted : RwLock Thread} {thread : Thread} {mode : LockMode}
    (acquired : lock.acquire false thread mode = some granted) :
    granted.mode = mode ∧ (lock.threads = [] ∨ lock.mode = mode) := by
  unfold acquire at acquired
  split at acquired
  case isTrue empty =>
      cases acquired
      exact ⟨rfl, Or.inl empty⟩
  case isFalse =>
      split at acquired
      case isTrue shared =>
          split at acquired
          case isTrue asked =>
              cases acquired
              have same : lock.mode = mode := shared.trans asked.symm
              exact ⟨same, Or.inr same⟩
          case isFalse => cases acquired
      case isFalse => cases acquired

theorem acquire_of_free
    {reentrant : Bool} {lock : RwLock Thread} {thread : Thread}
    {mode : LockMode} (empty : lock.threads = []) :
    lock.acquire reentrant thread mode = some (grant mode thread) := by
  rw [acquire, if_pos empty]

/-! ## The users of a lock -/

/-- The holds that its users count are holds of the lock, and a lock that is
shared is held shared by all of them. -/
structure Covers (lock : RwLock Thread)
    (holders : List (Thread × LockMode)) : Prop where
  holds : (holders.map Prod.fst).Subperm lock.threads
  modes : lock.mode = .shared → ∀ hold ∈ holders, hold.2 = .shared

/-- Two threads that hold a lock both share it. -/
def Excludes (holders : List (Thread × LockMode)) : Prop :=
  ∀ hold ∈ holders, ∀ other ∈ holders,
    hold.1 ≠ other.1 → hold.2 = .shared ∧ other.2 = .shared

omit [DecidableEq Thread] in
theorem Covers.excludes
    {lock : RwLock Thread} {holders : List (Thread × LockMode)}
    (covers : lock.Covers holders) : Excludes holders := by
  intro hold member other memberOther different
  cases mode : lock.mode with
  | shared =>
      exact
        ⟨covers.modes mode hold member, covers.modes mode other memberOther⟩
  | exclusive =>
      have holds := covers.holds.subset (List.mem_map_of_mem member)
      have holdsOther := covers.holds.subset (List.mem_map_of_mem memberOther)
      exact
        absurd (lock.single mode hold.1 holds other.1 holdsOther) different

omit [DecidableEq Thread] in
theorem covers_free : (free : RwLock Thread).Covers [] :=
  ⟨List.Subperm.refl [], fun _ _ member => absurd member List.not_mem_nil⟩

theorem Covers.acquire
    {reentrant : Bool} {lock granted : RwLock Thread} {thread : Thread}
    {mode : LockMode} {holders : List (Thread × LockMode)}
    (covers : lock.Covers holders)
    (acquired : lock.acquire reentrant thread mode = some granted) :
    granted.Covers ((thread, mode) :: holders) := by
  obtain ⟨threads, shared⟩ := acquire_cases acquired
  refine ⟨?_, ?_⟩
  · rw [threads, List.map_cons]
    exact (List.subperm_cons thread).mpr covers.holds
  · intro mode hold member
    obtain ⟨asked, before⟩ := shared mode
    rcases List.mem_cons.mp member with rfl | later
    · exact asked
    · rcases before with empty | wasShared
      · have holds := covers.holds.subset (List.mem_map_of_mem later)
        rw [empty] at holds
        exact absurd holds List.not_mem_nil
      · exact covers.modes wasShared hold later

/-- A user that gives up a hold, whether or not the lock hears of it. -/
theorem Covers.forget
    {lock : RwLock Thread} {holders : List (Thread × LockMode)}
    (covers : lock.Covers holders) (hold : Thread × LockMode) :
    lock.Covers (holders.erase hold) where
  holds :=
    ((List.erase_sublist (a := hold) (l := holders)).map Prod.fst).subperm.trans
      covers.holds
  modes shared other member :=
    covers.modes shared other (List.mem_of_mem_erase member)

theorem Covers.release
    {lock : RwLock Thread} {holders : List (Thread × LockMode)}
    {thread : Thread} {mode : LockMode}
    (covers : lock.Covers holders) (member : (thread, mode) ∈ holders) :
    (lock.release thread).Covers (holders.erase (thread, mode)) where
  holds := by
    have split :
        (holders.map Prod.fst).Perm
          (thread :: (holders.erase (thread, mode)).map Prod.fst) :=
      (List.perm_cons_erase member).map Prod.fst
    have rest := (split.symm.subperm.trans covers.holds).erase thread
    simpa [RwLock.release] using rest
  modes shared other memberOther :=
    covers.modes shared other (List.mem_of_mem_erase memberOther)

end RwLock

import WinDrvUtils.Nt
import WinDrvUtils.Library.Ledger
import WinDrvUtils.Library.StepSystem

/-!
# Memory descriptor lists

`WduMdl` remembers in two flags what its drop has to undo: `alloc` that
`IoAllocateMdl` made the MDL, and `lock` that `MmProbeAndLockPages` locked its
pages. The flags are the wrapper's own. A clone copies them and so undoes
everything a second time, and `free` releases the MDL but leaves `alloc` set.

The kernel keeps two ledgers, of the MDLs that it allocated and of the pages
that wrappers have locked. An MDL has one flag that says that its pages are
locked, so they are locked by nobody, by a wrapper or by the owner of an MDL
that was wrapped. The kernel notes in `misused` when an MDL is freed while its
pages are locked, and when pages are locked that are locked already or whose
MDL was freed.
-/

namespace WinDrvUtils

structure WduMdl where
  mdl : Address
  lock : Bool
  alloc : Bool
  deriving DecidableEq, Repr

inductive WduMdlError where
  | allocateError
  deriving DecidableEq, Repr

abbrev WduMdlResult (α : Type) := Except WduMdlError α

/-- The arguments of `IoAllocateMdl`. -/
structure MdlRequest where
  virtualAddress : Address
  length : UInt32
  secondaryBuffer : Bool
  chargeQuota : Bool
  irp : Address
  deriving DecidableEq, Repr

structure MdlKernel where
  mdls : Ledger Address
  /-- Live are the MDLs whose pages are locked through a wrapper. -/
  locks : Ledger Address
  /-- The MDLs whose pages their owners have locked. -/
  ownerLocked : List Address
  /-- The addresses of freed MDLs where no MDL has come since. -/
  freed : List Address
  misused : List Address

namespace MdlKernel

def new : MdlKernel :=
  ⟨Ledger.empty, Ledger.empty, [], [], []⟩

/-- `MDL_PAGES_LOCKED` -/
def IsLocked (kernel : MdlKernel) (mdl : Address) : Prop :=
  mdl ∈ kernel.locks.live ∨ mdl ∈ kernel.ownerLocked

instance (kernel : MdlKernel) (mdl : Address) :
    Decidable (kernel.IsLocked mdl) :=
  inferInstanceAs (Decidable (_ ∨ _))

/-- An MDL is at the address now, whatever was there before; `locked` says
whether its owner has locked its pages. -/
def arrive (kernel : MdlKernel) (mdl : Address) (locked : Bool) :
    MdlKernel :=
  let others := kernel.ownerLocked.filter fun other => other != mdl
  { kernel with
    ownerLocked := if locked then mdl :: others else others
    freed := kernel.freed.filter fun other => other != mdl }

def ioAllocateMdl (kernel : MdlKernel) (mdl : Address) : MdlKernel :=
  { kernel.arrive mdl false with mdls := kernel.mdls.issue mdl }

def ioFreeMdl (kernel : MdlKernel) (mdl : Address) : MdlKernel :=
  { kernel with
    mdls := kernel.mdls.release mdl
    freed := mdl :: kernel.freed
    misused :=
      if kernel.IsLocked mdl then mdl :: kernel.misused
      else kernel.misused }

/-- Pages that are locked are not locked a second time. -/
def mmProbeAndLockPages (kernel : MdlKernel) (mdl : Address) : MdlKernel :=
  { kernel with
    locks :=
      if kernel.IsLocked mdl then kernel.locks else kernel.locks.issue mdl
    misused :=
      if mdl ∈ kernel.freed ∨ kernel.IsLocked mdl then mdl :: kernel.misused
      else kernel.misused }

def mmUnlockPages (kernel : MdlKernel) (mdl : Address) : MdlKernel :=
  { kernel with locks := kernel.locks.release mdl }

end MdlKernel

/-- What a wrapper reads of an MDL. -/
structure MDL where
  mdlFlags : Int16
  mappedSystemVa : Address
  byteCount : UInt32
  deriving DecidableEq, Repr

/-- The arguments of `MmMapLockedPagesSpecifyCache`. -/
structure MapRequest where
  mdl : Address
  accessMode : Int8
  cacheType : Int32
  requestedAddress : Address
  bugCheckOnFailure : UInt32
  priority : UInt32
  deriving DecidableEq, Repr

inductive ProcessorMode where
  | userMode
  | kernelMode
  deriving DecidableEq, Repr

/-- `Into<i8>` -/
def ProcessorMode.toI8 : ProcessorMode → Int8
  | .kernelMode => 0
  | .userMode => 1

def mmCached : Int32 := 1

def mdlMappedToSystemVa : UInt32 := 1

def mdlSourceIsNonpagedPool : UInt32 := 4

namespace PagePriority

def normal : UInt32 := 16

def mdlMappingNoExecute : UInt32 := 0x40000000

end PagePriority

/-- The MDLs of the kernel, and how it answers a request to map one. -/
structure MdlMemory where
  mdlAt : Address → MDL
  mmMapLockedPagesSpecifyCache : MapRequest → Address

namespace WduMdl

def wrap (mdl : Address) : WduMdl where
  mdl := mdl
  lock := false
  alloc := false

/-- `allocator` is what `IoAllocateMdl` answers to a request. -/
def allocate (va : Address) (len : UInt32) (secondary : Bool)
    (irp : Option Address) (allocator : MdlRequest → Address)
    (kernel : MdlKernel) : WduMdlResult WduMdl × MdlKernel :=
  let mdl := allocator ⟨va, len, secondary, false, irp.getD nullPtr⟩
  if mdl = nullPtr then (.error .allocateError, kernel)
  else
    (.ok { mdl := mdl, lock := false, alloc := true },
      kernel.ioAllocateMdl mdl)

/-- The method, which leaves the wrapper as it is. -/
def free (wrapper : WduMdl) (kernel : MdlKernel) : MdlKernel :=
  kernel.ioFreeMdl wrapper.mdl

/-- A call that returns: `MmProbeAndLockPages` raises an exception when it
cannot lock the pages, and nobody catches it. -/
def probeAndLock (wrapper : WduMdl) (kernel : MdlKernel) :
    WduMdl × MdlKernel :=
  ({ wrapper with lock := true }, kernel.mmProbeAndLockPages wrapper.mdl)

def unlock (wrapper : WduMdl) (kernel : MdlKernel) : WduMdl × MdlKernel :=
  ({ wrapper with lock := false }, kernel.mmUnlockPages wrapper.mdl)

def drop (wrapper : WduMdl) (kernel : MdlKernel) : MdlKernel :=
  let (wrapper, kernel) :=
    if wrapper.lock then wrapper.unlock kernel else (wrapper, kernel)
  if wrapper.alloc then wrapper.free kernel else kernel

/-- `#[derive(Clone)]` -/
def clone (wrapper : WduMdl) : WduMdl where
  mdl := wrapper.mdl
  lock := wrapper.lock
  alloc := wrapper.alloc

def getSystemAddr (wrapper : WduMdl) (priority : UInt32)
    (memory : MdlMemory) : Address :=
  if wrapper.mdl = nullPtr then nullPtr
  else
    let mdl := memory.mdlAt wrapper.mdl
    let flags := (mdlMappedToSystemVa ||| mdlSourceIsNonpagedPool)
      |>.toUInt16.toInt16
    if mdl.mdlFlags &&& flags ≠ 0 then mdl.mappedSystemVa
    else
      memory.mmMapLockedPagesSpecifyCache
        ⟨wrapper.mdl, ProcessorMode.kernelMode.toI8, mmCached, nullPtr, 0,
          priority⟩

def byteCount (wrapper : WduMdl) (memory : MdlMemory) : Nat :=
  if wrapper.mdl = nullPtr then 0
  else (memory.mdlAt wrapper.mdl).byteCount.toNat

/-- The MDL that the drop of a wrapper frees. -/
def allocated (wrapper : WduMdl) : List Address :=
  if wrapper.alloc then [wrapper.mdl] else []

/-- The MDL that the drop of a wrapper unlocks. -/
def locked (wrapper : WduMdl) : List Address :=
  if wrapper.lock then [wrapper.mdl] else []

theorem allocated_eq_nil_iff (wrapper : WduMdl) :
    wrapper.allocated = [] ↔ wrapper.alloc = false := by
  unfold allocated
  cases wrapper.alloc <;> simp

theorem locked_eq_nil_iff (wrapper : WduMdl) :
    wrapper.locked = [] ↔ wrapper.lock = false := by
  unfold locked
  cases wrapper.lock <;> simp

end WduMdl

namespace Mdl

open StepSystem

/-- The wrappers that the driver has not dropped. -/
structure System where
  kernel : MdlKernel
  wrappers : List WduMdl

/-- A wrapper is named by its place in the list. The owner of an MDL that is
wrapped may have locked its pages. -/
inductive Event where
  | allocate (va : Address) (len : UInt32) (secondary : Bool)
      (irp : Option Address) (allocator : MdlRequest → Address)
  | wrap (mdl : Address) (locked : Bool)
  | clone (index : Nat)
  | probeAndLock (index : Nat)
  | unlock (index : Nat)
  | free (index : Nat)
  | drop (index : Nat)

namespace System

def new : System :=
  ⟨MdlKernel.new, []⟩

/-- The driver keeps the wrapper that it gets, if it gets one. `IoAllocateMdl`
never answers with an MDL that is in use. -/
def keep (system : System) (outcome : WduMdlResult WduMdl × MdlKernel) :
    Option System :=
  match outcome with
  | (.error _, kernel) => some { system with kernel := kernel }
  | (.ok wrapper, kernel) =>
      if wrapper.mdl ∈ system.kernel.mdls.live ∨
          wrapper.mdl ∈ system.kernel.locks.live then none
      else some ⟨kernel, wrapper :: system.wrappers⟩

/-- A method changes the wrapper at `index`. -/
def change (system : System) (index : Nat)
    (method : WduMdl → MdlKernel → WduMdl × MdlKernel) : Option System :=
  system.wrappers[index]?.map fun wrapper =>
    let (wrapper, kernel) := method wrapper system.kernel
    ⟨kernel, system.wrappers.set index wrapper⟩

def allocated (system : System) : List Address :=
  system.wrappers.flatMap WduMdl.allocated

def locked (system : System) : List Address :=
  system.wrappers.flatMap WduMdl.locked

end System

def step (system : System) : Event → Option System
  | .allocate va len secondary irp allocator =>
      system.keep
        (WduMdl.allocate va len secondary irp allocator system.kernel)
  | .wrap mdl locked =>
      if locked = true ∧ mdl ∈ system.kernel.locks.live then none
      else
        some
          ⟨system.kernel.arrive mdl locked,
            WduMdl.wrap mdl :: system.wrappers⟩
  | .clone index =>
      system.wrappers[index]?.map fun wrapper =>
        { system with wrappers := wrapper.clone :: system.wrappers }
  | .probeAndLock index => system.change index WduMdl.probeAndLock
  | .unlock index => system.change index WduMdl.unlock
  | .free index =>
      system.wrappers[index]?.map fun wrapper =>
        { system with kernel := wrapper.free system.kernel }
  | .drop index =>
      system.wrappers[index]?.map fun wrapper =>
        ⟨wrapper.drop system.kernel, system.wrappers.eraseIdx index⟩

/-! ## The life cycle -/

/-- The ledgers are those of the drops that are to come, and nothing was
misused. -/
structure Accounts (kernel : MdlKernel) (allocated locked : List Address) :
    Prop where
  mdls : kernel.mdls.HeldBy allocated
  locks : kernel.locks.HeldBy locked
  proper : kernel.misused = []

/-- Each allocated MDL and each lock is the one that some wrapper will undo,
nothing was freed or unlocked that was not allocated or locked, no MDL was
freed while its pages were locked, and no pages were locked that were locked
already or whose MDL was freed. Without wrappers, everything was undone as
often as it was done. -/
structure Paired (system : System) : Prop where
  accounts : Accounts system.kernel system.allocated system.locked
  settled :
    system.wrappers = [] →
      ∀ mdl,
        system.kernel.mdls.released.count mdl =
            system.kernel.mdls.issued.count mdl ∧
          system.kernel.locks.released.count mdl =
            system.kernel.locks.issued.count mdl

/-- The wrapper at `index`, if there is one, is as the condition says. -/
def System.At (system : System) (index : Nat) (condition : WduMdl → Prop) :
    Prop :=
  ∀ wrapper, system.wrappers[index]? = some wrapper → condition wrapper

/-- The uses of the interface that keep everything paired. -/
def InOrder (system : System) : Event → Prop
  | .allocate _ _ _ _ _ | .wrap _ _ => True
  | .clone index =>
      system.At index fun wrapper =>
        wrapper.alloc = false ∧ wrapper.lock = false
  | .probeAndLock index =>
      system.At index fun wrapper =>
        wrapper.mdl ∉ system.kernel.freed ∧
          ¬ system.kernel.IsLocked wrapper.mdl
  | .unlock index => system.At index fun wrapper => wrapper.lock = true
  | .free _ => False
  | .drop index =>
      system.At index fun wrapper =>
        wrapper.alloc = true →
          wrapper.mdl ∉ system.kernel.ownerLocked ∧
            ∀ other ∈ system.wrappers.eraseIdx index,
              other.lock = true → other.mdl ≠ wrapper.mdl

theorem paired_iff (system : System) :
    Paired system ↔
      Accounts system.kernel system.allocated system.locked := by
  constructor
  · exact Paired.accounts
  · intro accounts
    refine ⟨accounts, fun none mdl => ?_⟩
    have noMdl := accounts.mdls.2
    have noLock := accounts.locks.2
    rw [System.allocated, none, List.flatMap_nil] at noMdl
    rw [System.locked, none, List.flatMap_nil] at noLock
    exact
      ⟨Ledger.count_eq_of_live_nil noMdl.eq_nil mdl,
        Ledger.count_eq_of_live_nil noLock.eq_nil mdl⟩

theorem at_iff
    {system : System} {index : Nat} {wrapper : WduMdl}
    (found : system.wrappers[index]? = some wrapper)
    {condition : WduMdl → Prop} :
    system.At index condition ↔ condition wrapper := by
  constructor
  · intro all
    exact all wrapper found
  · intro holds other same
    rw [found] at same
    cases same
    exact holds

theorem mem_locked_iff
    {wrappers : List WduMdl} (mdl : Address) :
    mdl ∉ wrappers.flatMap WduMdl.locked ↔
      ∀ other ∈ wrappers, other.lock = true → other.mdl ≠ mdl := by
  simp only [List.mem_flatMap, WduMdl.locked, List.mem_ite_nil_right,
    List.mem_singleton, not_exists, not_and]
  constructor
  · intro none other member locked same
    exact none other member locked same.symm
  · intro none other member locked same
    exact none other member locked same.symm

section Calls

variable {kernel : MdlKernel} {wrapper : WduMdl}
    {restAllocated restLocked : List Address}

theorem accounts_perm
    {allocated locked otherAllocated otherLocked : List Address}
    (accounts : Accounts kernel allocated locked)
    (sameAllocated : allocated.Perm otherAllocated)
    (sameLocked : locked.Perm otherLocked) :
    Accounts kernel otherAllocated otherLocked :=
  ⟨accounts.mdls.perm sameAllocated, accounts.locks.perm sameLocked,
    accounts.proper⟩

theorem accounts_clone_iff
    (accounts : Accounts kernel restAllocated restLocked) :
    Accounts kernel (wrapper.clone.allocated ++ restAllocated)
        (wrapper.clone.locked ++ restLocked) ↔
      wrapper.alloc = false ∧ wrapper.lock = false := by
  rw [← wrapper.allocated_eq_nil_iff, ← wrapper.locked_eq_nil_iff]
  constructor
  · intro both
    exact
      ⟨accounts.mdls.append_iff_nil.mp both.mdls,
        accounts.locks.append_iff_nil.mp both.locks⟩
  · intro none
    exact
      ⟨accounts.mdls.append_iff_nil.mpr none.1,
        accounts.locks.append_iff_nil.mpr none.2, accounts.proper⟩

/-- The pages that a wrapper has locked are locked. -/
theorem isLocked_of_lock
    (accounts :
      Accounts kernel (wrapper.allocated ++ restAllocated)
        (wrapper.locked ++ restLocked))
    (lock : wrapper.lock = true) : kernel.IsLocked wrapper.mdl := by
  refine Or.inl ((accounts.locks.mem_iff wrapper.mdl).mpr ?_)
  rw [WduMdl.locked, if_pos lock]
  exact List.mem_cons_self

theorem accounts_probeAndLock_iff
    (accounts :
      Accounts kernel (wrapper.allocated ++ restAllocated)
        (wrapper.locked ++ restLocked)) :
    Accounts (wrapper.probeAndLock kernel).2
        ((wrapper.probeAndLock kernel).1.allocated ++ restAllocated)
        ((wrapper.probeAndLock kernel).1.locked ++ restLocked) ↔
      wrapper.mdl ∉ kernel.freed ∧ ¬ kernel.IsLocked wrapper.mdl := by
  have proper :
      (kernel.mmProbeAndLockPages wrapper.mdl).misused = [] ↔
        wrapper.mdl ∉ kernel.freed ∧ ¬ kernel.IsLocked wrapper.mdl := by
    simp [MdlKernel.mmProbeAndLockPages, accounts.proper]
  constructor
  · intro after
    exact proper.mp after.proper
  · intro condition
    have unlocked : wrapper.lock = false :=
      Bool.eq_false_iff.mpr fun lock =>
        condition.2 (isLocked_of_lock accounts lock)
    have locks : kernel.locks.HeldBy restLocked := by
      have held := accounts.locks
      rw [wrapper.locked_eq_nil_iff.mpr unlocked] at held
      exact held
    refine ⟨accounts.mdls, ?_, proper.mpr condition⟩
    have issued :
        (kernel.mmProbeAndLockPages wrapper.mdl).locks =
          kernel.locks.issue wrapper.mdl :=
      if_neg condition.2
    exact issued ▸ locks.issue wrapper.mdl

theorem accounts_unlock
    (accounts :
      Accounts kernel (wrapper.allocated ++ restAllocated)
        (wrapper.locked ++ restLocked))
    (lock : wrapper.lock = true) :
    Accounts (wrapper.unlock kernel).2
      ((wrapper.unlock kernel).1.allocated ++ restAllocated)
      ((wrapper.unlock kernel).1.locked ++ restLocked) := by
  have held := accounts.locks
  rw [WduMdl.locked, if_pos lock] at held
  exact
    ⟨accounts.mdls, held.release_of_perm (List.Perm.refl _),
      accounts.proper⟩

theorem accounts_unlock_iff
    (accounts :
      Accounts kernel (wrapper.allocated ++ restAllocated)
        (wrapper.locked ++ restLocked)) :
    Accounts (wrapper.unlock kernel).2
        ((wrapper.unlock kernel).1.allocated ++ restAllocated)
        ((wrapper.unlock kernel).1.locked ++ restLocked) ↔
      wrapper.lock = true := by
  constructor
  · intro after
    by_contra unlocked
    have held := accounts.locks
    rw [WduMdl.locked, if_neg unlocked] at held
    exact held.not_release wrapper.mdl after.locks
  · exact accounts_unlock accounts

/-- The two halves of a drop: what the wrapper has locked is unlocked, and
then what it has allocated is freed, unless it is still locked. -/
theorem accounts_drop_iff
    (accounts :
      Accounts kernel (wrapper.allocated ++ restAllocated)
        (wrapper.locked ++ restLocked)) :
    Accounts (wrapper.drop kernel) restAllocated restLocked ↔
      (wrapper.alloc = true →
        wrapper.mdl ∉ kernel.ownerLocked ∧ wrapper.mdl ∉ restLocked) := by
  obtain ⟨mdl, lock, alloc⟩ := wrapper
  have unlocked :
      ∃ middle, WduMdl.drop ⟨mdl, lock, alloc⟩ kernel =
          (if alloc then MdlKernel.ioFreeMdl middle mdl else middle) ∧
        middle.ownerLocked = kernel.ownerLocked ∧
        Accounts middle
          (WduMdl.allocated ⟨mdl, lock, alloc⟩ ++ restAllocated)
          restLocked := by
    cases lock with
    | false =>
        exact ⟨kernel, rfl, rfl, accounts⟩
    | true =>
        exact
          ⟨kernel.mmUnlockPages mdl, rfl, rfl, accounts_unlock accounts rfl⟩
  obtain ⟨middle, same, owners, between⟩ := unlocked
  rw [same]
  cases alloc with
  | false =>
      exact iff_of_true between (fun alloc => nomatch alloc)
  | true =>
      have freed := between.mdls.release_of_perm (List.Perm.refl _)
      have proper :
          (middle.ioFreeMdl mdl).misused = [] ↔
            mdl ∉ kernel.ownerLocked ∧ mdl ∉ restLocked := by
        rw [← between.locks.mem_iff mdl, ← owners]
        simp [MdlKernel.ioFreeMdl, MdlKernel.IsLocked, between.proper,
          and_comm]
      constructor
      · intro after _
        exact proper.mp after.proper
      · intro free
        exact ⟨freed, between.locks, proper.mpr (free rfl)⟩

end Calls

section Lists

variable {system : System} {index : Nat} {wrapper : WduMdl}

theorem accounts_of_getElem?
    (paired : Paired system)
    (found : system.wrappers[index]? = some wrapper) :
    Accounts system.kernel
      (wrapper.allocated ++
        (system.wrappers.eraseIdx index).flatMap WduMdl.allocated)
      (wrapper.locked ++
        (system.wrappers.eraseIdx index).flatMap WduMdl.locked) := by
  obtain ⟨inside, rfl⟩ := List.getElem?_eq_some_iff.mp found
  have split := (List.getElem_cons_eraseIdx_perm inside).symm
  exact
    accounts_perm paired.accounts (split.flatMap_right _)
      (split.flatMap_right _)

theorem paired_change_iff
    {next : System} {method : WduMdl → MdlKernel → WduMdl × MdlKernel}
    (found : system.wrappers[index]? = some wrapper)
    (stepped : system.change index method = some next) :
    Paired next ↔
      Accounts (method wrapper system.kernel).2
        ((method wrapper system.kernel).1.allocated ++
          (system.wrappers.eraseIdx index).flatMap WduMdl.allocated)
        ((method wrapper system.kernel).1.locked ++
          (system.wrappers.eraseIdx index).flatMap WduMdl.locked) := by
  obtain ⟨_, same, rfl⟩ := Option.map_eq_some_iff.mp stepped
  rw [found] at same
  cases same
  obtain ⟨inside, _⟩ := List.getElem?_eq_some_iff.mp found
  have split :=
    List.set_perm_cons_eraseIdx inside (method wrapper system.kernel).1
  rw [paired_iff]
  constructor
  · intro accounts
    exact
      accounts_perm accounts (split.flatMap_right _) (split.flatMap_right _)
  · intro accounts
    exact
      accounts_perm accounts (split.symm.flatMap_right _)
        (split.symm.flatMap_right _)

theorem paired_allocate
    {va : Address} {len : UInt32} {secondary : Bool} {irp : Option Address}
    {allocator : MdlRequest → Address} {next : System}
    (paired : Paired system)
    (kept :
      system.keep
          (WduMdl.allocate va len secondary irp allocator system.kernel) =
        some next) :
    Paired next := by
  unfold WduMdl.allocate at kept
  generalize allocator _ = mdl at kept
  by_cases refused : mdl = nullPtr
  · simp only [if_pos refused] at kept
    cases kept
    exact (paired_iff _).mpr paired.accounts
  · simp only [if_neg refused, System.keep] at kept
    split at kept
    · cases kept
    · cases kept
      exact
        (paired_iff _).mpr
          ⟨paired.accounts.mdls.issue mdl, paired.accounts.locks,
            paired.accounts.proper⟩

end Lists

/-- A step keeps everything paired exactly when it is in order. -/
theorem paired_step_iff
    {system next : System} {event : Event} (paired : Paired system)
    (stepped : step system event = some next) :
    Paired next ↔ InOrder system event := by
  cases event with
  | allocate va len secondary irp allocator =>
      exact iff_of_true (paired_allocate paired stepped) trivial
  | wrap mdl locked =>
      obtain ⟨_, same⟩ := Option.ite_none_left_eq_some.mp stepped
      cases same
      refine iff_of_true ((paired_iff _).mpr ?_) trivial
      exact
        ⟨paired.accounts.mdls, paired.accounts.locks,
          paired.accounts.proper⟩
  | clone index =>
      obtain ⟨wrapper, found, rfl⟩ := Option.map_eq_some_iff.mp stepped
      rw [paired_iff, InOrder, at_iff found]
      exact accounts_clone_iff paired.accounts
  | probeAndLock index =>
      rw [step] at stepped
      obtain ⟨wrapper, found, _⟩ := Option.map_eq_some_iff.mp stepped
      have accounts := accounts_of_getElem? paired found
      rw [InOrder, at_iff found]
      exact
        (paired_change_iff found stepped).trans
          (accounts_probeAndLock_iff accounts)
  | unlock index =>
      rw [step] at stepped
      obtain ⟨wrapper, found, _⟩ := Option.map_eq_some_iff.mp stepped
      have accounts := accounts_of_getElem? paired found
      rw [InOrder, at_iff found]
      exact
        (paired_change_iff found stepped).trans
          (accounts_unlock_iff accounts)
  | free index =>
      obtain ⟨wrapper, found, rfl⟩ := Option.map_eq_some_iff.mp stepped
      refine iff_of_false (fun after => ?_) id
      exact
        paired.accounts.mdls.not_release wrapper.mdl after.accounts.mdls
  | drop index =>
      obtain ⟨wrapper, found, rfl⟩ := Option.map_eq_some_iff.mp stepped
      have accounts := accounts_of_getElem? paired found
      rw [paired_iff, InOrder, at_iff found, ← mem_locked_iff]
      exact accounts_drop_iff accounts

theorem paired_new : Paired System.new :=
  (paired_iff _).mpr ⟨Ledger.heldBy_empty, Ledger.heldBy_empty, rfl⟩

/-- For every run over wrappers of MDLs: everything that is allocated and
locked is freed and unlocked once and in this order if and only if only
wrappers without flags are cloned, pages are locked only while they are not
locked and their MDL is not freed, they are unlocked through wrappers that
have locked them, `free` is never called, and no wrapper that has allocated
its MDL is dropped while the pages are locked by somebody else. -/
theorem mdls_paired_iff (events : List Event) :
    Always step Paired System.new events ↔
      Guarded step InOrder System.new events :=
  always_iff_guarded (fun _ paired => paired)
    (fun _ _ _ paired inOrder stepped =>
      (paired_step_iff paired stepped).mpr inOrder)
    (fun _ _ _ paired stepped => (paired_step_iff paired stepped).mp)
    paired_new

def freeAndDrop : List Event :=
  [.allocate 0x1000 16 false none fun _ => 0x8000, .free 0, .drop 0]

/-- The drop frees the MDL that `free` has freed. -/
theorem freeAndDrop_freesTwice :
    (∃ last, run step System.new freeAndDrop = some last ∧
        last.kernel.mdls.released = [0x8000] ∧
        last.kernel.mdls.stray = [0x8000]) ∧
      ¬ Always step Paired System.new freeAndDrop := by
  refine ⟨⟨_, rfl, rfl, rfl⟩, ?_⟩
  intro always
  have clean := (always.last rfl).accounts.mdls.1
  exact List.cons_ne_nil _ _ clean

/-- Two wrappers lock and unlock one MDL: the second time it is not locked. -/
example :
    (run step System.new
      [.wrap 0x8000 false, .clone 0, .probeAndLock 0, .probeAndLock 1,
        .unlock 0, .unlock 1]).map (fun system => system.kernel.locks.stray) =
      some [0x8000] := rfl

end Mdl

end WinDrvUtils

import WinDrvUtils.Strings.Unicode
import WinDrvUtils.Library.StepSystem

/-!
# The pool allocator

`SimpleAlloc` keeps a tag, a pool type and its flags, and whether
`ExAllocatePool2` was found. Every request and every release takes the tag
from there, whatever it was when the block was allocated.

The kernel keeps each live block with the request that made it, and a record
of the calls of `ExFreePoolWithTag`.
-/

namespace WinDrvUtils

structure Layout where
  size : Nat
  align : Nat
  deriving DecidableEq, Repr

/-- A request to the kernel's pool. -/
inductive PoolCall where
  | exAllocatePool2 (flags : UInt64) (size : Nat) (tag : UInt32)
  | exAllocatePoolWithTag (poolType : Int32) (size : Nat) (tag : UInt32)
  deriving DecidableEq, Repr

def PoolCall.tag : PoolCall → UInt32
  | .exAllocatePool2 _ _ tag => tag
  | .exAllocatePoolWithTag _ _ tag => tag

def PoolCall.size : PoolCall → Nat
  | .exAllocatePool2 _ size _ => size
  | .exAllocatePoolWithTag _ size _ => size

/-- `DEFAULT_POOL_TAG`, the bytes of `ALrs`. -/
def defaultPoolTag : UInt32 := 0x73724C41

/-- `POOL_TYPE` values. `NonPagedPoolExecute` is `NonPagedPool`. -/
def nonPagedPool : Int32 := 0
def nonPagedPoolNx : Int32 := 512

namespace PoolFlags

/-- `From<POOL_TYPE>` -/
def fromPoolType (value : Int32) : PoolFlags :=
  if value = nonPagedPool ∨ value = nonPagedPoolNx then .poolFlagNonPaged
  else .poolFlagPaged

/-- The cast `as u64`. -/
def toU64 : PoolFlags → UInt64
  | .poolFlagUninit => 0x2
  | .poolFlagCacheAligned => 0x4
  | .poolFlagNonPaged => 0x40
  | .poolFlagNonPagedExecute => 0x80
  | .poolFlagPaged => 0x100

end PoolFlags

structure SimpleAlloc where
  tag : UInt32
  poolType : Int32
  poolFlags : PoolFlags
  allocPool2 : Option CodePtr
  deriving DecidableEq, Repr

namespace SimpleAlloc

def constNew : SimpleAlloc where
  tag := defaultPoolTag
  poolType := nonPagedPool
  poolFlags := .poolFlagNonPaged
  allocPool2 := none

/-- The method `tag`. -/
def setTag (allocator : SimpleAlloc) (tag : UInt32) : SimpleAlloc :=
  { allocator with tag := tag }

/-- The method `pool_type`. -/
def setPoolType (allocator : SimpleAlloc) (poolType : Int32) : SimpleAlloc :=
  { allocator with
    poolType := poolType
    poolFlags := PoolFlags.fromPoolType poolType }

/-- `routine` is what `MmGetSystemRoutineAddress` answers for
`ExAllocatePool2`. -/
def init (allocator : SimpleAlloc) (routine : CodePtr) : SimpleAlloc :=
  { allocator with
    allocPool2 := if routine = nullPtr then none else some routine }

def alloc (allocator : SimpleAlloc) (layout : Layout) : PoolCall :=
  match allocator.allocPool2 with
  | none =>
      .exAllocatePoolWithTag allocator.poolType layout.size allocator.tag
  | some _ =>
      .exAllocatePool2 allocator.poolFlags.toU64 layout.size allocator.tag

def allocWithTag (allocator : SimpleAlloc) (size : Nat) (tag : UInt32) :
    PoolCall :=
  match allocator.allocPool2 with
  | none => .exAllocatePoolWithTag allocator.poolType size tag
  | some _ => .exAllocatePool2 allocator.poolFlags.toU64 size tag

/-- `dealloc` and `deallocate`: the tag that goes to `ExFreePoolWithTag`. -/
def deallocTag (allocator : SimpleAlloc) : UInt32 :=
  allocator.tag

/-- Both ways to allocate pass the tag. -/
@[simp]
theorem alloc_tag (allocator : SimpleAlloc) (layout : Layout) :
    (allocator.alloc layout).tag = allocator.tag := by
  unfold alloc
  cases allocator.allocPool2 <;> simp [PoolCall.tag]

end SimpleAlloc

namespace Pool

open StepSystem

/-- A live block. `tagInForce` is the argument of the last call of `tag`
before it was allocated, or the default. -/
structure Block where
  address : Address
  call : PoolCall
  tagInForce : UInt32
  deriving DecidableEq, Repr

/-- A call of `ExFreePoolWithTag`. -/
structure Release where
  block : Block
  tag : UInt32
  deriving DecidableEq, Repr

/-- `tagInForce` follows the calls of `tag` alone. -/
structure System where
  allocator : SimpleAlloc
  tagInForce : UInt32
  blocks : List Block
  releases : List Release

/-- `alloc` and `dealloc` are those of `GlobalAlloc`, `allocate` and
`deallocate` those of `Allocator`. -/
inductive Event where
  | tag (tag : UInt32)
  | poolType (poolType : Int32)
  | init (routine : CodePtr)
  | alloc (layout : Layout) (answer : Address)
  | allocate (layout : Layout) (answer : Address)
  | dealloc (address : Address)
  | deallocate (address : Address)
  deriving DecidableEq, Repr

namespace System

def new : System where
  allocator := SimpleAlloc.constNew
  tagInForce := defaultPoolTag
  blocks := []
  releases := []

def block (system : System) (address : Address) : Option Block :=
  system.blocks.find? fun block => block.address == address

/-- The kernel answers with null or with a block that is not in use. -/
def request (system : System) (layout : Layout) (answer : Address) :
    Option System :=
  if answer = nullPtr then some system
  else if (system.block answer).isSome then none
  else
    some
      { system with
        blocks :=
          ⟨answer, system.allocator.alloc layout, system.tagInForce⟩ ::
            system.blocks }

/-- Only blocks that the allocator gave out come back to it. -/
def release (system : System) (address : Address) : Option System :=
  (system.block address).map fun block =>
    { system with
      blocks := system.blocks.erase block
      releases := ⟨block, system.allocator.deallocTag⟩ :: system.releases }

end System

def step (system : System) : Event → Option System
  | .tag tag =>
      some
        { system with
          allocator := system.allocator.setTag tag
          tagInForce := tag }
  | .poolType poolType =>
      some { system with allocator := system.allocator.setPoolType poolType }
  | .init routine =>
      some { system with allocator := system.allocator.init routine }
  | .alloc layout answer => system.request layout answer
  | .allocate layout answer => system.request layout answer
  | .dealloc address => system.release address
  | .deallocate address => system.release address

/-! ## Tags -/

/-- Every block went back with the tag of the request that made it. -/
def TagsMatch (system : System) : Prop :=
  ∀ release ∈ system.releases, release.tag = release.block.call.tag

/-- A block is released while the tag is in force that was in force when it
was allocated. -/
def ReleasedInForce (system : System) (event : Event) : Prop :=
  match event with
  | .dealloc address | .deallocate address =>
      ∀ block, system.block address = some block →
        system.tagInForce = block.tagInForce
  | _ => True

/-- The tag changes only while no block is live. -/
def TagSettled (system : System) (event : Event) : Prop :=
  match event with
  | .tag tag => tag = system.tagInForce ∨ system.blocks = []
  | _ => True

/-- The allocator's tag is the one in force, and each block was asked for with
the tag that was in force then. -/
structure Tagged (system : System) : Prop where
  inForce : system.allocator.tag = system.tagInForce
  blocks : ∀ block ∈ system.blocks, block.call.tag = block.tagInForce

theorem tagged_new : Tagged System.new := by
  constructor
  · rfl
  · intro block member
    cases member

theorem System.mem_of_block
    {system : System} {address : Address} {block : Block}
    (found : system.block address = some block) :
    block ∈ system.blocks :=
  List.mem_of_find?_eq_some found

theorem System.request_cases
    {system next : System} {layout : Layout} {answer : Address}
    (requested : system.request layout answer = some next) :
    next = system ∨
      next =
        { system with
          blocks :=
            ⟨answer, system.allocator.alloc layout, system.tagInForce⟩ ::
              system.blocks } := by
  unfold request at requested
  split at requested
  · exact .inl (Option.some.inj requested).symm
  · split at requested
    · cases requested
    · exact .inr (Option.some.inj requested).symm

theorem System.release_cases
    {system next : System} {address : Address}
    (released : system.release address = some next) :
    ∃ block,
      system.block address = some block ∧
        next =
          { system with
            blocks := system.blocks.erase block
            releases :=
              ⟨block, system.allocator.deallocTag⟩ :: system.releases } := by
  obtain ⟨block, found, equal⟩ := Option.map_eq_some_iff.mp released
  exact ⟨block, found, equal.symm⟩

theorem Tagged.request
    {system next : System} {layout : Layout} {answer : Address}
    (tagged : Tagged system)
    (requested : system.request layout answer = some next) :
    Tagged next := by
  rcases System.request_cases requested with rfl | rfl
  · exact tagged
  · constructor
    · exact tagged.inForce
    · intro block member
      rcases List.mem_cons.mp member with rfl | member
      · simp [tagged.inForce]
      · exact tagged.blocks block member

theorem Tagged.release
    {system next : System} {address : Address}
    (tagged : Tagged system)
    (released : system.release address = some next) :
    Tagged next := by
  obtain ⟨block, found, rfl⟩ := System.release_cases released
  constructor
  · exact tagged.inForce
  · intro other member
    exact tagged.blocks other (List.mem_of_mem_erase member)

theorem tagged_step
    (system : System) (event : Event) (next : System)
    (tagged : Tagged system) (stepped : step system event = some next) :
    Tagged next := by
  cases event with
  | tag tag =>
      cases stepped
      exact ⟨rfl, tagged.blocks⟩
  | poolType poolType =>
      cases stepped
      exact ⟨tagged.inForce, tagged.blocks⟩
  | init routine =>
      cases stepped
      exact ⟨tagged.inForce, tagged.blocks⟩
  | alloc layout answer => exact tagged.request stepped
  | allocate layout answer => exact tagged.request stepped
  | dealloc address => exact tagged.release stepped
  | deallocate address => exact tagged.release stepped

theorem request_releases
    {system next : System} {layout : Layout} {answer : Address}
    (requested : system.request layout answer = some next) :
    next.releases = system.releases := by
  rcases System.request_cases requested with rfl | rfl <;> rfl

/-- One release with the tag in force. -/
theorem tagsMatch_release_iff
    {system next : System} {address : Address}
    (tagged : Tagged system) (matching : TagsMatch system)
    (released : system.release address = some next) :
    TagsMatch next ↔
      ∀ block, system.block address = some block →
        system.tagInForce = block.tagInForce := by
  obtain ⟨block, found, rfl⟩ := System.release_cases released
  have asked : block.call.tag = block.tagInForce :=
    tagged.blocks block (System.mem_of_block found)
  have used : system.allocator.deallocTag = system.tagInForce :=
    tagged.inForce
  constructor
  · intro matchingNext other same
    rw [found] at same
    cases same
    have latest := matchingNext _ List.mem_cons_self
    rwa [used, asked] at latest
  · intro inForce release member
    rcases List.mem_cons.mp member with rfl | member
    · rw [used, asked]
      exact inForce block found
    · exact matching release member

/-- What one step does to the tags of the releases. -/
theorem tagsMatch_step_iff
    {system next : System} {event : Event}
    (tagged : Tagged system) (matching : TagsMatch system)
    (stepped : step system event = some next) :
    TagsMatch next ↔ ReleasedInForce system event := by
  cases event with
  | tag tag =>
      cases stepped
      exact iff_of_true matching trivial
  | poolType poolType =>
      cases stepped
      exact iff_of_true matching trivial
  | init routine =>
      cases stepped
      exact iff_of_true matching trivial
  | alloc layout answer | allocate layout answer =>
      have kept := request_releases stepped
      refine iff_of_true ?_ trivial
      unfold TagsMatch
      rw [kept]
      exact matching
  | dealloc address | deallocate address =>
      exact tagsMatch_release_iff tagged matching stepped

/-! ## Runs -/

/-- All live blocks were allocated under the tag in force. -/
def Settled (system : System) : Prop :=
  ∀ block ∈ system.blocks, block.tagInForce = system.tagInForce

theorem settled_step
    (system : System) (event : Event) (next : System)
    (settled : Settled system) (guarded : TagSettled system event)
    (stepped : step system event = some next) :
    Settled next := by
  cases event with
  | tag tag =>
      cases stepped
      intro block member
      rcases guarded with same | empty
      · rw [same]
        exact settled block member
      · rw [empty] at member
        cases member
  | poolType poolType =>
      cases stepped
      exact settled
  | init routine =>
      cases stepped
      exact settled
  | alloc layout answer | allocate layout answer =>
      rcases System.request_cases stepped with rfl | rfl
      · exact settled
      · intro block member
        rcases List.mem_cons.mp member with rfl | member
        · rfl
        · exact settled block member
  | dealloc address | deallocate address =>
      obtain ⟨block, found, rfl⟩ := System.release_cases stepped
      intro other member
      exact settled other (List.mem_of_mem_erase member)

theorem Settled.releasedInForce
    {system : System} (settled : Settled system) (event : Event) :
    ReleasedInForce system event := by
  cases event with
  | dealloc address | deallocate address =>
      intro block found
      exact (settled block (System.mem_of_block found)).symm
  | tag | poolType | init | alloc | allocate => trivial

theorem settled_new : Settled System.new := by
  intro block member
  cases member

structure Proper (system : System) : Prop where
  tagged : Tagged system
  matching : TagsMatch system

theorem proper_new : Proper System.new := by
  refine ⟨tagged_new, ?_⟩
  intro release member
  cases member

theorem proper_step
    (system : System) (event : Event) (next : System)
    (proper : Proper system) (released : ReleasedInForce system event)
    (stepped : step system event = some next) :
    Proper next where
  tagged := tagged_step system event next proper.tagged stepped
  matching :=
    (tagsMatch_step_iff proper.tagged proper.matching stepped).mpr released

theorem proper_necessary
    (system : System) (event : Event) (next : System)
    (proper : Proper system) (stepped : step system event = some next)
    (matching : TagsMatch next) :
    ReleasedInForce system event :=
  (tagsMatch_step_iff proper.tagged proper.matching stepped).mp matching

/-- The tags match along exactly the runs that release each block under the
tag it was allocated under. It is enough that the tag changes only while no
block is live. -/
theorem tagsMatch_iff (events : List Event) :
    (Always step TagsMatch System.new events ↔
        Guarded step ReleasedInForce System.new events) ∧
      (Guarded step TagSettled System.new events →
        Always step TagsMatch System.new events) := by
  have exactly :
      Always step TagsMatch System.new events ↔
        Guarded step ReleasedInForce System.new events :=
    always_iff_guarded (fun _ proper => proper.matching) proper_step
      proper_necessary proper_new
  refine ⟨exactly, fun guarded => exactly.mpr ?_⟩
  exact
    everyStep_of_guarded settled_step
      (fun _ event _ settled _ _ => settled.releasedInForce event)
      settled_new guarded

/-- A block from before the driver sets its tag. -/
theorem retagged_release :
    ∃ system,
      run step System.new
          [.alloc ⟨16, 8⟩ 0x5000, .tag 0x31676174, .dealloc 0x5000] =
        some system ∧
      ¬TagsMatch system := by
  refine ⟨_, rfl, ?_⟩
  intro matching
  exact absurd (matching _ List.mem_cons_self) (by decide)

theorem settled_tag_released :
    Always step TagsMatch System.new
      [.tag 0x31676174, .init 0x9000, .alloc ⟨16, 8⟩ 0x5000,
        .dealloc 0x5000] := by
  apply (tagsMatch_iff _).2
  apply Guarded.cons rfl (.inr rfl)
  apply Guarded.cons rfl trivial
  apply Guarded.cons rfl trivial
  apply Guarded.cons rfl trivial
  trivial

end Pool

end WinDrvUtils

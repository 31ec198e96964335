import WinDrvUtils.Memory.Pool

/-!
# The class of memory

`SimpleAlloc` keeps the class of memory twice: as a `POOL_TYPE` for
`ExAllocatePoolWithTag` and as flags for `ExAllocatePool2`. Which of the two
goes to the kernel depends on the version of Windows. The flags come from the
type by a conversion that knows two types as non-paged and takes every other
one as paged.

Both kinds of call are read as a `PoolRequest`. `pathsAgree_iff` says for
which last argument of `pool_type` the two paths request the same.
-/

namespace WinDrvUtils

/-- What a call asks the pool for, in neither encoding. -/
structure PoolRequest where
  size : Nat
  tag : UInt32
  paged : Bool
  deriving DecidableEq, Repr

/-- A pool type is paged when its lowest bit is set. -/
def pagedPoolType (poolType : Int32) : Bool :=
  poolType &&& 1 != 0

/-- `POOL_FLAG_PAGED` -/
def pagedPoolFlags (flags : UInt64) : Bool :=
  flags &&& 0x100 != 0

def PoolCall.request : PoolCall → PoolRequest
  | .exAllocatePool2 flags size tag => ⟨size, tag, pagedPoolFlags flags⟩
  | .exAllocatePoolWithTag poolType size tag =>
      ⟨size, tag, pagedPoolType poolType⟩

/-- The calls that configure an allocator. -/
inductive Configuration where
  | tag (tag : UInt32)
  | poolType (poolType : Int32)
  deriving DecidableEq, Repr

/-- The ways to ask an allocator for memory: `alloc`, which both traits call,
and `alloc_with_tag`. -/
inductive Allocation where
  | alloc (layout : Layout)
  | allocWithTag (size : Nat) (tag : UInt32)
  deriving DecidableEq, Repr

def Configuration.poolType? : Configuration → Option Int32
  | .tag _ => none
  | .poolType value => some value

def Allocation.size : Allocation → Nat
  | .alloc layout => layout.size
  | .allocWithTag size _ => size

/-- The tag that an allocation goes by. -/
def Allocation.tag (allocation : Allocation) (allocator : SimpleAlloc) :
    UInt32 :=
  match allocation with
  | .alloc _ => allocator.tag
  | .allocWithTag _ given => given

/-- The argument of the last call of `pool_type`. -/
def lastPoolType (calls : List Configuration) : Option Int32 :=
  (calls.filterMap Configuration.poolType?).getLast?

namespace SimpleAlloc

def configure (allocator : SimpleAlloc) : Configuration → SimpleAlloc
  | .tag tag => allocator.setTag tag
  | .poolType poolType => allocator.setPoolType poolType

def configured (allocator : SimpleAlloc) (calls : List Configuration) :
    SimpleAlloc :=
  calls.foldl configure allocator

def ask (allocator : SimpleAlloc) : Allocation → PoolCall
  | .alloc layout => allocator.alloc layout
  | .allocWithTag size tag => allocator.allocWithTag size tag

/-- The allocator of a driver that calls `init` on a Windows whose address of
`ExAllocatePool2` is `routine`; null where there is no such routine. -/
def onWindows (routine : CodePtr) (before after : List Configuration) :
    SimpleAlloc :=
  ((constNew.configured before).init routine).configured after

/-! ## Configuration -/

/-- The flags are those of the pool type. -/
def Matched (allocator : SimpleAlloc) : Prop :=
  allocator.poolFlags = PoolFlags.fromPoolType allocator.poolType

theorem matched_constNew : constNew.Matched := rfl

theorem Matched.configure
    {allocator : SimpleAlloc} (matched : allocator.Matched)
    (call : Configuration) : (allocator.configure call).Matched := by
  cases call with
  | tag tag => exact matched
  | poolType poolType => rfl

theorem Matched.configured
    {allocator : SimpleAlloc} (matched : allocator.Matched)
    (calls : List Configuration) : (allocator.configured calls).Matched := by
  induction calls generalizing allocator with
  | nil => exact matched
  | cons call rest inductionHypothesis =>
      exact inductionHypothesis (matched.configure call)

theorem configured_append
    (allocator : SimpleAlloc) (before after : List Configuration) :
    allocator.configured (before ++ after) =
      (allocator.configured before).configured after :=
  List.foldl_append

/-- `init` commutes with the configuration. -/
theorem configured_init
    (allocator : SimpleAlloc) (routine : CodePtr)
    (calls : List Configuration) :
    (allocator.init routine).configured calls =
      (allocator.configured calls).init routine := by
  induction calls generalizing allocator with
  | nil => rfl
  | cons call rest inductionHypothesis =>
      have commutes :
          (allocator.init routine).configure call =
            (allocator.configure call).init routine := by
        cases call <;> rfl
      unfold configured at *
      rw [List.foldl_cons, List.foldl_cons, commutes]
      exact inductionHypothesis (allocator.configure call)

theorem onWindows_eq
    (routine : CodePtr) (before after : List Configuration) :
    onWindows routine before after =
      (constNew.configured (before ++ after)).init routine := by
  rw [onWindows, configured_init, configured_append]

theorem lastPoolType_cons
    (call : Configuration) (rest : List Configuration) :
    lastPoolType (call :: rest) =
      (lastPoolType rest).or call.poolType? := by
  cases call with
  | tag tag => simp [lastPoolType, Configuration.poolType?]
  | poolType poolType =>
      simp [lastPoolType, Configuration.poolType?, List.getLast?_cons]

theorem configured_poolType
    (allocator : SimpleAlloc) (calls : List Configuration) :
    (allocator.configured calls).poolType =
      (lastPoolType calls).getD allocator.poolType := by
  induction calls generalizing allocator with
  | nil => rfl
  | cons call rest inductionHypothesis =>
      have first :
          call.poolType?.getD allocator.poolType =
            (allocator.configure call).poolType := by
        cases call <;> rfl
      rw [lastPoolType_cons, Option.getD_or, first]
      exact inductionHypothesis (allocator.configure call)

/-! ## The two paths -/

theorem ask_fallback
    (allocator : SimpleAlloc) (missing : allocator.allocPool2 = none)
    (allocation : Allocation) :
    allocator.ask allocation =
      .exAllocatePoolWithTag allocator.poolType allocation.size
        (allocation.tag allocator) := by
  cases allocation <;>
    simp [ask, alloc, allocWithTag, missing, Allocation.size, Allocation.tag]

theorem ask_pool2
    (allocator : SimpleAlloc) {routine : CodePtr}
    (found : allocator.allocPool2 = some routine)
    (allocation : Allocation) :
    allocator.ask allocation =
      .exAllocatePool2 allocator.poolFlags.toU64 allocation.size
        (allocation.tag allocator) := by
  cases allocation <;>
    simp [ask, alloc, allocWithTag, found, Allocation.size, Allocation.tag]

@[simp]
theorem tag_init
    (allocation : Allocation) (allocator : SimpleAlloc) (routine : CodePtr) :
    allocation.tag (allocator.init routine) = allocation.tag allocator := by
  cases allocation <;> rfl

section Paths

variable (before after : List Configuration) (allocation : Allocation)

theorem onWindows_fallback :
    (onWindows nullPtr before after).ask allocation =
      .exAllocatePoolWithTag
        (constNew.configured (before ++ after)).poolType allocation.size
        (allocation.tag (constNew.configured (before ++ after))) := by
  have missing :
      ((constNew.configured (before ++ after)).init nullPtr).allocPool2 =
        none := rfl
  rw [onWindows_eq, ask_fallback _ missing, tag_init]
  rfl

theorem onWindows_pool2
    {routine : CodePtr} (available : routine ≠ nullPtr) :
    (onWindows routine before after).ask allocation =
      .exAllocatePool2
        (PoolFlags.fromPoolType
          (constNew.configured (before ++ after)).poolType).toU64
        allocation.size
        (allocation.tag (constNew.configured (before ++ after))) := by
  have found :
      ((constNew.configured (before ++ after)).init routine).allocPool2 =
        some routine := if_neg available
  have matched := matched_constNew.configured (before ++ after)
  rw [onWindows_eq, ask_pool2 _ found, tag_init, ← matched]
  rfl

end Paths

/-! ## Where the two paths agree -/

/-- The conversion takes every type but two for paged. -/
theorem pagedPoolFlags_fromPoolType (poolType : Int32) :
    pagedPoolFlags (PoolFlags.fromPoolType poolType).toU64 =
      !(poolType == nonPagedPool || poolType == nonPagedPoolNx) := by
  unfold PoolFlags.fromPoolType
  by_cases known : poolType = nonPagedPool ∨ poolType = nonPagedPoolNx
  · rw [if_pos known]
    rcases known with rfl | rfl <;> decide
  · rw [if_neg known]
    rw [not_or] at known
    rw [beq_false_of_ne known.1, beq_false_of_ne known.2]
    rfl

/-- A paged type, or one of the two that the conversion knows. -/
def Converted (poolType : Int32) : Prop :=
  pagedPoolType poolType = true ∨ poolType = nonPagedPool ∨
    poolType = nonPagedPoolNx

theorem paged_eq_iff (poolType : Int32) :
    pagedPoolType poolType =
        pagedPoolFlags (PoolFlags.fromPoolType poolType).toU64 ↔
      Converted poolType := by
  rw [pagedPoolFlags_fromPoolType, Converted]
  by_cases known : poolType = nonPagedPool ∨ poolType = nonPagedPoolNx
  · rcases known with rfl | rfl <;> decide
  · rw [not_or] at known
    rw [beq_false_of_ne known.1, beq_false_of_ne known.2]
    simp [known.1, known.2]

/-- For every sequence of calls of `tag` and `pool_type`, with `init` anywhere
in it, and every request: the path with and the path without
`ExAllocatePool2` ask for the same size and tag, and for the same class of
memory exactly when the last pool type is paged, or is `NonPagedPool` or
`NonPagedPoolNx`, or was never set. -/
theorem pathsAgree_iff
    (before after : List Configuration) (allocation : Allocation)
    {routine : CodePtr} (available : routine ≠ nullPtr) :
    let fallback :=
      ((onWindows nullPtr before after).ask allocation).request
    let pool2 := ((onWindows routine before after).ask allocation).request
    (fallback.size = pool2.size ∧ fallback.tag = pool2.tag) ∧
      (fallback = pool2 ↔
        ∀ poolType, lastPoolType (before ++ after) = some poolType →
          Converted poolType) := by
  rw [onWindows_fallback, onWindows_pool2 before after allocation available,
    configured_poolType]
  refine ⟨⟨rfl, rfl⟩, ?_⟩
  simp only [PoolCall.request, PoolRequest.mk.injEq, true_and, paged_eq_iff]
  cases lastPoolType (before ++ after) with
  | none =>
      refine iff_of_true (.inr (.inl rfl)) ?_
      intro poolType given
      cases given
  | some last => simp

/-- `NonPagedPoolCacheAligned` -/
theorem cacheAligned_differs :
    ((onWindows nullPtr [.poolType 4] []).ask (.alloc ⟨96, 8⟩)).request ≠
      ((onWindows 0xFFFFF80000003000 [.poolType 4] []).ask
        (.alloc ⟨96, 8⟩)).request := by
  decide

/-- `PagedPool` -/
theorem pagedPool_same :
    ((onWindows nullPtr [.tag 0x32676174] [.poolType 1]).ask
        (.allocWithTag 48 0x33676174)).request =
      ((onWindows 0xFFFFF80000003000 [.tag 0x32676174] [.poolType 1]).ask
        (.allocWithTag 48 0x33676174)).request := by
  have available : 0xFFFFF80000003000 ≠ nullPtr := by decide
  refine (pathsAgree_iff _ _ _ available).2.mpr ?_
  intro poolType given
  cases given
  exact .inl (by decide)

end SimpleAlloc

end WinDrvUtils

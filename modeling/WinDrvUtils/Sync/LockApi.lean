import WinDrvUtils.Nt
import WinDrvUtils.Library.RwLock
import WinDrvUtils.Library.StepSystem

/-!
# The `lock_api` wrappers

`lock_api` calls its raw locks through a shared reference, and the methods of
the four lock types want a mutable one. Each wrapper makes it with
`&self as *const _ as *mut Self`. Its local variable `self` is a reference
already, so `&self` is the address of that variable, in the frame of the call,
and not the address of the lock.

Every kernel primitive is taken to be a correct lock on the address that it
gets, so there is one `RwLock` for each address.
-/

namespace WinDrvUtils

namespace Sync

/-- The frame of a call: the address of its local variable `self`, and the
value of that variable. -/
structure Frame where
  slot : Address
  self : Address
  deriving DecidableEq, Repr

/-- `&self as *const _ as *mut Self` -/
def Frame.ptr (frame : Frame) : Address :=
  frame.slot

/-! ## Kernel primitives -/

/-- The primitives that the wrappers reach, each with the pointer that it
gets. -/
inductive KernelCall where
  | exAcquireFastMutex (mutex : Address)
  | exTryToAcquireFastMutex (mutex : Address)
  | exReleaseFastMutex (mutex : Address)
  | keAcquireGuardedMutex (mutex : Address)
  | keTryToAcquireGuardedMutex (mutex : Address)
  | keReleaseGuardedMutex (mutex : Address)
  | exAcquireResourceSharedLite (resource : Address) (wait : Bool)
  | exAcquireResourceExclusiveLite (resource : Address) (wait : Bool)
  | exReleaseResourceLite (resource : Address)
  | exAcquirePushLockSharedEx (pushLock : Address)
  | exAcquirePushLockExclusiveEx (pushLock : Address)
  | exReleasePushLockSharedEx (pushLock : Address)
  | exReleasePushLockExclusiveEx (pushLock : Address)
  deriving DecidableEq, Repr

/-- What a primitive does to its lock. A release that names a mode is of a
hold of that mode. -/
inductive KernelAction where
  | acquire (reentrant : Bool) (mode : LockMode) (wait : Bool)
  | release (mode : Option LockMode)
  deriving DecidableEq, Repr

namespace KernelCall

def address : KernelCall → Address
  | exAcquireFastMutex mutex => mutex
  | exTryToAcquireFastMutex mutex => mutex
  | exReleaseFastMutex mutex => mutex
  | keAcquireGuardedMutex mutex => mutex
  | keTryToAcquireGuardedMutex mutex => mutex
  | keReleaseGuardedMutex mutex => mutex
  | exAcquireResourceSharedLite resource _ => resource
  | exAcquireResourceExclusiveLite resource _ => resource
  | exReleaseResourceLite resource => resource
  | exAcquirePushLockSharedEx pushLock => pushLock
  | exAcquirePushLockExclusiveEx pushLock => pushLock
  | exReleasePushLockSharedEx pushLock => pushLock
  | exReleasePushLockExclusiveEx pushLock => pushLock

def action : KernelCall → KernelAction
  | exAcquireFastMutex _ => .acquire false .exclusive true
  | exTryToAcquireFastMutex _ => .acquire false .exclusive false
  | exReleaseFastMutex _ => .release none
  | keAcquireGuardedMutex _ => .acquire false .exclusive true
  | keTryToAcquireGuardedMutex _ => .acquire false .exclusive false
  | keReleaseGuardedMutex _ => .release none
  | exAcquireResourceSharedLite _ wait => .acquire true .shared wait
  | exAcquireResourceExclusiveLite _ wait => .acquire true .exclusive wait
  | exReleaseResourceLite _ => .release none
  | exAcquirePushLockSharedEx _ => .acquire false .shared true
  | exAcquirePushLockExclusiveEx _ => .acquire false .exclusive true
  | exReleasePushLockSharedEx _ => .release (some .shared)
  | exReleasePushLockExclusiveEx _ => .release (some .exclusive)

end KernelCall

/-! ## The lock types

`this` is the address of the value that a method gets. The kernel object is
the only field of a mutex and of a resource; `WduPushLock` has two fields, and
where they lie in it is the compiler's choice. -/

namespace WduFastMutex

def asMutPtr (this : Address) : Address := this

def acquire (this : Address) : KernelCall :=
  .exAcquireFastMutex (asMutPtr this)

def tryAcquire (this : Address) : KernelCall :=
  .exTryToAcquireFastMutex (asMutPtr this)

def release (this : Address) : KernelCall :=
  .exReleaseFastMutex (asMutPtr this)

def lock (frame : Frame) : KernelCall := acquire frame.ptr

def tryLock (frame : Frame) : KernelCall := tryAcquire frame.ptr

def unlock (frame : Frame) : KernelCall := release frame.ptr

end WduFastMutex

namespace WduGuardedMutex

def asMutPtr (this : Address) : Address := this

def acquire (this : Address) : KernelCall :=
  .keAcquireGuardedMutex (asMutPtr this)

def tryAcquire (this : Address) : KernelCall :=
  .keTryToAcquireGuardedMutex (asMutPtr this)

def release (this : Address) : KernelCall :=
  .keReleaseGuardedMutex (asMutPtr this)

def lock (frame : Frame) : KernelCall := acquire frame.ptr

def tryLock (frame : Frame) : KernelCall := tryAcquire frame.ptr

def unlock (frame : Frame) : KernelCall := release frame.ptr

end WduGuardedMutex

namespace WduEResource

def asMutPtr (this : Address) : Address := this

def acquiredShared (this : Address) (wait : Bool) : KernelCall :=
  .exAcquireResourceSharedLite (asMutPtr this) wait

def acquireExclusive (this : Address) (wait : Bool) : KernelCall :=
  .exAcquireResourceExclusiveLite (asMutPtr this) wait

def release (this : Address) : KernelCall :=
  .exReleaseResourceLite (asMutPtr this)

def lockShared (frame : Frame) : KernelCall := acquiredShared frame.ptr true

def tryLockShared (frame : Frame) : KernelCall :=
  acquiredShared frame.ptr false

def unlockShared (frame : Frame) : KernelCall := release frame.ptr

def lockExclusive (frame : Frame) : KernelCall :=
  acquireExclusive frame.ptr true

def tryLockExclusive (frame : Frame) : KernelCall :=
  acquireExclusive frame.ptr false

def unlockExclusive (frame : Frame) : KernelCall := release frame.ptr

end WduEResource

inductive PushLockAccess where
  | none
  | exclusive
  | shared
  deriving DecidableEq, Repr

namespace WduPushLock

variable (offset : Nat)

def asMutPtr (this : Address) : Address := this + offset

/-- The kernel call, and the `access` that is stored through the pointer once
it returns. -/
def acquiredShared (this : Address) : KernelCall × PushLockAccess :=
  (.exAcquirePushLockSharedEx (asMutPtr offset this), .shared)

def acquireExclusive (this : Address) : KernelCall × PushLockAccess :=
  (.exAcquirePushLockExclusiveEx (asMutPtr offset this), .exclusive)

/-- `access` is what `self.access` reads through the pointer. -/
def release (this : Address) (access : PushLockAccess) : Option KernelCall :=
  match access with
  | .shared => some (.exReleasePushLockSharedEx (asMutPtr offset this))
  | .exclusive => some (.exReleasePushLockExclusiveEx (asMutPtr offset this))
  | .none => none

def lockShared (frame : Frame) : KernelCall × PushLockAccess :=
  acquiredShared offset frame.ptr

def lockExclusive (frame : Frame) : KernelCall × PushLockAccess :=
  acquireExclusive offset frame.ptr

def unlock (frame : Frame) (access : PushLockAccess) : Option KernelCall :=
  release offset frame.ptr access

end WduPushLock

/-! ## The raw locks -/

inductive LockKind where
  | fastMutex
  | guardedMutex
  | eResource
  | pushLock
  deriving DecidableEq, Repr

inductive Method where
  | lock
  | tryLock
  | unlock
  | lockShared
  | tryLockShared
  | unlockShared
  | lockExclusive
  | tryLockExclusive
  | unlockExclusive
  deriving DecidableEq, Repr

inductive Promise where
  | hold (mode : LockMode)
  | unhold (mode : LockMode)
  deriving DecidableEq, Repr

def Method.promise : Method → Promise
  | .lock => .hold .exclusive
  | .tryLock => .hold .exclusive
  | .unlock => .unhold .exclusive
  | .lockShared => .hold .shared
  | .tryLockShared => .hold .shared
  | .unlockShared => .unhold .shared
  | .lockExclusive => .hold .exclusive
  | .tryLockExclusive => .hold .exclusive
  | .unlockExclusive => .unhold .exclusive

/-- What a raw lock does: the kernel call that it makes, if any, and the
`access` that it stores. -/
structure Effect where
  call : Option KernelCall
  access : Option PushLockAccess := none
  deriving DecidableEq, Repr

/-- `RawMutex for WduFastMutex` -/
def fastMutex (frame : Frame) : Method → Option Effect
  | .lock => some { call := WduFastMutex.lock frame }
  | .tryLock => some { call := WduFastMutex.tryLock frame }
  | .unlock => some { call := WduFastMutex.unlock frame }
  | _ => none

/-- `RawMutex for WduGuardedMutex` -/
def guardedMutex (frame : Frame) : Method → Option Effect
  | .lock => some { call := WduGuardedMutex.lock frame }
  | .tryLock => some { call := WduGuardedMutex.tryLock frame }
  | .unlock => some { call := WduGuardedMutex.unlock frame }
  | _ => none

/-- `RawRwLock for WduEResource` -/
def eResource (frame : Frame) : Method → Option Effect
  | .lockShared => some { call := WduEResource.lockShared frame }
  | .tryLockShared => some { call := WduEResource.tryLockShared frame }
  | .unlockShared => some { call := WduEResource.unlockShared frame }
  | .lockExclusive => some { call := WduEResource.lockExclusive frame }
  | .tryLockExclusive => some { call := WduEResource.tryLockExclusive frame }
  | .unlockExclusive => some { call := WduEResource.unlockExclusive frame }
  | _ => none

/-- `RawRwLock for WduPushLock`. The two `try` methods are
`unimplemented!()`. -/
def pushLock (offset : Nat) (frame : Frame) (access : PushLockAccess) :
    Method → Except Panic (Option Effect)
  | .lockShared =>
      let (call, stored) := WduPushLock.lockShared offset frame
      .ok (some { call := call, access := some stored })
  | .tryLockShared => .error .unimplemented
  | .unlockShared =>
      .ok (some { call := WduPushLock.unlock offset frame access })
  | .lockExclusive =>
      let (call, stored) := WduPushLock.lockExclusive offset frame
      .ok (some { call := call, access := some stored })
  | .tryLockExclusive => .error .unimplemented
  | .unlockExclusive =>
      .ok (some { call := WduPushLock.unlock offset frame access })
  | _ => .ok none

end Sync

end WinDrvUtils

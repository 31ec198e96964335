import WinDrvUtils.Nt
import WinDrvUtils.Library.Ledger

/-!
# Callback objects

`WduCallbackObject` registers one routine with a kernel callback object. The
handle starts null and is written by a successful `register` only;
`unregister` clears `cb` and keeps the handle. `Drop` calls `unregister`.
-/

namespace WinDrvUtils

/-- `object` is the kernel's callback object, `ctx` the driver's context. -/
structure WduCallbackObject where
  object : Address
  handle : Address
  ctx : Address
  cb : Option CodePtr
  deriving DecidableEq, Repr

/-- `ExRegisterCallback` answers with a handle or with null. -/
def exRegisterCallback (answer : Address) (kernel : Ledger Address) :
    Ledger Address :=
  if answer = nullPtr then kernel else kernel.issue answer

def exUnregisterCallback (handle : Address) (kernel : Ledger Address) :
    Ledger Address :=
  kernel.release handle

namespace WduCallbackObject

def new (object ctx : Address) : WduCallbackObject where
  object := object
  handle := nullPtr
  ctx := ctx
  cb := none

def register (callback : WduCallbackObject) (cb : CodePtr) (answer : Address)
    (kernel : Ledger Address) :
    WduCallbackResult Unit × WduCallbackObject × Ledger Address :=
  let kernel := exRegisterCallback answer kernel
  if answer = nullPtr then
    (.error (.registerError statusUnsuccessful), callback, kernel)
  else
    (.ok (), { callback with cb := some cb, handle := answer }, kernel)

def unregister (callback : WduCallbackObject) (kernel : Ledger Address) :
    WduCallbackObject × Ledger Address :=
  ({ callback with cb := none },
    exUnregisterCallback callback.handle kernel)

/-- `Drop`; what is left of the wrapper is never looked at again. -/
def drop (callback : WduCallbackObject) (kernel : Ledger Address) :
    WduCallbackObject × Ledger Address :=
  callback.unregister kernel

end WduCallbackObject

end WinDrvUtils

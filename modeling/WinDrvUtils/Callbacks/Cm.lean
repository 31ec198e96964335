import WinDrvUtils.Nt
import WinDrvUtils.Library.Ledger

/-!
# Registry callbacks

`WduCmCallback` keeps the cookie that `CmRegisterCallbackEx` wrote. The cookie
starts as zero, and `unregister` leaves it as it is.
-/

namespace WinDrvUtils

/-- `cookie` is an `i64`; the altitude is kept as its code units. -/
structure WduCmCallback where
  cookie : Int64
  altitude : List UInt16
  deriving DecidableEq, Repr

structure CmAnswer where
  status : NTSTATUS
  cookie : Int64
  deriving DecidableEq, Repr

/-- `CmRegisterCallbackEx` writes the cookie in place when it accepts. -/
def cmRegisterCallbackEx (answer : CmAnswer) (cookie : Int64)
    (kernel : Ledger Int64) : Int64 × Ledger Int64 :=
  if ntSuccess answer.status then
    (answer.cookie, kernel.issue answer.cookie)
  else
    (cookie, kernel)

/-- The kernel may refuse to unregister a live cookie. A cookie that is not
live is an error of the caller whatever the status. -/
def cmUnRegisterCallback (cookie : Int64) (status : NTSTATUS)
    (kernel : Ledger Int64) : Ledger Int64 :=
  if cookie ∈ kernel.live ∧ ¬ ntSuccess status then kernel
  else kernel.release cookie

namespace WduCmCallback

def default : WduCmCallback := ⟨0, []⟩

/-- The setter `altitude`. -/
def setAltitude (callback : WduCmCallback) (altitude : List UInt16) :
    WduCmCallback :=
  { callback with altitude := altitude }

def register (callback : WduCmCallback) (answer : CmAnswer)
    (kernel : Ledger Int64) :
    WduCallbackResult Unit × WduCmCallback × Ledger Int64 :=
  let (cookie, kernel) := cmRegisterCallbackEx answer callback.cookie kernel
  let callback := { callback with cookie := cookie }
  if answer.status ≠ statusSuccess then
    (.error (.registerError answer.status), callback, kernel)
  else
    (.ok (), callback, kernel)

/-- What is left behind depends on the kernel's answer alone. -/
theorem register_state
    (callback : WduCmCallback) (answer : CmAnswer) (kernel : Ledger Int64) :
    (callback.register answer kernel).2 =
      if ntSuccess answer.status then
        ({ callback with cookie := answer.cookie },
          kernel.issue answer.cookie)
      else (callback, kernel) := by
  by_cases accepted : ntSuccess answer.status
  · simp only [register, cmRegisterCallbackEx, if_pos accepted]
    split <;> rfl
  · simp only [register, cmRegisterCallbackEx, if_neg accepted]
    split <;> rfl

def unregister (callback : WduCmCallback) (status : NTSTATUS)
    (kernel : Ledger Int64) :
    WduCallbackResult Unit × WduCmCallback × Ledger Int64 :=
  let kernel := cmUnRegisterCallback callback.cookie status kernel
  if status ≠ statusSuccess then
    (.error (.ntStatus status), callback, kernel)
  else
    (.ok (), callback, kernel)

theorem unregister_state
    (callback : WduCmCallback) (status : NTSTATUS) (kernel : Ledger Int64) :
    (callback.unregister status kernel).2 =
      (callback, cmUnRegisterCallback callback.cookie status kernel) := by
  unfold unregister
  split <;> rfl

end WduCmCallback

end WinDrvUtils

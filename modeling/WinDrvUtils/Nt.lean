import Mathlib.Logic.Function.Basic

/-!
# Kernel vocabulary

The status codes, the pointers, the panics and the errors of callbacks that
the rest of the model speaks about. An `NTSTATUS` is a signed 32-bit value;
the kernel has done what it was asked to do when the value is not negative
(`NT_SUCCESS`), while the crate compares with `STATUS_SUCCESS` throughout.
-/

namespace WinDrvUtils

abbrev NTSTATUS := Int32

/-- An address. The null pointer is `0`. -/
abbrev Address := Nat

abbrev CodePtr := Nat

def nullPtr : Address := 0

def statusSuccess : NTSTATUS := 0

def statusPending : NTSTATUS := 0x103

def statusSomeNotMapped : NTSTATUS := 0x107

/-- `0xC0000001` -/
def statusUnsuccessful : NTSTATUS := -0x3FFFFFFF

/-- `0xC000000D` -/
def statusInvalidParameter : NTSTATUS := -0x3FFFFFF3

/-- `0xC0000017` -/
def statusNoMemory : NTSTATUS := -0x3FFFFFE9

/-- `0xC00000E5` -/
def statusInternalError : NTSTATUS := -0x3FFFFF1B

/-- `NT_SUCCESS`: the kernel carried the request out. -/
def ntSuccess (status : NTSTATUS) : Prop :=
  0 ≤ status

instance (status : NTSTATUS) : Decidable (ntSuccess status) :=
  inferInstanceAs (Decidable (0 ≤ status))

@[simp]
theorem ntSuccess_statusSuccess : ntSuccess statusSuccess := by
  decide

/-- The request was carried out and reported with the one code that the crate
takes for success. A status that is a success for the kernel only
(`STATUS_SOME_NOT_MAPPED` is one) is not plain. -/
def PlainStatus (status : NTSTATUS) : Prop :=
  ntSuccess status → status = statusSuccess

theorem ne_statusSuccess_of_refused
    {status : NTSTATUS} (refused : ¬ ntSuccess status) :
    status ≠ statusSuccess := by
  rintro rfl
  exact refused ntSuccess_statusSuccess

theorem not_plainStatus
    {status : NTSTATUS} (accepted : ntSuccess status)
    (other : status ≠ statusSuccess) :
    ¬ PlainStatus status :=
  fun plain => other (plain accepted)

/-- The ways in which a function of the crate can fail to return. -/
inductive Panic where
  | todo
  | unimplemented
  | unreachable (message : String)
  | assertion (condition : String)
  | explicit (message : String)
  | allocError
  deriving DecidableEq, Repr

/-- What every callback wrapper of the crate returns when it fails. -/
inductive WduCallbackError where
  | insufficientResources
  | notRegistered
  | registerError (status : NTSTATUS)
  | unregisterError (status : NTSTATUS)
  | ntStatus (status : NTSTATUS)
  | createError (status : NTSTATUS)
  | openError (status : NTSTATUS)
  deriving DecidableEq, Repr

abbrev WduCallbackResult (α : Type) := Except WduCallbackError α

end WinDrvUtils

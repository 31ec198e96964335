import WinDrvUtils.Nt
import WinDrvUtils.Library.Ledger

/-!
# Object callbacks

`WduObCallback` collects operation registrations and hands them to
`ObRegisterCallbacks` in one call. The kernel answers with a status and, when
it accepts, with a handle that it writes into the `handle` field in place; the
handle is null as long as nothing has been registered and again after
`unregister`.
-/

namespace WinDrvUtils

inductive ObjectType where
  | unknown
  | process
  | thread
  | desktop
  deriving DecidableEq, Repr

inductive NtObjectType where
  | psProcessType
  | psThreadType
  | exDesktopObjectType
  deriving DecidableEq, Repr

/-- `Into<*const POBJECT_TYPE>`. -/
def ObjectType.intoNative : ObjectType → Except Panic NtObjectType
  | .process => .ok .psProcessType
  | .thread => .ok .psThreadType
  | .desktop => .ok .exDesktopObjectType
  | .unknown => .error (.unreachable "")

/-- The two library routines that a native entry can point to. -/
inductive ObTrampoline where
  | preOpInternal
  | postOpInternal
  deriving DecidableEq, Repr

structure ObOperationRegistration where
  objectType : NtObjectType
  operations : UInt32
  preOperation : Option ObTrampoline
  postOperation : Option ObTrampoline
  deriving DecidableEq, Repr

/-- `context` points to the registration's own data, null when there is
none. -/
structure WduObOpRegistration where
  obType : ObjectType
  operations : UInt32
  pre : Option CodePtr
  post : Option CodePtr
  context : Address
  deriving DecidableEq, Repr

namespace WduObOpRegistration

def default : WduObOpRegistration where
  obType := .unknown
  operations := 0
  pre := none
  post := none
  context := nullPtr

def intoNative (registration : WduObOpRegistration) :
    Except Panic ObOperationRegistration :=
  match registration.obType.intoNative with
  | .error panic => .error panic
  | .ok objectType =>
      .ok
        { objectType := objectType
          operations := registration.operations
          preOperation :=
            if registration.pre.isSome then some .preOpInternal else none
          postOperation :=
            if registration.post.isSome then some .postOpInternal else none }

end WduObOpRegistration

/-- `OB_CALLBACK_REGISTRATION`; `registrationContext` is the address of the
wrapper. -/
structure ObCallbackRegistration where
  version : UInt16
  operationRegistrationCount : UInt16
  altitude : List UInt16
  registrationContext : Address
  operationRegistration : List ObOperationRegistration
  deriving DecidableEq, Repr

def obFltRegistrationVersion : UInt16 := 0x0100

/-- The kernel's side: the handles it issued, and the registration behind each
live handle. -/
structure ObKernel where
  handles : Ledger Address
  registrations : List (Address × ObCallbackRegistration)

/-- What the environment decides during one `register`: whether the vector can
be reserved, and the kernel's answer. -/
structure ObAnswer where
  reserved : Bool
  status : NTSTATUS
  handle : Address
  deriving DecidableEq, Repr

structure WduObCallback where
  /-- Where the wrapper lies; it is the context that the kernel gets. -/
  address : Address
  handle : Address
  operations : List WduObOpRegistration
  deriving DecidableEq, Repr

/-- `ObRegisterCallbacks` writes the handle only when it accepts. -/
def obRegisterCallbacks (registration : ObCallbackRegistration)
    (answer : ObAnswer) (handle : Address) (kernel : ObKernel) :
    Address × ObKernel :=
  if ntSuccess answer.status then
    (answer.handle,
      { handles := kernel.handles.issue answer.handle
        registrations :=
          (answer.handle, registration) :: kernel.registrations })
  else
    (handle, kernel)

def obUnRegisterCallbacks (handle : Address) (kernel : ObKernel) :
    ObKernel where
  handles := kernel.handles.release handle
  registrations := kernel.registrations.filter fun entry => entry.1 != handle

namespace WduObCallback

def constNew (address : Address) : WduObCallback where
  address := address
  handle := nullPtr
  operations := []

def pushOpRegistration (callback : WduObCallback)
    (registration : WduObOpRegistration) : WduObCallback :=
  { callback with operations := callback.operations ++ [registration] }

/-- The structure that `register` builds; the count is cast to `u16`. -/
def nativeRegistration (callback : WduObCallback) (altitude : List UInt16) :
    Except Panic ObCallbackRegistration :=
  match callback.operations.mapM WduObOpRegistration.intoNative with
  | .error panic => .error panic
  | .ok operations =>
      .ok
        { version := obFltRegistrationVersion
          operationRegistrationCount :=
            UInt16.ofNat callback.operations.length
          altitude := altitude
          registrationContext := callback.address
          operationRegistration := operations }

def register (callback : WduObCallback) (altitude : List UInt16)
    (answer : ObAnswer) (kernel : ObKernel) :
    Except Panic (WduCallbackResult Unit × WduObCallback × ObKernel) :=
  if callback.operations.isEmpty then
    .ok (.error (.ntStatus statusInvalidParameter), callback, kernel)
  else if answer.reserved = false then
    .ok (.error .insufficientResources, callback, kernel)
  else
    match callback.nativeRegistration altitude with
    | .error panic => .error panic
    | .ok registration =>
        let (handle, kernel) :=
          obRegisterCallbacks registration answer callback.handle kernel
        let callback := { callback with handle := handle }
        if answer.status ≠ statusSuccess then
          .ok (.error (.registerError answer.status), callback, kernel)
        else
          .ok (.ok (), callback, kernel)

def unregister (callback : WduObCallback) (kernel : ObKernel) :
    WduCallbackResult Unit × WduObCallback × ObKernel :=
  if callback.handle = nullPtr then
    (.error (.unregisterError statusInternalError), callback, kernel)
  else
    (.ok (), { callback with handle := nullPtr },
      obUnRegisterCallbacks callback.handle kernel)

/-- All that `register` does when it returns: nothing, or the kernel has
accepted. -/
theorem register_effect
    {callback after : WduObCallback} {altitude : List UInt16}
    {answer : ObAnswer} {kernel kernelAfter : ObKernel}
    {result : WduCallbackResult Unit}
    (returned :
      callback.register altitude answer kernel =
        .ok (result, after, kernelAfter)) :
    (after = callback ∧ kernelAfter = kernel ∧
        (∃ error, result = .error error) ∧
        ¬ (callback.operations ≠ [] ∧ answer.reserved = true ∧
          ntSuccess answer.status)) ∨
      ∃ registration,
        callback.nativeRegistration altitude = .ok registration ∧
          (callback.operations ≠ [] ∧ answer.reserved = true ∧
            ntSuccess answer.status) ∧
          after = { callback with handle := answer.handle } ∧
          kernelAfter =
            ⟨kernel.handles.issue answer.handle,
              (answer.handle, registration) :: kernel.registrations⟩ ∧
          result =
            if answer.status = statusSuccess then .ok ()
            else .error (.registerError answer.status) := by
  unfold register at returned
  by_cases empty : callback.operations = []
  · rw [if_pos (List.isEmpty_iff.mpr empty)] at returned
    cases returned
    exact Or.inl ⟨rfl, rfl, ⟨_, rfl⟩, fun reached => reached.1 empty⟩
  · rw [if_neg (mt List.isEmpty_iff.mp empty)] at returned
    by_cases reserved : answer.reserved = true
    · rw [if_neg (by simp [reserved])] at returned
      cases native : callback.nativeRegistration altitude with
      | error panic =>
          rw [native] at returned
          cases returned
      | ok registration =>
          rw [native] at returned
          by_cases accepted : ntSuccess answer.status
          · right
            refine
              ⟨registration, rfl, ⟨empty, reserved, accepted⟩, ?_⟩
            simp only [obRegisterCallbacks, if_pos accepted] at returned
            by_cases plain : answer.status = statusSuccess
            · rw [if_neg (not_not.mpr plain)] at returned
              cases returned
              exact ⟨rfl, rfl, (if_pos plain).symm⟩
            · rw [if_pos plain] at returned
              cases returned
              exact ⟨rfl, rfl, (if_neg plain).symm⟩
          · left
            have failed := ne_statusSuccess_of_refused accepted
            simp only [obRegisterCallbacks, if_neg accepted] at returned
            rw [if_pos failed] at returned
            cases returned
            exact
              ⟨rfl, rfl, ⟨_, rfl⟩, fun reached => accepted reached.2.2⟩
    · rw [if_pos (Bool.eq_false_iff.mpr reserved)] at returned
      cases returned
      exact
        Or.inl ⟨rfl, rfl, ⟨_, rfl⟩, fun reached => reserved reached.2.1⟩

end WduObCallback

end WinDrvUtils

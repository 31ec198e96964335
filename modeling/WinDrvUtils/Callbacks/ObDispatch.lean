import Mathlib.Data.List.Forall2
import WinDrvUtils.Callbacks.Ob

/-!
# Dispatch of object callbacks

`register` makes one native entry of each registration, and all entries have
the same two routines of the library. When an operation comes, the kernel
invokes the routine of each entry that matches, and the routine looks for
matching registrations again, in the whole list. So a callback runs once for
each matching entry, and not once.

The kernel only knows of as many entries as `OperationRegistrationCount` says,
and the length of the list is cast to `u16` for it.
-/

namespace WinDrvUtils

def obOperationHandleCreate : UInt32 := 1

def obOperationHandleDuplicate : UInt32 := 2

inductive ObOperation where
  | handleCreate
  | handleDuplicate
  deriving DecidableEq, Repr

def ObOperation.code : ObOperation → UInt32
  | .handleCreate => obOperationHandleCreate
  | .handleDuplicate => obOperationHandleDuplicate

/-- What both information structures tell about an operation. `objectType` is
none of an object of another type. -/
structure ObOperationInformation where
  operation : UInt32
  objectType : Option NtObjectType
  deriving DecidableEq, Repr

structure ObPreOperationInformation extends ObOperationInformation where
  callContext : Address
  deriving DecidableEq, Repr

structure ObPostOperationInformation extends ObOperationInformation where
  callContext : Address
  deriving DecidableEq, Repr

/-- `object_type` of `ObPreOpInfo` and of `ObPostOpInfo`. -/
def ObOperationInformation.obType (info : ObOperationInformation) :
    ObjectType :=
  match info.objectType with
  | some .psProcessType => .process
  | some .psThreadType => .thread
  | some .exDesktopObjectType => .desktop
  | none => .unknown

/-- A call of a registration's own callback. -/
structure ObCall where
  callback : CodePtr
  context : Option Address
  deriving DecidableEq, Repr

namespace WduObOpRegistration

def matchesType (registration : WduObOpRegistration)
    (info : ObOperationInformation) : Bool :=
  registration.obType == info.obType &&
    registration.operations &&& info.operation == info.operation

/-- The callback with the registration's own context. -/
def call (registration : WduObOpRegistration) (callback : CodePtr) :
    ObCall where
  callback := callback
  context :=
    if registration.context = nullPtr then none
    else some registration.context

/-- The callback that a routine of the library looks for. -/
def own (registration : WduObOpRegistration) :
    ObTrampoline → Option CodePtr
  | .preOpInternal => registration.pre
  | .postOpInternal => registration.post

def selected (kind : ObTrampoline) (info : ObOperationInformation)
    (registration : WduObOpRegistration) : Bool :=
  registration.matchesType info && (registration.own kind).isSome

/-- The call that a registration gets, if it is selected. -/
def selectedCall (kind : ObTrampoline) (info : ObOperationInformation)
    (registration : WduObOpRegistration) : Option ObCall :=
  if registration.matchesType info then
    (registration.own kind).map registration.call
  else none

end WduObOpRegistration

namespace WduObCallback

/-- The calls that a routine makes, in order. -/
def opInternal (kind : ObTrampoline) (callback : WduObCallback)
    (info : ObOperationInformation) : List ObCall :=
  callback.operations.filterMap (WduObOpRegistration.selectedCall kind info)

def preOpInternal := opInternal .preOpInternal

def postOpInternal := opInternal .postOpInternal

end WduObCallback

def ObTrampoline.run : ObTrampoline → WduObCallback →
    ObOperationInformation → List ObCall
  | .preOpInternal => WduObCallback.preOpInternal
  | .postOpInternal => WduObCallback.postOpInternal

/-! ## The kernel -/

namespace ObOperationRegistration

def routine (entry : ObOperationRegistration) :
    ObTrampoline → Option ObTrampoline
  | .preOpInternal => entry.preOperation
  | .postOpInternal => entry.postOperation

def matchesType (entry : ObOperationRegistration)
    (info : ObOperationInformation) : Bool :=
  some entry.objectType == info.objectType &&
    entry.operations &&& info.operation != 0

/-- The calls behind one entry. `context` leads to the wrapper. -/
def invoke (kind : ObTrampoline) (info : ObOperationInformation)
    (context : WduObCallback) (entry : ObOperationRegistration) :
    List ObCall :=
  if entry.matchesType info then
    match entry.routine kind with
    | some trampoline => trampoline.run context info
    | none => []
  else []

end ObOperationRegistration

/-- The kernel invokes the routine of each entry that it was told of, with
the registration's context. `memory` has the wrappers. -/
def ObCallbackRegistration.invoke (kind : ObTrampoline)
    (info : ObOperationInformation) (memory : Address → WduObCallback)
    (registration : ObCallbackRegistration) : List ObCall :=
  (registration.operationRegistration.take
    registration.operationRegistrationCount.toNat).flatMap
      (ObOperationRegistration.invoke kind info
        (memory registration.registrationContext))

/-- The calls that an operation causes through the registration of
`callback`, which lies where it lay when it registered. -/
def ObKernel.deliver (kernel : ObKernel) (kind : ObTrampoline)
    (info : ObOperationInformation) (memory : Address → WduObCallback)
    (callback : WduObCallback) : List ObCall :=
  match kernel.registrations.lookup callback.handle with
  | none => []
  | some registration =>
      registration.invoke kind info
        (Function.update memory callback.address callback)

/-! ## One entry for each registration -/

/-- A mask has the one bit of an operation or not. -/
theorem land_obOperation (operations : UInt32) (operation : ObOperation) :
    operations &&& operation.code = operation.code ∨
      operations &&& operation.code = 0 := by
  simp only [← UInt32.toNat_inj, UInt32.toNat_and]
  cases operation with
  | handleCreate =>
      have bit := Nat.mod_two_eq_zero_or_one operations.toNat
      simp only [ObOperation.code, obOperationHandleCreate,
        UInt32.reduceToNat, Nat.and_one_is_mod]
      omega
  | handleDuplicate =>
      have small : operations.toNat &&& 2 ≤ 2 := Nat.and_le_right
      have even : (operations.toNat &&& 2) % 2 ^ 1 = 0 := by
        rw [Nat.and_mod_two_pow]
        exact Nat.and_zero _
      simp only [ObOperation.code, obOperationHandleDuplicate,
        UInt32.reduceToNat]
      omega

theorem ObOperation.code_ne_zero (operation : ObOperation) :
    operation.code ≠ 0 := by
  cases operation <;> decide

/-- The kernel's test of a mask and the library's are the same. -/
theorem mask_ne_zero_iff (operations : UInt32) (operation : ObOperation) :
    operations &&& operation.code ≠ 0 ↔
      operations &&& operation.code = operation.code := by
  constructor
  · intro notZero
    exact (land_obOperation operations operation).resolve_right notZero
  · intro same zero
    exact operation.code_ne_zero (same.symm.trans zero)

section Entries

variable {registration : WduObOpRegistration}
    {entry : ObOperationRegistration} (kind : ObTrampoline)
    (operation : ObOperation) (objectType : Option NtObjectType)

/-- All that `into_native` does when it returns. -/
theorem intoNative_ok
    (native : registration.intoNative = .ok entry) :
    ∃ objectType, registration.obType.intoNative = .ok objectType ∧
      entry =
        { objectType := objectType
          operations := registration.operations
          preOperation :=
            if registration.pre.isSome then some .preOpInternal else none
          postOperation :=
            if registration.post.isSome then some .postOpInternal
            else none } := by
  unfold WduObOpRegistration.intoNative at native
  cases made : registration.obType.intoNative with
  | error panic =>
      rw [made] at native
      cases native
  | ok objectType =>
      rw [made] at native
      exact ⟨objectType, rfl, (Except.ok.inj native).symm⟩

theorem obType_of_intoNative
    (native : registration.intoNative = .ok entry) :
    registration.obType =
      (⟨operation.code, some entry.objectType⟩ :
        ObOperationInformation).obType := by
  obtain ⟨objectType, made, rfl⟩ := intoNative_ok native
  cases same : registration.obType with
  | unknown =>
      rw [same] at made
      cases made
  | process | thread | desktop =>
      rw [same] at made
      cases made
      rfl

theorem operations_of_intoNative
    (native : registration.intoNative = .ok entry) :
    entry.operations = registration.operations := by
  obtain ⟨objectType, _, rfl⟩ := intoNative_ok native
  rfl

theorem routine_of_intoNative
    (native : registration.intoNative = .ok entry) :
    entry.routine kind =
      if (registration.own kind).isSome then some kind else none := by
  obtain ⟨objectType, _, rfl⟩ := intoNative_ok native
  cases kind <;> rfl

theorem obType_injective
    {code : UInt32} {first : NtObjectType} {second : Option NtObjectType}
    (same :
      (⟨code, some first⟩ : ObOperationInformation).obType =
        (⟨code, second⟩ : ObOperationInformation).obType) :
    some first = second := by
  cases first <;> rcases second with _ | second <;> try cases second
  all_goals first | rfl | cases same

/-- The entry of a registration matches when the registration does. -/
theorem matchesType_of_intoNative
    (native : registration.intoNative = .ok entry) :
    entry.matchesType ⟨operation.code, objectType⟩ =
      registration.matchesType ⟨operation.code, objectType⟩ := by
  unfold ObOperationRegistration.matchesType
    WduObOpRegistration.matchesType
  rw [operations_of_intoNative native,
    obType_of_intoNative operation native]
  congr 1
  · rw [Bool.eq_iff_iff, beq_iff_eq, beq_iff_eq]
    constructor
    · intro same
      cases same
      rfl
    · exact obType_injective
  · rw [Bool.eq_iff_iff, bne_iff_ne, beq_iff_eq]
    exact mask_ne_zero_iff _ _

/-- Behind the entry of a registration is the whole list. -/
theorem invoke_of_intoNative
    (native : registration.intoNative = .ok entry)
    (context : WduObCallback) :
    ObOperationRegistration.invoke kind ⟨operation.code, objectType⟩ context
        entry =
      if registration.selected kind ⟨operation.code, objectType⟩ then
        context.opInternal kind ⟨operation.code, objectType⟩
      else [] := by
  unfold ObOperationRegistration.invoke WduObOpRegistration.selected
  rw [matchesType_of_intoNative operation objectType native,
    routine_of_intoNative kind native]
  cases registration.matchesType ⟨operation.code, objectType⟩ with
  | false => rfl
  | true =>
      cases (registration.own kind).isSome with
      | false => rfl
      | true => cases kind <;> rfl

end Entries

/-! ## Exactly once -/

theorem mapM_ok_forall₂
    {registrations : List WduObOpRegistration}
    {entries : List ObOperationRegistration}
    (native :
      registrations.mapM WduObOpRegistration.intoNative = .ok entries) :
    List.Forall₂ (fun registration entry =>
      registration.intoNative = .ok entry) registrations entries := by
  induction registrations generalizing entries with
  | nil =>
      cases native
      exact .nil
  | cons first rest inductionHypothesis =>
      rw [List.mapM_cons] at native
      cases made : first.intoNative with
      | error panic =>
          rw [made] at native
          cases native
      | ok entry =>
          rw [made] at native
          cases later : rest.mapM WduObOpRegistration.intoNative with
          | error panic =>
              rw [later] at native
              cases native
          | ok others =>
              rw [later] at native
              cases native
              exact .cons made (inductionHypothesis later)

theorem flatMap_of_forall₂
    {First : Type} {Second : Type} {Result : Type}
    {relation : First → Second → Prop} {first : List First}
    {second : List Second} {left : First → List Result}
    {right : Second → List Result}
    (related : List.Forall₂ relation first second)
    (same : ∀ one other, relation one other → right other = left one) :
    second.flatMap right = first.flatMap left := by
  have calls :
      List.Forall₂ (· = ·) (first.flatMap left) (second.flatMap right) := by
    apply List.rel_flatMap related
    intro one other here
    rw [same one other here, List.forall₂_eq_eq_eq]
  rw [List.forall₂_eq_eq_eq] at calls
  exact calls.symm

/-- Items that pass a test repeat the same calls. -/
theorem flatMap_ite_eq
    {First : Type} {Result : Type} (items : List First) (test : First → Bool)
    (calls : List Result) :
    (items.flatMap fun item => if test item then calls else []) =
      (List.replicate (items.countP test) calls).flatten := by
  induction items with
  | nil => rfl
  | cons item rest inductionHypothesis =>
      rw [List.flatMap_cons, inductionHypothesis, List.countP_cons]
      cases test item with
      | false => rfl
      | true => rfl

theorem flatten_replicate_perm_iff
    {Result : Type} (count : Nat) (calls : List Result) :
    (List.replicate count calls).flatten.Perm calls ↔
      calls = [] ∨ count = 1 := by
  constructor
  · intro same
    have lengths := same.length_eq
    rw [List.length_flatten, List.map_replicate, List.sum_replicate_nat]
      at lengths
    rcases Nat.eq_zero_or_pos calls.length with none | some
    · exact Or.inl (List.length_eq_zero_iff.mp none)
    · exact Or.inr (Nat.eq_of_mul_eq_mul_right some (by omega))
  · intro once
    rcases once with none | one
    · subst none
      rw [List.flatten_replicate_nil]
    · subst one
      rw [List.replicate_one, List.flatten_singleton]

namespace WduObCallback

def pushAll (address : Address) (pushed : List WduObOpRegistration) :
    WduObCallback :=
  pushed.foldl pushOpRegistration (constNew address)

theorem operations_foldl
    (pushed : List WduObOpRegistration) (callback : WduObCallback) :
    (pushed.foldl pushOpRegistration callback).operations =
      callback.operations ++ pushed := by
  induction pushed generalizing callback with
  | nil =>
      exact (List.append_nil _).symm
  | cons registration rest inductionHypothesis =>
      rw [List.foldl_cons, inductionHypothesis, pushOpRegistration,
        List.append_assoc]
      rfl

/-- A successful `register` leaves the native registration with the kernel. -/
theorem register_ok
    {callback after : WduObCallback} {altitude : List UInt16}
    {answer : ObAnswer} {kernel kernelAfter : ObKernel}
    (registered :
      callback.register altitude answer kernel =
        .ok (.ok (), after, kernelAfter)) :
    ∃ registration,
      callback.nativeRegistration altitude = .ok registration ∧
        after.address = callback.address ∧
        after.operations = callback.operations ∧
        kernelAfter.registrations =
          (after.handle, registration) :: kernel.registrations := by
  rcases register_effect registered with
    ⟨_, _, ⟨_, failed⟩, _⟩ | ⟨registration, native, _, rfl, rfl, _⟩
  · cases failed
  · exact ⟨registration, native, rfl, rfl, rfl⟩

/-- What the kernel does with a native registration. -/
theorem invoke_nativeRegistration
    {callback : WduObCallback} {altitude : List UInt16}
    {registration : ObCallbackRegistration}
    (native : callback.nativeRegistration altitude = .ok registration)
    (kind : ObTrampoline) (operation : ObOperation)
    (objectType : Option NtObjectType) {memory : Address → WduObCallback}
    {here : WduObCallback} (there : memory callback.address = here) :
    registration.invoke kind ⟨operation.code, objectType⟩ memory =
      (List.replicate
        ((callback.operations.take
          (callback.operations.length % 0x10000)).countP
            (WduObOpRegistration.selected kind
              ⟨operation.code, objectType⟩))
        (here.opInternal kind ⟨operation.code, objectType⟩)).flatten := by
  unfold nativeRegistration at native
  split at native
  · cases native
  · next entries made =>
      cases native
      have related := mapM_ok_forall₂ made
      rw [ObCallbackRegistration.invoke, there, UInt16.toNat_ofNat',
        ← flatMap_ite_eq]
      exact
        flatMap_of_forall₂ (List.forall₂_take _ related)
          fun _ _ made =>
            invoke_of_intoNative kind operation objectType made here

end WduObCallback

/-- The registrations that an operation selects have one call each. -/
def expectedCalls (pushed : List WduObOpRegistration) (kind : ObTrampoline)
    (info : ObOperationInformation) : List ObCall :=
  pushed.filterMap (WduObOpRegistration.selectedCall kind info)

/-- Nothing is selected, or just one of the registrations that the kernel was
told of. -/
def OneEntry (pushed : List WduObOpRegistration) (kind : ObTrampoline)
    (info : ObOperationInformation) : Prop :=
  (∀ registration ∈ pushed, registration.selected kind info = false) ∨
    (pushed.take (pushed.length % 0x10000)).countP
      (WduObOpRegistration.selected kind info) = 1

theorem expectedCalls_eq_nil_iff
    (pushed : List WduObOpRegistration) (kind : ObTrampoline)
    (info : ObOperationInformation) :
    expectedCalls pushed kind info = [] ↔
      ∀ registration ∈ pushed, registration.selected kind info = false := by
  unfold expectedCalls
  rw [List.filterMap_eq_nil_iff]
  refine forall₂_congr fun registration _ => ?_
  unfold WduObOpRegistration.selectedCall WduObOpRegistration.selected
  cases registration.matchesType info with
  | false => simp
  | true => simp

/-- After a successful `register` of any list of registrations, an operation
calls the callbacks that it selects, each once, if and only if it selects none
or just one of those that the kernel was told of. -/
theorem callbacks_calledOnce_iff
    (pushed : List WduObOpRegistration) (address : Address)
    (altitude : List UInt16) (answer : ObAnswer) (kernel : ObKernel)
    {after : WduObCallback} {kernelAfter : ObKernel}
    (registered :
      (WduObCallback.pushAll address pushed).register altitude answer
          kernel =
        .ok (.ok (), after, kernelAfter))
    (memory : Address → WduObCallback) (kind : ObTrampoline)
    (operation : ObOperation) (objectType : Option NtObjectType) :
    (kernelAfter.deliver kind ⟨operation.code, objectType⟩ memory
        after).Perm
        (expectedCalls pushed kind ⟨operation.code, objectType⟩) ↔
      OneEntry pushed kind ⟨operation.code, objectType⟩ := by
  have listed :
      (WduObCallback.pushAll address pushed).operations = pushed :=
    WduObCallback.operations_foldl pushed _
  obtain ⟨registration, native, place, operations, known⟩ :=
    WduObCallback.register_ok registered
  have there :
      Function.update memory after.address after
          (WduObCallback.pushAll address pushed).address =
        after := by
    rw [place, Function.update_self]
  have calls :
      after.opInternal kind ⟨operation.code, objectType⟩ =
        expectedCalls pushed kind ⟨operation.code, objectType⟩ := by
    rw [WduObCallback.opInternal, operations, listed, expectedCalls]
  have delivered :=
    WduObCallback.invoke_nativeRegistration native kind operation objectType
      there
  rw [listed, calls] at delivered
  rw [ObKernel.deliver, known, List.lookup_cons_self]
  change
    (registration.invoke kind ⟨operation.code, objectType⟩
        (Function.update memory after.address after)).Perm _ ↔ _
  rw [delivered, flatten_replicate_perm_iff, expectedCalls_eq_nil_iff]
  rfl

def twoProcessRegistrations : List WduObOpRegistration :=
  [⟨.process, 1, some 0x10, none, nullPtr⟩,
    ⟨.process, 1, some 0x20, none, 0x9000⟩]

/-- Two callbacks watch the handles of processes: each runs twice for one. -/
theorem twoProcessRegistrations_runTwice :
    ∃ after kernelAfter,
      (WduObCallback.pushAll 0x8000 twoProcessRegistrations).register []
            ⟨true, statusSuccess, 0x100⟩ ⟨Ledger.empty, []⟩ =
          .ok (.ok (), after, kernelAfter) ∧
        kernelAfter.deliver .preOpInternal
            ⟨ObOperation.handleCreate.code, some .psProcessType⟩
            (fun _ => WduObCallback.constNew 0) after =
          [⟨0x10, none⟩, ⟨0x20, some 0x9000⟩,
            ⟨0x10, none⟩, ⟨0x20, some 0x9000⟩] ∧
        ¬ (kernelAfter.deliver .preOpInternal
              ⟨ObOperation.handleCreate.code, some .psProcessType⟩
              (fun _ => WduObCallback.constNew 0) after).Perm
            (expectedCalls twoProcessRegistrations .preOpInternal
              ⟨ObOperation.handleCreate.code, some .psProcessType⟩) := by
  refine ⟨_, _, rfl, rfl, fun same => ?_⟩
  exact absurd same.length_eq (by decide)

def oneOfEachType : List WduObOpRegistration :=
  [⟨.process, 1, some 0x10, none, nullPtr⟩,
    ⟨.thread, 1, some 0x20, none, nullPtr⟩]

/-- One registration of each type: a handle of a process runs the callback
once. -/
theorem oneOfEachType_runsOnce :
    ∃ after kernelAfter,
      (WduObCallback.pushAll 0x8000 oneOfEachType).register []
            ⟨true, statusSuccess, 0x100⟩ ⟨Ledger.empty, []⟩ =
          .ok (.ok (), after, kernelAfter) ∧
        (kernelAfter.deliver .preOpInternal
            ⟨ObOperation.handleCreate.code, some .psProcessType⟩
            (fun _ => WduObCallback.constNew 0) after).Perm
          (expectedCalls oneOfEachType .preOpInternal
            ⟨ObOperation.handleCreate.code, some .psProcessType⟩) :=
  ⟨_, _, rfl,
    (callbacks_calledOnce_iff oneOfEachType 0x8000 []
      ⟨true, statusSuccess, 0x100⟩ ⟨Ledger.empty, []⟩ rfl
      (fun _ => WduObCallback.constNew 0) .preOpInternal .handleCreate
      (some .psProcessType)).mpr (Or.inr (by decide))⟩

end WinDrvUtils

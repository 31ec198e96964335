import WinDrvUtils.Callbacks.ObAccess
import WinDrvUtils.Callbacks.ObCallContext
import WinDrvUtils.Samples.ObCallbackLifecycle

/-!
# What obcallback takes from an operation

An operation on a handle goes through the entries that the kernel has, the
routines of the library behind them, and the list of registrations in the
wrapper, to `pre_operation_cb` and later to `post_operation_cb`. Each of them
is called once for each pair of an entry and a registration of one type.

The first call that finds the target narrows the access and sets the context.
A second one of the same operation finds the context taken, and the assertion
in `set_context` fails; so the driver is sound while it has pushed its two
registrations once.
-/

namespace WinDrvUtils

open StepSystem

namespace ObCallbackDriver

def cbProcessTerminate : UInt32 := 0x1

def cbThreadTerminate : UInt32 := 0x1

inductive Object where
  | process (process : Address)
  | thread (processId : Nat)
  deriving DecidableEq, Repr

structure CallContext where
  operation : UInt32
  object : Object
  deriving DecidableEq, Repr

/-- What the callbacks ask the kernel for during an operation, and the box
that `set_context` gets. -/
structure World where
  currentProcess : Address
  currentProcessId : Nat
  threadProcessId : Address → Nat
  box : BoxPtr

/-- An operation on its way through the callbacks, with what is in the
boxes. -/
structure Passing where
  info : ObPreOperation
  boxes : Address → Option CallContext

/-- `is_kernel_handle` -/
def isKernelHandle (info : ObPreOperation) : Bool :=
  info.flags &&& 1 == 1

/-- The end of `pre_operation_cb`. No bit of the access is set. -/
def narrow (clearBitAccess : UInt32) (object : Object) (world : World)
    (passing : Passing) : Except Panic Passing :=
  match ObPreOpInfo.desiredAccess passing.info with
  | .error panic => .error panic
  | .ok desiredAccess =>
      let narrowed :=
        if isKernelHandle passing.info then .ok passing.info
        else
          ObPreOpInfo.setDesiredAccess passing.info
            ((desiredAccess &&& ~~~clearBitAccess) ||| 0)
      match narrowed with
      | .error panic => .error panic
      | .ok info =>
          match
            ObPreOpInfo.setContext info.toObPreOperationInformation
              world.box with
          | .error panic => .error panic
          | .ok taken =>
              .ok
                { info := { info with toObPreOperationInformation := taken }
                  boxes :=
                    Function.update passing.boxes world.box.address
                      (some ⟨info.operation, object⟩) }

def preOperationCb (ctx : Option ProtectData) (world : World)
    (passing : Passing) : Except Panic Passing :=
  match ctx with
  | none => .ok passing
  | some protectData =>
      match passing.info.obType with
      | .process =>
          let process := passing.info.object
          if protectData.targetProcess ≠ some process then .ok passing
          else if process = world.currentProcess then .ok passing
          else narrow cbProcessTerminate (.process process) world passing
      | .thread =>
          let pid := world.threadProcessId passing.info.object
          if protectData.targetProcessId ≠ some pid then .ok passing
          else if pid = world.currentProcessId then .ok passing
          else narrow cbThreadTerminate (.thread pid) world passing
      | _ => .ok passing

/-- The box that is dropped at the end of `post_operation_cb`. What it does
with the object after the assertion has no effect. -/
def postOperationCb (passing : Passing) :
    Except Panic (Option Address) :=
  match
    ObPostOpInfo.callContext
      ⟨passing.info.toObOperationInformation, passing.info.callContext⟩ with
  | none => .ok none
  | some box =>
      match passing.boxes box with
      | none => .ok (some box)
      | some ctx =>
          if ctx.operation = passing.info.operation then .ok (some box)
          else .error (.assertion "ctx.operation == op_info.operation()")

/-! ## The library and the kernel -/

/-- The data behind the context of a call. -/
def contextOf (protectData : ProtectData) (call : ObCall) :
    Option ProtectData :=
  if call.context = some protectDataAddress then some protectData else none

def runPre (protectData : ProtectData) (world : World) (call : ObCall)
    (passing : Passing) : Except Panic Passing :=
  if call.callback = preOperationPfn then
    preOperationCb (contextOf protectData call) world passing
  else .ok passing

/-- `pre_op_internal`; `filter` is lazy. -/
def preOpInternal (protectData : ProtectData) (world : World) :
    List WduObOpRegistration → Passing → Except Panic Passing
  | [], passing => .ok passing
  | registration :: rest, passing =>
      match
        registration.selectedCall .preOpInternal
          passing.info.toObOperationInformation with
      | none => preOpInternal protectData world rest passing
      | some call =>
          match runPre protectData world call passing with
          | .error panic => .error panic
          | .ok passing => preOpInternal protectData world rest passing

/-- `post_op_internal`: the boxes that are dropped. -/
def postOpInternal (passing : Passing) :
    List WduObOpRegistration → Except Panic (List Address)
  | [] => .ok []
  | registration :: rest =>
      match
        registration.selectedCall .postOpInternal
          passing.info.toObOperationInformation with
      | none => postOpInternal passing rest
      | some _ =>
          match postOperationCb passing with
          | .error panic => .error panic
          | .ok dropped =>
              match postOpInternal passing rest with
              | .error panic => .error panic
              | .ok rest => .ok (dropped.toList ++ rest)

/-- The kernel invokes the routine of each entry that matches. -/
def deliverPre (protectData : ProtectData) (world : World)
    (callback : WduObCallback) :
    List ObOperationRegistration → Passing → Except Panic Passing
  | [], passing => .ok passing
  | entry :: rest, passing =>
      if entry.matchesType passing.info.toObOperationInformation ∧
          entry.preOperation = some .preOpInternal then
        match preOpInternal protectData world callback.operations passing with
        | .error panic => .error panic
        | .ok passing => deliverPre protectData world callback rest passing
      else deliverPre protectData world callback rest passing

def deliverPost (callback : WduObCallback) (passing : Passing) :
    List ObOperationRegistration → Except Panic (List Address)
  | [] => .ok []
  | entry :: rest =>
      if entry.matchesType passing.info.toObOperationInformation ∧
          entry.postOperation = some .postOpInternal then
        match postOpInternal passing callback.operations with
        | .error panic => .error panic
        | .ok dropped =>
            match deliverPost callback passing rest with
            | .error panic => .error panic
            | .ok rest => .ok (dropped ++ rest)
      else deliverPost callback passing rest

/-- The entries that the kernel was told of. -/
def told (registration : ObCallbackRegistration) :
    List ObOperationRegistration :=
  registration.operationRegistration.take
    registration.operationRegistrationCount.toNat

/-- One operation: what it is after the pre callbacks, and the boxes that the
post callbacks drop. `callback` is the wrapper in the static, which is the
context of every registration. -/
def operate (protectData : ProtectData) (world : World)
    (callback : WduObCallback) (registration : ObCallbackRegistration)
    (info : ObPreOperation) :
    Except Panic (ObPreOperation × List Address) :=
  match
    deliverPre protectData world callback (told registration)
      ⟨info, fun _ => none⟩ with
  | .error panic => .error panic
  | .ok passing =>
      match deliverPost callback passing (told registration) with
      | .error panic => .error panic
      | .ok dropped => .ok (passing.info, dropped)

/-! ## What an operation should be -/

/-- The object of the operation is not the target, or the target itself asks
for it. -/
def Exempt (protectData : ProtectData) (world : World)
    (info : ObPreOperation) : Prop :=
  match info.obType with
  | .process =>
      protectData.targetProcess ≠ some info.object ∨
        info.object = world.currentProcess
  | .thread =>
      protectData.targetProcessId ≠
          some (world.threadProcessId info.object) ∨
        world.threadProcessId info.object = world.currentProcessId
  | _ => True

instance (protectData : ProtectData) (world : World)
    (info : ObPreOperation) :
    Decidable (Exempt protectData world info) := by
  unfold Exempt
  split <;> infer_instance

/-- The right to terminate is taken from a handle for user mode. -/
def narrowed (info : ObPreOperation) : ObPreOperation :=
  if isKernelHandle info then info
  else info.withAccess (info.access &&& ~~~cbProcessTerminate)

def withContext (info : ObPreOperation) (box : BoxPtr) : ObPreOperation :=
  { info with callContext := box.address }

/-- An exempt operation passes as it is. Another one is narrowed, and the one
box that is made for it is dropped once. -/
def expected (protectData : ProtectData) (world : World)
    (info : ObPreOperation) : ObPreOperation × List Address :=
  if Exempt protectData world info then (info, [])
  else (withContext (narrowed info) world.box, [world.box.address])

/-! ## One registration of each type -/

section Selected

variable {info : ObOperationInformation} (operation : ObOperation)

def pfnOf : ObTrampoline → CodePtr
  | .preOpInternal => preOperationPfn
  | .postOpInternal => postOperationPfn

/-- The mask of the registrations has the bit of each operation. -/
theorem land_operations :
    (obOperationHandleCreate ||| obOperationHandleDuplicate) &&&
        operation.code =
      operation.code := by
  cases operation <;> decide

/-- A registration is selected for its type. -/
theorem selectedCall_registration
    (same : info.operation = operation.code) (kind : ObTrampoline)
    (obType : ObjectType) :
    (registration obType).selectedCall kind info =
      if obType = info.obType then
        some ⟨pfnOf kind, some protectDataAddress⟩
      else none := by
  have matching :
      (registration obType).matchesType info = (obType == info.obType) := by
    have mask :
        (registration obType).operations &&& operation.code =
          operation.code :=
      land_operations operation
    unfold WduObOpRegistration.matchesType
    rw [same, mask, beq_self_eq_true, Bool.and_true]
    rfl
  unfold WduObOpRegistration.selectedCall
  rw [matching]
  by_cases equal : obType = info.obType
  · rw [if_pos equal, if_pos (beq_iff_eq.mpr equal)]
    cases kind <;> rfl
  · rw [if_neg equal, if_neg (fun test => equal (beq_iff_eq.mp test))]

/-- And so is the entry that the kernel has of it. -/
theorem matchesType_entry
    (same : info.operation = operation.code) (objectType : NtObjectType) :
    (entry objectType).matchesType info =
      (some objectType == info.objectType) := by
  have mask :
      (entry objectType).operations &&& operation.code = operation.code :=
    land_operations operation
  unfold ObOperationRegistration.matchesType
  rw [same, mask, bne_iff_ne.mpr operation.code_ne_zero, Bool.and_true]
  rfl

end Selected

/-! ## One call of `pre_operation_cb` -/

/-- The object that goes into the context. -/
def objectOf (world : World) (info : ObPreOperation) : Object :=
  match info.obType with
  | .thread => .thread (world.threadProcessId info.object)
  | _ => .process info.object

/-- An operation as one call of `pre_operation_cb` leaves it. -/
def filteredOnce (protectData : ProtectData) (world : World)
    (passing : Passing) : Passing :=
  if Exempt protectData world passing.info then passing
  else
    { info := withContext (narrowed passing.info) world.box
      boxes :=
        Function.update passing.boxes world.box.address
          (some ⟨passing.info.operation, objectOf world passing.info⟩) }

section Callback

variable {protectData : ProtectData} {world : World} {passing : Passing}

theorem narrowed_information (info : ObPreOperation) :
    (narrowed info).toObPreOperationInformation =
      info.toObPreOperationInformation := by
  unfold narrowed
  split <;> rfl

/-- Neither the access nor the context has a say in what is exempt. -/
theorem exempt_caught_iff (info : ObPreOperation) (box : BoxPtr) :
    Exempt protectData world (withContext (narrowed info) box) ↔
      Exempt protectData world info := by
  unfold narrowed
  split <;> exact Iff.rfl

theorem filteredOnce_of_exempt
    (exempt : Exempt protectData world passing.info) :
    filteredOnce protectData world passing = passing :=
  if_pos exempt

theorem filteredOnce_information :
    (filteredOnce protectData world
        passing).info.toObOperationInformation =
      passing.info.toObOperationInformation := by
  unfold filteredOnce
  split
  · rfl
  · show
      (narrowed passing.info).toObOperationInformation =
        passing.info.toObOperationInformation
    rw [narrowed_information]

theorem narrow_eq
    (handle : passing.info.OnHandle) (object : Object) :
    narrow cbProcessTerminate object world passing =
      match
        ObPreOpInfo.setContext passing.info.toObPreOperationInformation
          world.box with
      | .error panic => .error panic
      | .ok taken =>
          .ok
            { info :=
                { narrowed passing.info with
                  toObPreOperationInformation := taken }
              boxes :=
                Function.update passing.boxes world.box.address
                  (some ⟨passing.info.operation, object⟩) } := by
  unfold narrow narrowed
  rw [handle.desiredAccess]
  dsimp only
  by_cases kernel : isKernelHandle passing.info = true
  · rw [if_pos kernel, if_pos kernel]
  · rw [if_neg kernel, if_neg kernel, handle.setDesiredAccess,
      UInt32.or_zero]
    rfl

/-- An operation that is not exempt is narrowed, whatever its type. -/
theorem preOperationCb_of_not_exempt
    (caught : ¬ Exempt protectData world passing.info) :
    preOperationCb (some protectData) world passing =
      narrow cbProcessTerminate (objectOf world passing.info) world
        passing := by
  unfold Exempt at caught
  unfold preOperationCb objectOf
  cases type : passing.info.obType with
  | process =>
      rw [type] at caught
      obtain ⟨target, other⟩ := not_or.mp caught
      dsimp only
      rw [if_neg target, if_neg other]
  | thread =>
      rw [type] at caught
      obtain ⟨target, other⟩ := not_or.mp caught
      dsimp only
      rw [if_neg target, if_neg other]
      rfl
  | unknown | desktop =>
      rw [type] at caught
      exact absurd trivial caught

theorem preOperationCb_of_exempt
    (exempt : Exempt protectData world passing.info) :
    preOperationCb (some protectData) world passing = .ok passing := by
  unfold Exempt at exempt
  unfold preOperationCb
  cases type : passing.info.obType with
  | process | thread =>
      rw [type] at exempt
      dsimp only
      rcases exempt with other | own
      · rw [if_pos other]
      · split <;> rfl
  | unknown | desktop => rfl

/-- With a free context the callback does what it is for. -/
theorem preOperationCb_eq
    (handle : passing.info.OnHandle)
    (free : passing.info.callContext = nullPtr) :
    preOperationCb (some protectData) world passing =
      .ok (filteredOnce protectData world passing) := by
  unfold filteredOnce
  split
  case isTrue exempt => exact preOperationCb_of_exempt exempt
  case isFalse caught =>
      rw [preOperationCb_of_not_exempt caught, narrow_eq handle,
        ObPreOpInfo.setContext, if_pos free]
      dsimp only
      rw [← narrowed_information]
      rfl

/-- With a context already there it panics. -/
theorem preOperationCb_taken
    (handle : passing.info.OnHandle)
    (taken : passing.info.callContext ≠ nullPtr)
    (caught : ¬ Exempt protectData world passing.info) :
    preOperationCb (some protectData) world passing =
      .error ObPreOpInfo.contextTaken := by
  rw [preOperationCb_of_not_exempt caught, narrow_eq handle,
    ObPreOpInfo.setContext, if_neg taken]

/-- The context that the callback leaves is its own box. -/
theorem postOperationCb_filteredOnce
    (free : passing.info.callContext = nullPtr) :
    postOperationCb (filteredOnce protectData world passing) =
      .ok
        (if Exempt protectData world passing.info then none
        else some world.box.address) := by
  by_cases exempt : Exempt protectData world passing.info
  · have nothing :
        ObPostOpInfo.callContext
            ⟨passing.info.toObOperationInformation,
              passing.info.callContext⟩ =
          none :=
      if_pos free
    rw [filteredOnce_of_exempt exempt, if_pos exempt, postOperationCb,
      nothing]
  · have given :
        ObPostOpInfo.callContext
            ⟨(narrowed passing.info).toObOperationInformation,
              world.box.address⟩ =
          some world.box.address :=
      if_neg world.box.notNull
    have operation :
        (narrowed passing.info).operation = passing.info.operation :=
      congrArg (fun info => info.operation)
        (narrowed_information passing.info)
    rw [filteredOnce, if_neg exempt, if_neg exempt, postOperationCb]
    dsimp only [withContext]
    rw [given]
    dsimp only
    rw [Function.update_self]
    exact if_pos operation.symm

end Callback

/-! ## The lists of registrations and entries -/

section Lists

variable {protectData : ProtectData} {world : World} {passing : Passing}
  {operation : ObOperation}

theorem preOpInternal_cons
    (same : passing.info.operation = operation.code) (obType : ObjectType)
    (rest : List WduObOpRegistration) :
    preOpInternal protectData world (registration obType :: rest) passing =
      if obType = passing.info.obType then
        match preOperationCb (some protectData) world passing with
        | .error panic => .error panic
        | .ok passing => preOpInternal protectData world rest passing
      else preOpInternal protectData world rest passing := by
  rw [preOpInternal,
    selectedCall_registration operation same .preOpInternal obType]
  by_cases selected : obType = passing.info.obType
  · rw [if_pos selected, if_pos selected]
    rfl
  · rw [if_neg selected, if_neg selected]

theorem postOpInternal_cons
    (same : passing.info.operation = operation.code) (obType : ObjectType)
    (rest : List WduObOpRegistration) :
    postOpInternal passing (registration obType :: rest) =
      if obType = passing.info.obType then
        match postOperationCb passing with
        | .error panic => .error panic
        | .ok dropped =>
            match postOpInternal passing rest with
            | .error panic => .error panic
            | .ok rest => .ok (dropped.toList ++ rest)
      else postOpInternal passing rest := by
  rw [postOpInternal,
    selectedCall_registration operation same .postOpInternal obType]
  by_cases selected : obType = passing.info.obType
  · rw [if_pos selected, if_pos selected]
  · rw [if_neg selected, if_neg selected]

theorem deliverPre_cons
    (same : passing.info.operation = operation.code)
    (callback : WduObCallback) (objectType : NtObjectType)
    (rest : List ObOperationRegistration) :
    deliverPre protectData world callback (entry objectType :: rest)
        passing =
      if some objectType = passing.info.objectType then
        match
          preOpInternal protectData world callback.operations passing with
        | .error panic => .error panic
        | .ok passing =>
            deliverPre protectData world callback rest passing
      else deliverPre protectData world callback rest passing := by
  rw [deliverPre, matchesType_entry operation same]
  by_cases matching : some objectType = passing.info.objectType
  · rw [if_pos matching, if_pos ⟨beq_iff_eq.mpr matching, rfl⟩]
  · rw [if_neg matching,
      if_neg fun both => matching (beq_iff_eq.mp both.1)]

theorem deliverPost_cons
    (same : passing.info.operation = operation.code)
    (callback : WduObCallback) (objectType : NtObjectType)
    (rest : List ObOperationRegistration) :
    deliverPost callback passing (entry objectType :: rest) =
      if some objectType = passing.info.objectType then
        match postOpInternal passing callback.operations with
        | .error panic => .error panic
        | .ok dropped =>
            match deliverPost callback passing rest with
            | .error panic => .error panic
            | .ok rest => .ok (dropped ++ rest)
      else deliverPost callback passing rest := by
  rw [deliverPost, matchesType_entry operation same]
  by_cases matching : some objectType = passing.info.objectType
  · rw [if_pos matching, if_pos ⟨beq_iff_eq.mpr matching, rfl⟩]
  · rw [if_neg matching,
      if_neg fun both => matching (beq_iff_eq.mp both.1)]

theorem exempt_of_type
    {info : ObPreOperation} (process : info.obType ≠ .process)
    (thread : info.obType ≠ .thread) :
    Exempt protectData world info := by
  unfold Exempt
  cases type : info.obType with
  | process => exact absurd type process
  | thread => exact absurd type thread
  | unknown | desktop => trivial

theorem filteredOnce_obType :
    (filteredOnce protectData world passing).info.obType =
      passing.info.obType := by
  unfold ObOperationInformation.obType
  rw [filteredOnce_information]

theorem filteredOnce_operation
    (same : passing.info.operation = operation.code) :
    (filteredOnce protectData world passing).info.operation =
      operation.code := by
  rw [filteredOnce_information]
  exact same

/-- One registration of each type calls the callback at most once. -/
theorem preOpInternal_pairs_one
    (handle : passing.info.OnHandle)
    (free : passing.info.callContext = nullPtr) :
    preOpInternal protectData world (pairs 1) passing =
      .ok (filteredOnce protectData world passing) := by
  obtain ⟨operation, same⟩ := id handle
  have pair : pairs 1 = [registration .process, registration .thread] := rfl
  have called :=
    @preOperationCb_eq protectData world passing handle free
  have later :=
    @filteredOnce_operation protectData world passing operation same
  rw [pair, preOpInternal_cons same]
  by_cases process : ObjectType.process = passing.info.obType
  · have notThread :
        ObjectType.thread ≠
          (filteredOnce protectData world passing).info.obType := by
      rw [filteredOnce_obType, ← process]
      decide
    rw [if_pos process, called]
    dsimp only
    rw [preOpInternal_cons later, if_neg notThread]
    rfl
  · rw [if_neg process, preOpInternal_cons same]
    by_cases thread : ObjectType.thread = passing.info.obType
    · rw [if_pos thread, called]
      rfl
    · have exempt :=
        @exempt_of_type protectData world passing.info (Ne.symm process)
          (Ne.symm thread)
      rw [if_neg thread, filteredOnce_of_exempt exempt]
      rfl

theorem postOpInternal_pairs_one
    (same : passing.info.operation = operation.code)
    {dropped : Option Address}
    (called : postOperationCb passing = .ok dropped)
    (typed :
      passing.info.obType = .process ∨ passing.info.obType = .thread) :
    postOpInternal passing (pairs 1) = .ok dropped.toList := by
  have pair : pairs 1 = [registration .process, registration .thread] := rfl
  rw [pair, postOpInternal_cons same, postOpInternal_cons same, called]
  rcases typed with type | type
  · rw [type, if_pos rfl, if_neg (by decide)]
    simp [postOpInternal]
  · rw [type, if_neg (by decide), if_pos rfl]
    simp [postOpInternal]

theorem told_native_one :
    told (native 1) = [entry .psProcessType, entry .psThreadType] := rfl

theorem process_eq_obType_iff (info : ObOperationInformation) :
    .process = info.obType ↔ some .psProcessType = info.objectType := by
  unfold ObOperationInformation.obType
  rcases info.objectType with _ | objectType
  · simp
  · cases objectType <;> simp

theorem thread_eq_obType_iff (info : ObOperationInformation) :
    .thread = info.obType ↔ some .psThreadType = info.objectType := by
  unfold ObOperationInformation.obType
  rcases info.objectType with _ | objectType
  · simp
  · cases objectType <;> simp

/-- And of the two entries at most one matches. -/
theorem deliverPre_native_one
    {callback : WduObCallback} (pushed : callback.operations = pairs 1)
    (handle : passing.info.OnHandle)
    (free : passing.info.callContext = nullPtr) :
    deliverPre protectData world callback (told (native 1)) passing =
      .ok (filteredOnce protectData world passing) := by
  obtain ⟨operation, same⟩ := id handle
  have called :=
    @preOpInternal_pairs_one protectData world passing handle free
  have later :=
    @filteredOnce_operation protectData world passing operation same
  rw [told_native_one, deliverPre_cons same, pushed]
  by_cases process : some .psProcessType = passing.info.objectType
  · have notThread :
        some .psThreadType ≠
          (filteredOnce protectData world passing).info.objectType := by
      rw [filteredOnce_information, ← process]
      decide
    rw [if_pos process, called]
    dsimp only
    rw [deliverPre_cons later, if_neg notThread]
    rfl
  · rw [if_neg process, deliverPre_cons same, pushed]
    by_cases thread : some .psThreadType = passing.info.objectType
    · rw [if_pos thread, called]
      rfl
    · have exempt :=
        @exempt_of_type protectData world passing.info
          (fun type =>
            process ((process_eq_obType_iff _).mp type.symm))
          (fun type => thread ((thread_eq_obType_iff _).mp type.symm))
      rw [if_neg thread, filteredOnce_of_exempt exempt]
      rfl

theorem deliverPost_native_one
    {callback : WduObCallback} (pushed : callback.operations = pairs 1)
    (same : passing.info.operation = operation.code)
    {dropped : Option Address}
    (called : postOperationCb passing = .ok dropped)
    (typed :
      dropped ≠ none →
        passing.info.obType = .process ∨
          passing.info.obType = .thread) :
    deliverPost callback passing (told (native 1)) = .ok dropped.toList := by
  rw [told_native_one, deliverPost_cons same, deliverPost_cons same, pushed]
  by_cases process : some .psProcessType = passing.info.objectType
  · have type := (process_eq_obType_iff _).mpr process
    rw [if_pos process, ← process, if_neg (by decide),
      postOpInternal_pairs_one same called (.inl type.symm)]
    simp [deliverPost]
  · rw [if_neg process]
    by_cases thread : some .psThreadType = passing.info.objectType
    · have type := (thread_eq_obType_iff _).mpr thread
      rw [if_pos thread,
        postOpInternal_pairs_one same called (.inr type.symm)]
      simp [deliverPost]
    · rw [if_neg thread]
      cases dropped with
      | none => rfl
      | some box =>
          rcases typed (Option.some_ne_none box) with type | type
          · exact
              absurd ((process_eq_obType_iff _).mp type.symm) process
          · exact absurd ((thread_eq_obType_iff _).mp type.symm) thread

end Lists

/-- With one registration of each type every operation is what it should
be. -/
theorem operate_native_one
    {callback : WduObCallback} (pushed : callback.operations = pairs 1)
    (protectData : ProtectData) (world : World) {info : ObPreOperation}
    (handle : info.OnHandle) (free : info.callContext = nullPtr) :
    operate protectData world callback (native 1) info =
      .ok (expected protectData world info) := by
  obtain ⟨operation, same⟩ := id handle
  let passing : Passing := ⟨info, fun _ => none⟩
  have pre :=
    @deliverPre_native_one protectData world passing callback pushed handle
      free
  have post :=
    @deliverPost_native_one (filteredOnce protectData world passing)
      operation callback pushed (filteredOnce_operation same) _
      (postOperationCb_filteredOnce free) (fun given => ?_)
  · unfold operate
    rw [pre]
    dsimp only
    rw [post]
    unfold expected filteredOnce
    by_cases exempt : Exempt protectData world info
    · rw [if_pos exempt, if_pos exempt, if_pos exempt]
      rfl
    · rw [if_neg exempt, if_neg exempt, if_neg exempt]
      rfl
  · rw [filteredOnce_obType]
    by_contra neither
    obtain ⟨process, thread⟩ := not_or.mp neither
    exact given (if_pos (exempt_of_type process thread))

/-! ## A second one -/

/-- A handle of the target itself is asked for by another process. -/
structure Targets (protectData : ProtectData) (world : World)
    (info : ObPreOperation) : Prop where
  handle : info.OnHandle
  free : info.callContext = nullPtr
  type : info.objectType = some .psProcessType
  target : protectData.targetProcess = some info.object
  other : info.object ≠ world.currentProcess

section Targets

variable {protectData : ProtectData} {world : World} {info : ObPreOperation}

theorem Targets.obType
    (targets : Targets protectData world info) :
    .process = info.obType :=
  (process_eq_obType_iff _).mpr targets.type.symm

theorem Targets.caught
    (targets : Targets protectData world info) :
    ¬ Exempt protectData world info := by
  unfold Exempt
  rw [← targets.obType]
  exact not_or.mpr ⟨not_not.mpr targets.target, targets.other⟩

/-- The callback is called twice, and its own context is in the way. -/
theorem preOpInternal_twice
    (targets : Targets protectData world info)
    (boxes : Address → Option CallContext) (count : Nat) :
    preOpInternal protectData world (pairs (count + 2)) ⟨info, boxes⟩ =
      .error ObPreOpInfo.contextTaken := by
  let passing : Passing := ⟨info, boxes⟩
  obtain ⟨operation, same⟩ := targets.handle
  have called :=
    @preOperationCb_eq protectData world passing targets.handle targets.free
  have once :
      filteredOnce protectData world passing =
        ⟨withContext (narrowed info) world.box,
          Function.update boxes world.box.address
            (some ⟨info.operation, objectOf world info⟩)⟩ :=
    if_neg targets.caught
  have later :=
    @filteredOnce_operation protectData world passing operation same
  have type :
      (filteredOnce protectData world passing).info.obType = .process := by
    rw [filteredOnce_obType]
    exact targets.obType.symm
  have caught :
      ¬ Exempt protectData world
          (filteredOnce protectData world passing).info := by
    rw [once, exempt_caught_iff]
    exact targets.caught
  have taken :
      (filteredOnce protectData world passing).info.callContext ≠
        nullPtr := by
    rw [once]
    exact world.box.notNull
  rw [pairs_succ, pairs_succ, preOpInternal_cons same,
    if_pos targets.obType, called]
  dsimp only
  rw [preOpInternal_cons later, type, if_neg (by decide),
    preOpInternal_cons later, type, if_pos rfl,
    preOperationCb_taken ⟨operation, later⟩ taken caught]

/-- More registrations than one of each type, or a kernel that was told of
none, are wrong for a handle of the target. -/
theorem operate_ne_expected
    {callback : WduObCallback} {count entryCount : Nat}
    (pushed : callback.operations = pairs (count + 2))
    (targets : Targets protectData world info) :
    operate protectData world callback (native (entryCount + 1)) info ≠
      .ok (expected protectData world info) := by
  have wanted :
      expected protectData world info =
        (withContext (narrowed info) world.box, [world.box.address]) :=
    if_neg targets.caught
  obtain ⟨operation, same⟩ := targets.handle
  have listed :
      told (native (entryCount + 1)) =
        (entry .psProcessType :: entry .psThreadType ::
          entries entryCount).take
            (native (entryCount + 1)).operationRegistrationCount.toNat := by
    rw [← entries_succ]
    rfl
  rw [wanted]
  unfold operate
  cases known :
      (native (entryCount + 1)).operationRegistrationCount.toNat with
  | zero =>
      rw [known, List.take_zero] at listed
      rw [listed]
      intro equal
      have boxes := congrArg Prod.snd (Except.ok.inj equal)
      cases boxes
  | succ number =>
      rw [known, List.take_succ_cons] at listed
      have matching :
          some NtObjectType.psProcessType = info.objectType :=
        targets.type.symm
      have first :=
        @deliverPre_cons protectData world ⟨info, fun _ => none⟩ operation
          same callback .psProcessType
          ((entry .psThreadType :: entries entryCount).take number)
      rw [if_pos matching, pushed,
        preOpInternal_twice targets (fun _ => none) count] at first
      rw [listed, first]
      intro equal
      cases equal

end Targets

/-! ## Over a life of the driver -/

/-- Through whatever the kernel has registered, every operation is what it
should be, for every target. -/
def Filters (system : System) : Prop :=
  ∀ entry ∈ system.ob.registrations,
    ∀ (protectData : ProtectData) (world : World) (info : ObPreOperation),
      info.OnHandle → info.callContext = nullPtr →
        operate protectData world system.protect.callback entry.2 info =
          .ok (expected protectData world info)

/-- `register_callback` is reached with an empty list, or in vain and while
the kernel has nothing. -/
def AttemptsOnce (system : System) : Event → Prop
  | .deviceControl ioctl inputSize answers =>
      Attempts system ioctl inputSize answers →
        system.protect.callback.operations = [] ∨
          (¬ Accepted answers.register ∧ system.ob.registrations = [])
  | .load _ _ | .protectMatch _ _ _ | .rejectMatch _ _ _ | .unload _ => True

/-- What the kernel has is what is in the wrapper, one registration of each
type. -/
structure Once (system : System) : Prop where
  pushed :
    ∃ count,
      Pushed system.protect.callback count ∧
        (system.ob.registrations ≠ [] → count = 1)
  native : ∀ entry ∈ system.ob.registrations, entry.2 = native 1

theorem Once.filters
    {system : System} (once : Once system) :
    Filters system := by
  intro entry member protectData world info handle free
  obtain ⟨count, pushed, one⟩ := once.pushed
  have operations := pushed.operations
  rw [one (List.ne_nil_of_mem member)] at operations
  rw [once.native entry member]
  exact operate_native_one operations protectData world handle free

/-- The wrapper keeps its registrations, and the kernel gets none. -/
structure Settled (system next : System) : Prop where
  address : next.protect.callback.address = system.protect.callback.address
  operations :
    next.protect.callback.operations = system.protect.callback.operations
  registrations :
    ∀ entry ∈ next.ob.registrations, entry ∈ system.ob.registrations

theorem Settled.refl (system : System) : Settled system system :=
  ⟨rfl, rfl, fun _ member => member⟩

theorem Once.of_settled
    {system next : System} (once : Once system)
    (settled : Settled system next) :
    Once next := by
  obtain ⟨count, pushed, one⟩ := once.pushed
  refine
    ⟨⟨count,
        ⟨settled.address.trans pushed.address,
          settled.operations.trans pushed.operations⟩,
        fun some => one fun none => ?_⟩,
      fun entry member => once.native entry (settled.registrations _ member)⟩
  obtain ⟨entry, member⟩ := List.exists_mem_of_ne_nil _ some
  have there := settled.registrations entry member
  rw [none] at there
  cases there

theorem once_start : Once System.start :=
  ⟨⟨0, ⟨rfl, rfl⟩, fun some => absurd rfl some⟩,
    fun _ member => nomatch member⟩

theorem settled_deleteProtectNameCb (protect : Protect) (kernel : ObKernel) :
    (protect.deleteProtectNameCb kernel).2.1.callback.address =
        protect.callback.address ∧
      (protect.deleteProtectNameCb kernel).2.1.callback.operations =
        protect.callback.operations ∧
      ∀ entry ∈ (protect.deleteProtectNameCb kernel).2.2.registrations,
        entry ∈ kernel.registrations := by
  unfold Protect.deleteProtectNameCb WduObCallback.unregister
  split
  case h_1 kept =>
      split at kept
      · cases kept
        exact ⟨rfl, rfl, fun _ member => member⟩
      · cases kept
  case h_2 done =>
      split at done
      · cases done
      · cases done
        exact ⟨rfl, rfl, fun _ member => List.mem_of_mem_filter member⟩

theorem settled_init
    (driverExtension : Bool) (answers : LoadAnswers) (system : System) :
    Settled system (init driverExtension answers system).2.2 := by
  unfold init
  split
  · exact .refl system
  · split
    · exact ⟨rfl, rfl, fun _ member => member⟩
    · dsimp only
      unfold registerNotify
      split
      · exact ⟨rfl, rfl, fun _ member => member⟩
      · exact ⟨rfl, rfl, fun _ member => member⟩

theorem settled_driverUnload (answers : LeaveAnswers) (system : System) :
    Settled system (driverUnload answers system) := by
  rw [driverUnload_eq]
  unfold leave
  split
  · obtain ⟨address, operations, registrations⟩ :=
      settled_deleteProtectNameCb system.protect system.ob
    exact ⟨address, operations, registrations⟩
  · exact ⟨rfl, rfl, fun _ member => member⟩

theorem settled_of_callback
    {system next : System}
    (callback : next.protect.callback = system.protect.callback)
    (ob : next.ob = system.ob) :
    Settled system next := by
  refine ⟨by rw [callback], by rw [callback], fun entry member => ?_⟩
  rw [ob] at member
  exact member

/-! ## Requests -/

/-- A handle of a process that another process opens, with that process as
the target. -/
def someTarget : ProtectData := ⟨some 0x5000, none, []⟩

def someWorld : World where
  currentProcess := 0x6000
  currentProcessId := 0
  threadProcessId := fun _ => 0
  box := ⟨0x7000, by decide⟩

theorem targets_some :
    Targets someTarget someWorld ObAccess.processHandle :=
  ⟨⟨.handleCreate, rfl⟩, rfl, rfl, rfl, by decide⟩

theorem not_filters
    {system : System} {entry : Address × ObCallbackRegistration}
    {count entryCount : Nat}
    (pushed : Pushed system.protect.callback (count + 2))
    (member : entry ∈ system.ob.registrations)
    (same : entry.2 = native (entryCount + 1)) :
    ¬ Filters system := by
  intro filters
  have right :=
    filters entry member someTarget someWorld ObAccess.processHandle
      targets_some.handle targets_some.free
  rw [same] at right
  exact operate_ne_expected pushed.operations targets_some right

theorem once_request
    {system next : System} {ioctl : UInt32} {inputSize : Nat}
    {answers : RequestAnswers} {count : Nat} (once : Once system)
    (pushed : Pushed system.protect.callback count)
    (one : system.ob.registrations ≠ [] → count = 1)
    (requested : Requested system ioctl inputSize answers count next) :
    (AttemptsOnce system (.deviceControl ioctl inputSize answers) ∧
        Once next) ∨
      (¬ AttemptsOnce system (.deviceControl ioctl inputSize answers) ∧
        ¬ Filters next) := by
  cases requested with
  | quiet other =>
      exact .inl ⟨fun attempts => absurd attempts other, once⟩
  | released other installed =>
      obtain ⟨address, operations, registrations⟩ :=
        settled_deleteProtectNameCb system.protect system.ob
      exact
        .inl
          ⟨fun attempts => absurd attempts other,
            once.of_settled ⟨address, operations, registrations⟩⟩
  | refused attempts refused framed grown handle ob free name flags =>
      by_cases empty : system.ob.registrations = []
      · refine
          .inl
            ⟨fun _ => .inr ⟨refused, empty⟩,
              ⟨count + 1, grown, fun some => ?_⟩, fun entry member => ?_⟩
        · rw [ob] at some
          exact absurd empty some
        · rw [ob, empty] at member
          cases member
      · have same := one empty
        subst same
        refine .inr ⟨fun guarded => ?_, ?_⟩
        · rcases guarded attempts with none | vain
          · rw [pushed.operations] at none
            cases none
          · exact empty vain.2
        · obtain ⟨entry, member⟩ := List.exists_mem_of_ne_nil _ empty
          exact
            @not_filters next entry 0 0 grown (by rw [ob]; exact member)
              (once.native entry member)
  | registered attempts accepted framed grown handle ob installed name =>
      cases count with
      | zero =>
          have empty : system.ob.registrations = [] := by
            by_contra some
            cases one some
          refine
            .inl
              ⟨fun _ => .inl pushed.operations,
                ⟨1, grown, fun _ => rfl⟩, fun entry member => ?_⟩
          rw [ob, empty] at member
          rw [List.mem_singleton.mp member]
      | succ count =>
          refine .inr ⟨fun guarded => ?_, ?_⟩
          · rcases guarded attempts with none | vain
            · rw [pushed.operations, pairs_succ] at none
              cases none
            · exact vain.1 accepted
          · refine
              @not_filters next (answers.register.handle, native (count + 2))
                count (count + 1) grown ?_ rfl
            rw [ob]
            exact List.mem_cons_self

/-! ## New processes -/

section Match

variable (toLowercase : String → String) (process : Address) (pid : Nat)
  (filename : List UInt16) (system : System)

theorem settled_protectMatch :
    Settled system
      (protectMatch toLowercase process pid filename system) := by
  unfold protectMatch
  split
  · exact
      settled_of_callback
        (checkProcessMatch_callback toLowercase system.protect process pid
          filename).1
        rfl
  · exact .refl system

theorem settled_rejectMatch :
    Settled system
      (rejectMatch toLowercase process pid filename system) := by
  unfold rejectMatch
  split
  · exact
      settled_of_callback
        (checkProcessMatch_callback toLowercase system.protect process pid
          filename).1
        rfl
  · exact .refl system

end Match

/-- All but a request leave the wrapper and the kernel as they are, or give
back what was registered. -/
theorem settled_of_change
    {toLowercase : String → String} {system next : System} {event : Event}
    {count : Nat} (change : Change toLowercase system count event next) :
    (∃ ioctl inputSize answers,
        event = .deviceControl ioctl inputSize answers ∧
          Requested system ioctl inputSize answers count next) ∨
      (AttemptsOnce system event ∧ Settled system next) := by
  cases change with
  | @notLoaded driverExtension answers _ _ _ _ ended =>
      have settled := settled_init driverExtension answers system
      rw [ended] at settled
      exact
        .inr
          ⟨trivial, settled.address, settled.operations,
            settled.registrations⟩
  | @loaded driverExtension answers _ _ _ _ ended =>
      have settled := settled_init driverExtension answers system
      rw [ended] at settled
      exact
        .inr
          ⟨trivial, settled.address, settled.operations,
            settled.registrations⟩
  | deviceControl _ _ requested => exact .inl ⟨_, _, _, rfl, requested⟩
  | protectMatch _ =>
      exact .inr ⟨trivial, settled_protectMatch toLowercase _ _ _ system⟩
  | rejectMatch _ =>
      exact .inr ⟨trivial, settled_rejectMatch toLowercase _ _ _ system⟩
  | @unloaded answers _ _ _ _ =>
      have settled := settled_driverUnload answers system
      exact
        .inr
          ⟨trivial, settled.address, settled.operations,
            settled.registrations⟩
  | left _ _ => exact .inr ⟨trivial, rfl, rfl, fun _ member => member⟩
  | panicked _ _ => exact .inr ⟨trivial, rfl, rfl, fun _ member => member⟩

/-- One step: within the condition there is one registration of each type,
and outside it the next state filters wrongly. -/
theorem once_step
    {toLowercase : String → String} {system next : System} {event : Event}
    (once : Once system)
    (stepped : step toLowercase system event = some next) :
    (AttemptsOnce system event ∧ Once next) ∨
      (¬ AttemptsOnce system event ∧ ¬ Filters next) := by
  obtain ⟨count, pushed, one⟩ := once.pushed
  rcases settled_of_change (change_of_step pushed stepped) with
    ⟨ioctl, inputSize, answers, rfl, requested⟩ | ⟨met, settled⟩
  · exact once_request once pushed one requested
  · exact .inl ⟨met, once.of_settled settled⟩

/-- For every life of the driver, every target and every operation on a
handle: the operation loses the right to terminate exactly when it should, the
box of its context is dropped once, and no assertion fails, if and only if
`register_callback` is reached with an empty list or in vain and while the
kernel has nothing. A registration that is left when the driver is gone is
judged as if the driver were still there. -/
theorem filters_iff_attemptsOnce
    (toLowercase : String → String) (events : List Event) :
    Always (step toLowercase) Filters System.start events ↔
      Guarded (step toLowercase) AttemptsOnce System.start events := by
  refine
    always_iff_guarded (fun _ once => Once.filters once)
      (fun system event next once met stepped => ?_)
      (fun system event next once stepped filters => ?_) once_start
  · rcases once_step once stepped with ⟨_, kept⟩ | ⟨unmet, _⟩
    · exact kept
    · exact absurd met unmet
  · rcases once_step once stepped with ⟨met, _⟩ | ⟨_, wrong⟩
    · exact met
    · exact absurd filters wrong

end ObCallbackDriver

end WinDrvUtils

import WinDrvUtils.Callbacks.ObDispatch

/-!
# Filtering the access of an operation

All registrations of a wrapper see one `OB_PRE_OPERATION_INFORMATION`. A pre
callback may narrow its `DesiredAccess`, which lies in the parameters behind a
pointer, in a union of which each operation has a member. `pre_op_internal`
goes through the registrations once and tests each one when its turn comes, on
the information as the callbacks before it have left it.

An `AccessProgram` is what a callback does: it may ask for the access and set
it, as often as it likes, and keeps a world of its own.
-/

namespace WinDrvUtils

structure ObPreCreateHandleInformation where
  desiredAccess : UInt32
  originalDesiredAccess : UInt32
  deriving DecidableEq, Repr

structure ObPreDuplicateHandleInformation where
  desiredAccess : UInt32
  originalDesiredAccess : UInt32
  sourceProcess : Address
  targetProcess : Address
  deriving DecidableEq, Repr

/-- `OB_PRE_OPERATION_PARAMETERS` is a union. Its larger member is kept, and
the other one begins with the same two fields. -/
structure ObPreOperationParameters where
  duplicateHandleInformation : ObPreDuplicateHandleInformation
  deriving DecidableEq, Repr

namespace ObPreOperationParameters

def createHandleInformation (parameters : ObPreOperationParameters) :
    ObPreCreateHandleInformation where
  desiredAccess := parameters.duplicateHandleInformation.desiredAccess
  originalDesiredAccess :=
    parameters.duplicateHandleInformation.originalDesiredAccess

/-- A store to the first field of either member. -/
def setDesiredAccess (parameters : ObPreOperationParameters)
    (desiredAccess : UInt32) : ObPreOperationParameters where
  duplicateHandleInformation :=
    { parameters.duplicateHandleInformation with
      desiredAccess := desiredAccess }

end ObPreOperationParameters

/-- `OB_PRE_OPERATION_INFORMATION` with its parameters. -/
structure ObPreOperation extends ObPreOperationInformation where
  flags : UInt32
  object : Address
  parameters : ObPreOperationParameters
  deriving DecidableEq, Repr

namespace ObPreOpInfo

def desiredAccess (info : ObPreOperation) : Except Panic UInt32 :=
  if info.operation = obOperationHandleCreate then
    .ok info.parameters.createHandleInformation.desiredAccess
  else if info.operation = obOperationHandleDuplicate then
    .ok info.parameters.duplicateHandleInformation.desiredAccess
  else .error (.unreachable "")

/-- The second branch reads the member of the first. -/
def originalDesiredAccess (info : ObPreOperation) : Except Panic UInt32 :=
  if info.operation = obOperationHandleCreate then
    .ok info.parameters.createHandleInformation.originalDesiredAccess
  else if info.operation = obOperationHandleDuplicate then
    .ok info.parameters.createHandleInformation.originalDesiredAccess
  else .error (.unreachable "")

def setDesiredAccess (info : ObPreOperation) (desiredAccess : UInt32) :
    Except Panic ObPreOperation :=
  if info.operation = obOperationHandleCreate then
    .ok
      { info with
        parameters := info.parameters.setDesiredAccess desiredAccess }
  else if info.operation = obOperationHandleDuplicate then
    .ok
      { info with
        parameters := info.parameters.setDesiredAccess desiredAccess }
  else .error (.unreachable "")

end ObPreOpInfo

/-- What a callback does with the information, in a world of its own. -/
inductive AccessProgram (World : Type) where
  | done (world : World)
  | desiredAccess (next : UInt32 → AccessProgram World)
  | setDesiredAccess (desiredAccess : UInt32) (next : AccessProgram World)

/-- What the functions of the driver do when they are called. -/
abbrev AccessBehaviour (World : Type) :=
  ObCall → World → AccessProgram World

namespace AccessProgram

variable {World : Type}

def run (info : ObPreOperation) :
    AccessProgram World → Except Panic (World × ObPreOperation)
  | .done world => .ok (world, info)
  | .desiredAccess next =>
      match ObPreOpInfo.desiredAccess info with
      | .error panic => .error panic
      | .ok access => (next access).run info
  | .setDesiredAccess access next =>
      match ObPreOpInfo.setDesiredAccess info access with
      | .error panic => .error panic
      | .ok info => next.run info

/-- The same on the access alone. -/
def apply (access : UInt32) : AccessProgram World → World × UInt32
  | .done world => (world, access)
  | .desiredAccess next => (next access).apply access
  | .setDesiredAccess access next => next.apply access

end AccessProgram

namespace ObAccess

variable {World : Type}

/-- `pre_op_internal` with what the callbacks do. `filter` is lazy: each
registration is tested on the information of its turn. -/
def preOpInternal (behaviour : AccessBehaviour World) :
    List WduObOpRegistration → World → ObPreOperation →
      Except Panic (World × ObPreOperation)
  | [], world, info => .ok (world, info)
  | registration :: rest, world, info =>
      match
        registration.selectedCall .preOpInternal
          info.toObOperationInformation with
      | none => preOpInternal behaviour rest world info
      | some call =>
          match (behaviour call world).run info with
          | .error panic => .error panic
          | .ok (world, info) => preOpInternal behaviour rest world info

/-- The calls in order, on the access alone. -/
def filtered (behaviour : AccessBehaviour World) (calls : List ObCall)
    (world : World) (access : UInt32) : World × UInt32 :=
  calls.foldl (fun state call => (behaviour call state.1).apply state.2)
    (world, access)

end ObAccess

namespace ObPreOperation

def access (info : ObPreOperation) : UInt32 :=
  info.parameters.duplicateHandleInformation.desiredAccess

/-- Everything but the access stays. -/
def withAccess (info : ObPreOperation) (access : UInt32) : ObPreOperation :=
  { info with parameters := info.parameters.setDesiredAccess access }

@[simp]
theorem withAccess_toObOperationInformation
    (info : ObPreOperation) (access : UInt32) :
    (info.withAccess access).toObOperationInformation =
      info.toObOperationInformation := rfl

@[simp]
theorem withAccess_access (info : ObPreOperation) (access : UInt32) :
    (info.withAccess access).access = access := rfl

@[simp]
theorem withAccess_withAccess
    (info : ObPreOperation) (first second : UInt32) :
    (info.withAccess first).withAccess second = info.withAccess second := rfl

@[simp]
theorem withAccess_self (info : ObPreOperation) :
    info.withAccess info.access = info := rfl

/-- An operation on handles. -/
def OnHandle (info : ObPreOperation) : Prop :=
  ∃ operation : ObOperation, info.operation = operation.code

theorem OnHandle.withAccess
    {info : ObPreOperation} (handle : info.OnHandle) (access : UInt32) :
    (info.withAccess access).OnHandle :=
  handle

/-- Both members of the union give the same access. -/
theorem OnHandle.desiredAccess
    {info : ObPreOperation} (handle : info.OnHandle) :
    ObPreOpInfo.desiredAccess info = .ok info.access := by
  obtain ⟨operation, equal⟩ := handle
  cases operation <;>
    simp [ObPreOpInfo.desiredAccess, equal, ObOperation.code, access,
      ObPreOperationParameters.createHandleInformation,
      obOperationHandleCreate, obOperationHandleDuplicate]

theorem OnHandle.setDesiredAccess
    {info : ObPreOperation} (handle : info.OnHandle) (access : UInt32) :
    ObPreOpInfo.setDesiredAccess info access =
      .ok (info.withAccess access) := by
  obtain ⟨operation, equal⟩ := handle
  cases operation <;>
    simp [ObPreOpInfo.setDesiredAccess, equal, ObOperation.code,
      ObPreOperation.withAccess, obOperationHandleCreate,
      obOperationHandleDuplicate]

end ObPreOperation

/-! ## One callback -/

/-- A callback changes the access as its program says and nothing else. -/
theorem AccessProgram.run_eq_apply
    {World : Type} (program : AccessProgram World) {info : ObPreOperation}
    (handle : info.OnHandle) :
    program.run info =
      .ok ((program.apply info.access).1,
        info.withAccess (program.apply info.access).2) := by
  induction program generalizing info with
  | done world => simp [run, apply]
  | desiredAccess next inductionHypothesis =>
      simp only [run, handle.desiredAccess, apply]
      exact inductionHypothesis info.access handle
  | setDesiredAccess access next inductionHypothesis =>
      simp only [run, handle.setDesiredAccess, apply]
      have later := inductionHypothesis (handle.withAccess access)
      simpa using later

namespace ObAccess

variable {World : Type} (behaviour : AccessBehaviour World)

/-! ## All registrations -/

/-- The calls of the registrations that match an operation. -/
def callsOf (registrations : List WduObOpRegistration)
    (info : ObOperationInformation) : List ObCall :=
  registrations.filterMap
    (WduObOpRegistration.selectedCall .preOpInternal info)

/-- The access and the world after a list of registrations. -/
def outcome (registrations : List WduObOpRegistration) (world : World)
    (info : ObPreOperation) : World × UInt32 :=
  filtered behaviour (callsOf registrations info.toObOperationInformation)
    world info.access

theorem outcome_cons_none
    {registration : WduObOpRegistration} (rest : List WduObOpRegistration)
    (world : World) {info : ObPreOperation}
    (skipped :
      registration.selectedCall .preOpInternal info.toObOperationInformation =
        none) :
    outcome behaviour (registration :: rest) world info =
      outcome behaviour rest world info := by
  simp [outcome, callsOf, skipped]

theorem outcome_cons_some
    {registration : WduObOpRegistration} (rest : List WduObOpRegistration)
    (world : World) {info : ObPreOperation} {call : ObCall}
    (selected :
      registration.selectedCall .preOpInternal info.toObOperationInformation =
        some call) :
    outcome behaviour (registration :: rest) world info =
      outcome behaviour rest ((behaviour call world).apply info.access).1
        (info.withAccess ((behaviour call world).apply info.access).2) := by
  simp [outcome, callsOf, selected, filtered]

/-- No callback changes what the registrations behind it are tested on. -/
theorem preOpInternal_eq_outcome
    (registrations : List WduObOpRegistration) (world : World)
    {info : ObPreOperation} (handle : info.OnHandle) :
    preOpInternal behaviour registrations world info =
      .ok ((outcome behaviour registrations world info).1,
        info.withAccess (outcome behaviour registrations world info).2) := by
  induction registrations generalizing world info with
  | nil => simp [preOpInternal, outcome, callsOf, filtered]
  | cons registration rest inductionHypothesis =>
      cases selected :
          registration.selectedCall .preOpInternal
            info.toObOperationInformation with
      | none =>
          rw [outcome_cons_none behaviour rest world selected]
          simp only [preOpInternal, selected]
          exact inductionHypothesis world handle
      | some call =>
          rw [outcome_cons_some behaviour rest world selected]
          simp only [preOpInternal, selected,
            (behaviour call world).run_eq_apply handle]
          have later :=
            inductionHypothesis ((behaviour call world).apply info.access).1
              (handle.withAccess
                ((behaviour call world).apply info.access).2)
          simpa using later

theorem preOpInternal_append
    (before after : List WduObOpRegistration) (world between : World)
    {info narrowed : ObPreOperation}
    (first :
      preOpInternal behaviour before world info = .ok (between, narrowed)) :
    preOpInternal behaviour (before ++ after) world info =
      preOpInternal behaviour after between narrowed := by
  induction before generalizing world info with
  | nil =>
      cases first
      rfl
  | cons registration rest inductionHypothesis =>
      rw [List.cons_append]
      simp only [preOpInternal] at first ⊢
      cases selected :
          registration.selectedCall .preOpInternal
            info.toObOperationInformation with
      | none =>
          simp only [selected] at first ⊢
          exact inductionHypothesis world first
      | some call =>
          cases ran : (behaviour call world).run info with
          | error panic => simp [selected, ran] at first
          | ok result =>
              simp only [selected, ran] at first ⊢
              exact inductionHypothesis result.1 first

/-! ## Clearing bits -/

/-- The bits of one mask are among those of the other. -/
def Subset (first second : UInt32) : Prop :=
  first &&& second = first

theorem subset_refl (access : UInt32) : Subset access access := by
  simp [Subset]

theorem Subset.trans
    {first second third : UInt32}
    (left : Subset first second) (right : Subset second third) :
    Subset first third := by
  unfold Subset at *
  calc first &&& third
      = first &&& second &&& third := by rw [left]
    _ = first &&& (second &&& third) := UInt32.and_assoc first second third
    _ = first := by rw [right, left]

def OnlyClears : Prop :=
  ∀ call world access, Subset ((behaviour call world).apply access).2 access

variable {behaviour}

theorem OnlyClears.filtered
    (clears : OnlyClears behaviour) (calls : List ObCall) (world : World)
    (access : UInt32) :
    Subset (filtered behaviour calls world access).2 access := by
  induction calls generalizing world access with
  | nil => exact subset_refl access
  | cons call rest inductionHypothesis =>
      have later :=
        inductionHypothesis ((behaviour call world).apply access).1
          ((behaviour call world).apply access).2
      exact later.trans (clears call world access)

/-! ## The whole operation -/

/-- Everything that is not the access. -/
structure SameElsewhere (before after : ObPreOperation) : Prop where
  object : after.object = before.object
  objectType : after.objectType = before.objectType
  operation : after.operation = before.operation
  flags : after.flags = before.flags
  originalDesiredAccess :
    ObPreOpInfo.originalDesiredAccess after =
      ObPreOpInfo.originalDesiredAccess before
  callContext : after.callContext = before.callContext

theorem sameElsewhere_withAccess
    (info : ObPreOperation) (access : UInt32) :
    SameElsewhere info (info.withAccess access) where
  object := rfl
  objectType := rfl
  operation := rfl
  flags := rfl
  originalDesiredAccess := rfl
  callContext := rfl

/-- The access after an operation on a handle is that of the matching
callbacks in order, and the rest of the information is as it was. Callbacks
that only clear bits leave a subset. The registrations behind any point of the
list start from the access that those before it have left. -/
theorem preOpInternal_composes
    (behaviour : AccessBehaviour World) (callback : WduObCallback)
    (world : World) {info : ObPreOperation} (handle : info.OnHandle) :
    ∃ after,
      preOpInternal behaviour callback.operations world info =
          .ok
            ((filtered behaviour
                (callback.preOpInternal info.toObOperationInformation) world
                info.access).1,
              after) ∧
        ObPreOpInfo.desiredAccess after =
          .ok
            (filtered behaviour
              (callback.preOpInternal info.toObOperationInformation) world
              info.access).2 ∧
        SameElsewhere info after ∧
        (OnlyClears behaviour → Subset after.access info.access) ∧
        ∀ first second, callback.operations = first ++ second →
          ∃ between narrowed,
            preOpInternal behaviour first world info =
                .ok (between, narrowed) ∧
              ObPreOpInfo.desiredAccess narrowed =
                .ok (outcome behaviour first world info).2 ∧
              SameElsewhere info narrowed ∧
              preOpInternal behaviour callback.operations world info =
                preOpInternal behaviour second between narrowed := by
  have whole :=
    preOpInternal_eq_outcome behaviour callback.operations world handle
  refine
    ⟨_, whole, ?_, sameElsewhere_withAccess info _, ?_, ?_⟩
  · exact (handle.withAccess _).desiredAccess
  · intro clears
    rw [ObPreOperation.withAccess_access]
    exact clears.filtered _ world info.access
  · intro first second split
    have before := preOpInternal_eq_outcome behaviour first world handle
    refine
      ⟨_, _, before, (handle.withAccess _).desiredAccess,
        sameElsewhere_withAccess info _, ?_⟩
    rw [split]
    exact preOpInternal_append behaviour first second world _ before

/-- A callback that clears the lowest bit, and one that keeps the lower
four. -/
def maskBehaviour : AccessBehaviour Unit :=
  fun call world =>
    .desiredAccess fun access =>
      .setDesiredAccess
        (if call.callback = 1 then access &&& 0xFFFFFFFE else access &&& 0xF)
        (.done world)

/-- Two registrations for processes. -/
def maskCallback : WduObCallback where
  address := 0x100
  handle := nullPtr
  operations :=
    [⟨.process, 1, some 1, none, nullPtr⟩,
      ⟨.process, 3, some 2, none, nullPtr⟩]

/-- A handle to a process is created with all access. -/
def processHandle : ObPreOperation where
  operation := obOperationHandleCreate
  objectType := some .psProcessType
  callContext := nullPtr
  flags := 0
  object := 0x5000
  parameters := ⟨⟨0x1FFFFF, 0x1FFFFF, 0, 0⟩⟩

theorem processHandle_filtered :
    ∃ after,
      preOpInternal maskBehaviour maskCallback.operations () processHandle =
          .ok ((), after) ∧
        ObPreOpInfo.desiredAccess after = .ok 0xE ∧
        SameElsewhere processHandle after := by
  have handle : processHandle.OnHandle := ⟨.handleCreate, rfl⟩
  obtain ⟨after, ran, access, same, _⟩ :=
    preOpInternal_composes maskBehaviour maskCallback () handle
  exact ⟨after, ran, access, same⟩

end ObAccess

end WinDrvUtils

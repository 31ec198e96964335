import WinDrvUtils.Nt
import WinDrvUtils.Library.StepSystem
import Mathlib.Data.List.Basic

/-!
# Process, thread and image notifications

`WduPsCallback`, `WduThCallback` and `WduImageCallback` each keep one slot,
`callback`, and tell the kernel to set or remove a notify routine. The state
has both sides: the slot, and the list of routines the kernel holds on behalf
of the wrapper. The kernel answers every call with any status; it carries the
call out when the status is a success (`ntSuccess`).

The three wrappers are one pair of functions, `registerNotify` and
`unregisterNotify`, at three kernel interfaces. The two sides agree as long as
`register` is accepted only while the slot is empty; the slot is overwritten
without looking at what it holds, so a second accepted `register` leaves the
first routine in the kernel for good.
-/

namespace WinDrvUtils.Notify

open StepSystem

/-- One wrapper and the kernel's side of it. -/
structure NotifyState (Version Routine : Type) where
  callback : Option Version
  kernel : List Routine
  dropped : Bool

def NotifyState.constNew {Version Routine : Type} :
    NotifyState Version Routine :=
  ⟨none, [], false⟩

section KernelInterface

variable {Routine : Type}

def kernelSet (routine : Routine) (status : NTSTATUS)
    (kernel : List Routine) : List Routine :=
  if ntSuccess status then routine :: kernel else kernel

def kernelRemove (names : Routine → Bool) (status : NTSTATUS)
    (kernel : List Routine) : List Routine :=
  if ntSuccess status then kernel.eraseP names else kernel

end KernelInterface

section Wrapper

variable {Version Routine : Type}

/-- The body that the three `register` functions share: `setRoutine` is the
kernel call, made before the slot is written. -/
def registerNotify
    (setRoutine : List Routine → List Routine)
    (callback : Version) (status : NTSTATUS)
    (state : NotifyState Version Routine) :
    WduCallbackResult Unit × NotifyState Version Routine :=
  let kernel := setRoutine state.kernel
  if status ≠ statusSuccess then
    (.error (.registerError status), { state with kernel := kernel })
  else
    (.ok (), { state with kernel := kernel, callback := some callback })

/-- The body that the three `unregister` functions share. -/
def unregisterNotify
    (removeRoutine : Version → List Routine → List Routine)
    (status : NTSTATUS) (state : NotifyState Version Routine) :
    WduCallbackResult Unit × NotifyState Version Routine :=
  match state.callback with
  | none => (.error .notRegistered, state)
  | some callback =>
      let kernel := removeRoutine callback state.kernel
      if status ≠ statusSuccess then
        (.error (.unregisterError status), { state with kernel := kernel })
      else
        (.ok (), { state with kernel := kernel, callback := none })

end Wrapper

/-! ## `WduPsCallback` -/

inductive PsCallbackVersion where
  | notifyRoutine (routine : Option CodePtr)
  | notifyRoutineEx (routine : CodePtr)
  | notifyRoutineEx2 (routine : CodePtr)
  deriving DecidableEq, Repr

inductive PsRoutine where
  | plain (routine : Option CodePtr)
  | ex (routine : CodePtr)
  | ex2 (notifyType : Nat) (routine : CodePtr)
  deriving DecidableEq, Repr

def psCreateProcessNotifySubsystems : Nat := 0

def psSetProcessRoutine (routine : PsRoutine) (remove : Bool)
    (status : NTSTATUS) (kernel : List PsRoutine) : List PsRoutine :=
  if remove then kernelRemove (· == routine) status kernel
  else kernelSet routine status kernel

def controlCallbacks (callback : PsCallbackVersion) (remove : Bool)
    (status : NTSTATUS) (kernel : List PsRoutine) : List PsRoutine :=
  match callback with
  | .notifyRoutine routine =>
      psSetProcessRoutine (.plain routine) remove status kernel
  | .notifyRoutineEx routine =>
      psSetProcessRoutine (.ex routine) remove status kernel
  | .notifyRoutineEx2 routine =>
      psSetProcessRoutine (.ex2 psCreateProcessNotifySubsystems routine)
        remove status kernel

def WduPsCallback.register (callback : PsCallbackVersion)
    (status : NTSTATUS) (state : NotifyState PsCallbackVersion PsRoutine) :
    WduCallbackResult Unit × NotifyState PsCallbackVersion PsRoutine :=
  registerNotify (controlCallbacks callback false status)
    callback status state

def WduPsCallback.unregister
    (status : NTSTATUS) (state : NotifyState PsCallbackVersion PsRoutine) :
    WduCallbackResult Unit × NotifyState PsCallbackVersion PsRoutine :=
  unregisterNotify (fun callback => controlCallbacks callback true status)
    status state

/-! ## `WduThCallback` -/

inductive ThCallbackVersion where
  | notifyRoutine (routine : Option CodePtr)
  | notifyRoutineEx (notifyType : Nat) (routine : Option CodePtr)
  deriving DecidableEq, Repr

/-- A thread notify routine; `notifyType` is there when the extended
interface set it. -/
structure ThRoutine where
  notifyType : Option Nat
  routine : Option CodePtr
  deriving DecidableEq, Repr

def WduThCallback.register (callback : ThCallbackVersion)
    (status : NTSTATUS) (state : NotifyState ThCallbackVersion ThRoutine) :
    WduCallbackResult Unit × NotifyState ThCallbackVersion ThRoutine :=
  registerNotify
    (match callback with
      | .notifyRoutine routine =>
          kernelSet ⟨none, routine⟩ status
      | .notifyRoutineEx notifyType routine =>
          kernelSet ⟨some notifyType, routine⟩ status)
    callback status state

/-- `PsRemoveCreateThreadNotifyRoutine` names a routine by its address only,
whichever interface set it. -/
def WduThCallback.unregister
    (status : NTSTATUS) (state : NotifyState ThCallbackVersion ThRoutine) :
    WduCallbackResult Unit × NotifyState ThCallbackVersion ThRoutine :=
  unregisterNotify
    (fun callback =>
      let routine :=
        match callback with
        | .notifyRoutine routine => routine
        | .notifyRoutineEx _ routine => routine
      kernelRemove (fun entry => entry.routine == routine) status)
    status state

/-! ## `WduImageCallback` -/

/-- `register` takes an optional function pointer and asserts that there is
one. -/
def WduImageCallback.register (callback : Option CodePtr)
    (status : NTSTATUS) (state : NotifyState CodePtr CodePtr) :
    Except Panic (WduCallbackResult Unit × NotifyState CodePtr CodePtr) :=
  match callback with
  | none => .error (.assertion "callback.is_some()")
  | some routine =>
      .ok (registerNotify (kernelSet routine status) routine status state)

def WduImageCallback.unregister
    (status : NTSTATUS) (state : NotifyState CodePtr CodePtr) :
    WduCallbackResult Unit × NotifyState CodePtr CodePtr :=
  unregisterNotify
    (fun routine => kernelRemove (· == routine) status) status state

/-! ## Runs of a wrapper -/

inductive NotifyEvent (Argument : Type) where
  | register (callback : Argument) (status : NTSTATUS)
  | unregister (status : NTSTATUS)
  | drop (status : NTSTATUS)
  deriving DecidableEq, Repr

/-- The functions of one wrapper type, and the routine that each version
stands for in the kernel. -/
structure NotifyWrapper (Argument Version Routine : Type) where
  register : Argument → NTSTATUS → NotifyState Version Routine →
    Except Panic (WduCallbackResult Unit × NotifyState Version Routine)
  unregister : NTSTATUS → NotifyState Version Routine →
    WduCallbackResult Unit × NotifyState Version Routine
  routine : Version → Routine

def wduPsCallback :
    NotifyWrapper PsCallbackVersion PsCallbackVersion PsRoutine where
  register callback status state :=
    .ok (WduPsCallback.register callback status state)
  unregister := WduPsCallback.unregister
  routine
    | .notifyRoutine routine => .plain routine
    | .notifyRoutineEx routine => .ex routine
    | .notifyRoutineEx2 routine =>
        .ex2 psCreateProcessNotifySubsystems routine

def wduThCallback :
    NotifyWrapper ThCallbackVersion ThCallbackVersion ThRoutine where
  register callback status state :=
    .ok (WduThCallback.register callback status state)
  unregister := WduThCallback.unregister
  routine
    | .notifyRoutine routine => ⟨none, routine⟩
    | .notifyRoutineEx notifyType routine => ⟨some notifyType, routine⟩

def wduImageCallback : NotifyWrapper (Option CodePtr) CodePtr CodePtr where
  register := WduImageCallback.register
  unregister := WduImageCallback.unregister
  routine := id

section Runs

variable {Argument Version Routine : Type}

/-- What a call returns, and the state after it. `Drop` unregisters and
ignores the result; after it nothing can be called. A panic ends the run. -/
def NotifyWrapper.call (wrapper : NotifyWrapper Argument Version Routine)
    (state : NotifyState Version Routine) :
    NotifyEvent Argument →
      Option (WduCallbackResult Unit × NotifyState Version Routine)
  | .register callback status =>
      if state.dropped then none
      else (wrapper.register callback status state).toOption
  | .unregister status =>
      if state.dropped then none
      else some (wrapper.unregister status state)
  | .drop status =>
      if state.dropped then none
      else
        let (result, next) := wrapper.unregister status state
        some (result, { next with dropped := true })

def NotifyWrapper.step (wrapper : NotifyWrapper Argument Version Routine)
    (state : NotifyState Version Routine) (event : NotifyEvent Argument) :
    Option (NotifyState Version Routine) :=
  (wrapper.call state event).map Prod.snd

/-! ## The two sides -/

/-- The routines that the kernel holds are exactly the content of the slot,
none or one. -/
def NotifyWrapper.Tracked (wrapper : NotifyWrapper Argument Version Routine)
    (state : NotifyState Version Routine) : Prop :=
  state.kernel = (state.callback.map wrapper.routine).toList

def NotifyEvent.isRemoval : NotifyEvent Argument → Bool
  | .register _ _ => false
  | .unregister _ => true
  | .drop _ => true

/-- A call that fails changes neither side, and after an `unregister`, by the
driver or by `Drop`, that returns `Ok` the kernel holds nothing. -/
def NotifyWrapper.FaithfulStep
    (wrapper : NotifyWrapper Argument Version Routine)
    (state : NotifyState Version Routine) (event : NotifyEvent Argument)
    (next : NotifyState Version Routine) : Prop :=
  ∀ result, wrapper.call state event = some (result, next) →
    (result ≠ .ok () →
      next.kernel = state.kernel ∧ next.callback = state.callback) ∧
    (event.isRemoval → result = .ok () → next.kernel = [])

/-- The two sides agree in every state of the run, and every call of it is
faithful. -/
def NotifyWrapper.KeepsBothSides
    (wrapper : NotifyWrapper Argument Version Routine)
    (events : List (NotifyEvent Argument)) : Prop :=
  Always wrapper.step wrapper.Tracked .constNew events ∧
    EveryStep wrapper.step wrapper.FaithfulStep .constNew events

/-- What the driver and the kernel must keep to: `register` is accepted only
while the slot is empty, and an accepted call is answered with
`STATUS_SUCCESS`. -/
def InOrder (state : NotifyState Version Routine) :
    NotifyEvent Argument → Prop
  | .register _ status => PlainStatus status ∧
      (ntSuccess status → state.callback = none)
  | .unregister status => state.callback ≠ none → PlainStatus status
  | .drop status => state.callback ≠ none → PlainStatus status

/-- The kernel call of `register` sets the routine of its version, and the
kernel call of `unregister` names that routine. -/
structure NotifyWrapper.Lawful
    (wrapper : NotifyWrapper Argument Version Routine)
    (names : Version → Routine → Bool) : Prop where
  register_eq : ∀ {argument status state returned},
    wrapper.register argument status state = .ok returned →
      ∃ callback, returned =
        registerNotify (kernelSet (wrapper.routine callback) status)
          callback status state
  unregister_eq : ∀ status state,
    wrapper.unregister status state =
      unregisterNotify (fun callback => kernelRemove (names callback) status)
        status state
  named : ∀ callback, names callback (wrapper.routine callback) = true

/-! ## One call -/

theorem registerNotify_cases
    (routine : Routine) (callback : Version) (status : NTSTATUS)
    (state : NotifyState Version Routine) :
    (¬ ntSuccess status ∧
      registerNotify (kernelSet routine status) callback status state =
        (.error (.registerError status), state)) ∨
    (status = statusSuccess ∧
      registerNotify (kernelSet routine status) callback status state =
        (.ok (), { state with
          kernel := routine :: state.kernel, callback := some callback })) ∨
    (¬ PlainStatus status ∧
      registerNotify (kernelSet routine status) callback status state =
        (.error (.registerError status),
          { state with kernel := routine :: state.kernel })) := by
  by_cases accepted : ntSuccess status
  · by_cases plain : status = statusSuccess
    · subst plain
      exact Or.inr (Or.inl ⟨rfl, by simp [registerNotify, kernelSet]⟩)
    · refine Or.inr (Or.inr ⟨not_plainStatus accepted plain, ?_⟩)
      simp [registerNotify, kernelSet, accepted, plain]
  · have other := ne_statusSuccess_of_refused accepted
    exact Or.inl ⟨accepted, by
      simp [registerNotify, kernelSet, accepted, other]⟩

theorem unregisterNotify_cases
    {names : Version → Routine → Bool} {routine : Version → Routine}
    (named : ∀ callback, names callback (routine callback) = true)
    (status : NTSTATUS) {state : NotifyState Version Routine}
    (tracked : state.kernel = (state.callback.map routine).toList) :
    let returned :=
      unregisterNotify (fun callback => kernelRemove (names callback) status)
        status state
    (state.callback = none ∧ returned = (.error .notRegistered, state)) ∨
    (∃ callback, state.callback = some callback ∧
      ((¬ ntSuccess status ∧
          returned = (.error (.unregisterError status), state)) ∨
        (status = statusSuccess ∧
          returned =
            (.ok (), { state with kernel := [], callback := none })) ∨
        (¬ PlainStatus status ∧
          returned = (.error (.unregisterError status),
            { state with kernel := [] })))) := by
  intro returned
  cases held : state.callback with
  | none =>
      exact Or.inl ⟨rfl, by simp [returned, unregisterNotify, held]⟩
  | some callback =>
      have kernel : state.kernel = [routine callback] := by
        simpa [held] using tracked
      refine Or.inr ⟨callback, rfl, ?_⟩
      by_cases accepted : ntSuccess status
      · by_cases plain : status = statusSuccess
        · subst plain
          refine Or.inr (Or.inl ⟨rfl, ?_⟩)
          simp [returned, unregisterNotify, held, kernelRemove, kernel, named]
        · refine Or.inr (Or.inr ⟨not_plainStatus accepted plain, ?_⟩)
          simp [returned, unregisterNotify, held, kernelRemove, kernel, named,
            accepted, plain]
      · have other := ne_statusSuccess_of_refused accepted
        refine Or.inl ⟨accepted, ?_⟩
        simp only [returned, unregisterNotify, held, kernelRemove, accepted,
          if_false, if_pos other]
        rw [← held]

/-- Everything a call can do from a state in which the two sides agree: fail
and change nothing; set a routine; remove the routine; or be carried out by a
kernel that reports it with a success other than `STATUS_SUCCESS`. -/
inductive Outcome (wrapper : NotifyWrapper Argument Version Routine)
    (state : NotifyState Version Routine) :
    NotifyEvent Argument → WduCallbackResult Unit →
      NotifyState Version Routine → Prop
  | failed {event error next}
      (inOrder : InOrder state event)
      (kernel : next.kernel = state.kernel)
      (callback : next.callback = state.callback) :
      Outcome wrapper state event (.error error) next
  | set {argument callback next}
      (kernel : next.kernel = wrapper.routine callback :: state.kernel)
      (slot : next.callback = some callback) :
      Outcome wrapper state (.register argument statusSuccess) (.ok ()) next
  | removed {event next}
      (inOrder : InOrder state event)
      (removal : event.isRemoval = true)
      (kernel : next.kernel = [])
      (slot : next.callback = none) :
      Outcome wrapper state event (.ok ()) next
  | unreported {event error next}
      (outOfOrder : ¬ InOrder state event)
      (apart : ¬ wrapper.Tracked next) :
      Outcome wrapper state event (.error error) next

variable {wrapper : NotifyWrapper Argument Version Routine}
  {names : Version → Routine → Bool}

theorem outcome_register
    (lawful : wrapper.Lawful names)
    {argument : Argument} {status : NTSTATUS}
    {state next : NotifyState Version Routine}
    {result : WduCallbackResult Unit}
    (tracked : wrapper.Tracked state)
    (returned : wrapper.register argument status state = .ok (result, next)) :
    Outcome wrapper state (.register argument status) result next := by
  obtain ⟨callback, same⟩ := lawful.register_eq returned
  rcases registerNotify_cases (wrapper.routine callback) callback status state
    with ⟨refused, shape⟩ | ⟨plain, shape⟩ | ⟨other, shape⟩
  · cases same.trans shape
    exact .failed
      ⟨fun success => absurd success refused,
        fun success => absurd success refused⟩ rfl rfl
  · cases same.trans shape
    subst plain
    exact .set rfl rfl
  · cases same.trans shape
    refine .unreported (fun inOrder => other inOrder.1) ?_
    intro apart
    have lengths := congrArg List.length apart
    simp only [List.length_cons] at lengths
    rw [show state.kernel = _ from tracked] at lengths
    omega

theorem outcome_unregister
    (lawful : wrapper.Lawful names)
    {event : NotifyEvent Argument} {status : NTSTATUS}
    {state next : NotifyState Version Routine}
    {result : WduCallbackResult Unit}
    (shape : event = .unregister status ∨ event = .drop status)
    (tracked : wrapper.Tracked state)
    (returned : wrapper.unregister status state = (result, next)) :
    Outcome wrapper state event result next := by
  have inOrder_of :
      (state.callback ≠ none → PlainStatus status) →
        InOrder state event := by
    rcases shape with rfl | rfl <;> exact id
  have of_inOrder :
      InOrder state event →
        state.callback ≠ none → PlainStatus status := by
    rcases shape with rfl | rfl <;> exact id
  have removal : event.isRemoval = true := by
    rcases shape with rfl | rfl <;> rfl
  rw [lawful.unregister_eq] at returned
  rcases unregisterNotify_cases lawful.named status tracked with
    ⟨empty, same⟩ | ⟨callback, held, answered⟩
  · cases same.symm.trans returned
    exact .failed (inOrder_of fun full => absurd empty full) rfl rfl
  · rcases answered with ⟨refused, same⟩ | ⟨plain, same⟩ | ⟨other, same⟩
    · cases same.symm.trans returned
      exact .failed
        (inOrder_of fun _ success => absurd success refused) rfl rfl
    · cases same.symm.trans returned
      exact .removed (inOrder_of fun _ _ => plain) removal rfl rfl
    · cases same.symm.trans returned
      refine .unreported (fun inOrder => other (of_inOrder inOrder ?_)) ?_
      · rw [held]
        exact Option.some_ne_none callback
      · intro apart
        simp [NotifyWrapper.Tracked, held] at apart

theorem Outcome.markDropped
    {state next : NotifyState Version Routine}
    {event : NotifyEvent Argument} {result : WduCallbackResult Unit}
    (outcome : Outcome wrapper state event result next) :
    Outcome wrapper state event result { next with dropped := true } := by
  cases outcome with
  | failed inOrder kernel callback => exact .failed inOrder kernel callback
  | set kernel slot => exact .set kernel slot
  | removed inOrder removal kernel slot =>
      exact .removed inOrder removal kernel slot
  | unreported outOfOrder apart => exact .unreported outOfOrder apart

theorem outcome_call
    (lawful : wrapper.Lawful names)
    {state next : NotifyState Version Routine}
    {event : NotifyEvent Argument} {result : WduCallbackResult Unit}
    (tracked : wrapper.Tracked state)
    (called : wrapper.call state event = some (result, next)) :
    Outcome wrapper state event result next := by
  have alive : state.dropped = false := by
    cases dropped : state.dropped with
    | false => rfl
    | true => cases event <;> simp [NotifyWrapper.call, dropped] at called
  cases event with
  | register argument status =>
      simp only [NotifyWrapper.call, alive] at called
      cases returned : wrapper.register argument status state with
      | error panic =>
          simp [returned, Except.toOption] at called
      | ok pair =>
          simp only [returned, Except.toOption, Bool.false_eq_true, if_false,
            Option.some.injEq] at called
          exact outcome_register lawful tracked (called ▸ returned)
  | unregister status =>
      simp only [NotifyWrapper.call, alive, Bool.false_eq_true, if_false,
        Option.some.injEq] at called
      exact outcome_unregister lawful (.inl rfl) tracked called
  | drop status =>
      simp only [NotifyWrapper.call, alive, Bool.false_eq_true, if_false,
        Option.some.injEq, Prod.mk.injEq] at called
      obtain ⟨rfl, rfl⟩ := called
      exact
        (outcome_unregister lawful (.inr rfl) tracked rfl).markDropped

theorem step_eq_some
    {state next : NotifyState Version Routine}
    {event : NotifyEvent Argument} :
    wrapper.step state event = some next ↔
      ∃ result, wrapper.call state event = some (result, next) := by
  simp [NotifyWrapper.step]

theorem tracked_of_inOrder
    (lawful : wrapper.Lawful names)
    (state : NotifyState Version Routine) (event : NotifyEvent Argument)
    (next : NotifyState Version Routine)
    (tracked : wrapper.Tracked state) (inOrder : InOrder state event)
    (stepped : wrapper.step state event = some next) :
    wrapper.Tracked next := by
  obtain ⟨result, called⟩ := step_eq_some.mp stepped
  cases outcome_call lawful tracked called with
  | failed _ kernel callback =>
      rw [NotifyWrapper.Tracked, kernel, callback]
      exact tracked
  | set kernel slot =>
      have empty : state.callback = none := inOrder.2 (by simp)
      have nothing : state.kernel = [] := by
        simpa [NotifyWrapper.Tracked, empty] using tracked
      simp [NotifyWrapper.Tracked, kernel, slot, nothing]
  | removed _ _ kernel slot =>
      simp [NotifyWrapper.Tracked, kernel, slot]
  | unreported outOfOrder _ =>
      exact absurd inOrder outOfOrder

theorem inOrder_of_tracked
    (lawful : wrapper.Lawful names)
    (state : NotifyState Version Routine) (event : NotifyEvent Argument)
    (next : NotifyState Version Routine)
    (tracked : wrapper.Tracked state)
    (stepped : wrapper.step state event = some next)
    (kept : wrapper.Tracked next) :
    InOrder state event := by
  obtain ⟨result, called⟩ := step_eq_some.mp stepped
  cases outcome_call lawful tracked called with
  | failed inOrder _ _ => exact inOrder
  | set kernel slot =>
      refine ⟨fun _ => rfl, fun _ => ?_⟩
      rw [NotifyWrapper.Tracked, kernel, slot] at kept
      have nothing : state.kernel = [] := by
        simpa using kept
      rw [NotifyWrapper.Tracked, nothing] at tracked
      cases held : state.callback with
      | none => rfl
      | some callback => simp [held] at tracked
  | removed inOrder _ _ _ => exact inOrder
  | unreported _ apart => exact absurd kept apart

theorem faithful_of_inOrder
    (lawful : wrapper.Lawful names)
    (state : NotifyState Version Routine) (event : NotifyEvent Argument)
    (next : NotifyState Version Routine)
    (tracked : wrapper.Tracked state) (inOrder : InOrder state event)
    (_stepped : wrapper.step state event = some next) :
    wrapper.FaithfulStep state event next := by
  intro result called
  cases outcome_call lawful tracked called with
  | failed _ kernel callback =>
      exact ⟨fun _ => ⟨kernel, callback⟩, fun _ success => by cases success⟩
  | set _ _ =>
      exact ⟨fun failure => absurd rfl failure, fun removal => by cases removal⟩
  | removed _ _ kernel _ =>
      exact ⟨fun failure => absurd rfl failure, fun _ _ => kernel⟩
  | unreported outOfOrder _ =>
      exact absurd inOrder outOfOrder

theorem keepsBothSides_iff
    (lawful : wrapper.Lawful names) (events : List (NotifyEvent Argument)) :
    wrapper.KeepsBothSides events ↔
      Guarded wrapper.step InOrder .constNew events := by
  have initial :
      wrapper.Tracked (.constNew : NotifyState Version Routine) := rfl
  have exact_iff :
      Always wrapper.step wrapper.Tracked .constNew events ↔
        Guarded wrapper.step InOrder .constNew events :=
    always_iff_guarded (fun _ tracked => tracked)
      (tracked_of_inOrder lawful) (inOrder_of_tracked lawful) initial
  constructor
  · intro kept
    obtain ⟨always, _⟩ := kept
    exact exact_iff.mp always
  · intro guarded
    exact
      ⟨exact_iff.mpr guarded,
        everyStep_of_guarded (tracked_of_inOrder lawful)
          (faithful_of_inOrder lawful) initial guarded⟩

end Runs

/-! ## The three wrappers -/

def psNames (callback : PsCallbackVersion) (entry : PsRoutine) : Bool :=
  entry == wduPsCallback.routine callback

def thNames (callback : ThCallbackVersion) (entry : ThRoutine) : Bool :=
  entry.routine == (wduThCallback.routine callback).routine

theorem wduPsCallback_lawful : wduPsCallback.Lawful psNames where
  register_eq := by
    intro argument status state returned called
    cases called
    refine ⟨argument, ?_⟩
    cases argument <;> rfl
  unregister_eq := by
    intro status state
    obtain ⟨callback, kernel, dropped⟩ := state
    cases callback with
    | none => rfl
    | some callback => cases callback <;> rfl
  named := by
    intro callback
    simp [psNames]

theorem wduThCallback_lawful : wduThCallback.Lawful thNames where
  register_eq := by
    intro argument status state returned called
    cases called
    refine ⟨argument, ?_⟩
    cases argument <;> rfl
  unregister_eq := by
    intro status state
    obtain ⟨callback, kernel, dropped⟩ := state
    cases callback with
    | none => rfl
    | some callback => cases callback <;> rfl
  named := by
    intro callback
    simp [thNames]

theorem wduImageCallback_lawful :
    wduImageCallback.Lawful fun routine entry => entry == routine where
  register_eq := by
    intro argument status state returned called
    cases argument with
    | none => cases called
    | some routine =>
        cases called
        exact ⟨routine, rfl⟩
  unregister_eq := by
    intro status state
    rfl
  named := by
    intro routine
    simp [wduImageCallback]

/-- For each wrapper and every run of it, the kernel holds exactly the
content of the slot, and every call is faithful, if and only if `register` is
accepted only while the slot is empty and accepted calls are answered with
`STATUS_SUCCESS`. -/
theorem notifications_tracked_iff
    (psEvents : List (NotifyEvent PsCallbackVersion))
    (thEvents : List (NotifyEvent ThCallbackVersion))
    (imageEvents : List (NotifyEvent (Option CodePtr))) :
    (wduPsCallback.KeepsBothSides psEvents ↔
      Guarded wduPsCallback.step InOrder .constNew psEvents) ∧
    (wduThCallback.KeepsBothSides thEvents ↔
      Guarded wduThCallback.step InOrder .constNew thEvents) ∧
    (wduImageCallback.KeepsBothSides imageEvents ↔
      Guarded wduImageCallback.step InOrder .constNew imageEvents) :=
  ⟨keepsBothSides_iff wduPsCallback_lawful psEvents,
    keepsBothSides_iff wduThCallback_lawful thEvents,
    keepsBothSides_iff wduImageCallback_lawful imageEvents⟩

def secondRegister : List (NotifyEvent PsCallbackVersion) :=
  [.register (.notifyRoutineEx 1) statusSuccess,
    .register (.notifyRoutineEx 2) statusSuccess,
    .unregister statusSuccess]

/-- The first routine stays in the kernel with nothing in the slot. -/
theorem secondRegister_leaks :
    run wduPsCallback.step .constNew secondRegister =
        some ⟨none, [.ex 1], false⟩ ∧
      ¬ wduPsCallback.KeepsBothSides secondRegister := by
  have reached :
      run wduPsCallback.step .constNew secondRegister =
        some ⟨none, [.ex 1], false⟩ := by
    rfl
  refine ⟨reached, fun kept => ?_⟩
  have tracked := kept.1.last reached
  simp [NotifyWrapper.Tracked] at tracked

end WinDrvUtils.Notify

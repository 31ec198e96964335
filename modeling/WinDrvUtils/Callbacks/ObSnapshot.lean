import WinDrvUtils.Callbacks.HandleLifecycle
import WinDrvUtils.Callbacks.ObDispatch

/-!
# Registered object callbacks

The kernel keeps the native entries that `register` made, and the routines of
the library look into the list that the wrapper has when they run. A
registration that is pushed in between is in the list and has no entry; it is
invoked all the same when the entry of another one matches.

A run pushes, registers and unregisters, under every answer of the kernel.
`snapshots` remembers the list for each `register` that returned `Ok`. Of a
state it is asked what any operation would make the routines call, through
each registration that the kernel has.
-/

namespace WinDrvUtils

/-! ## Native registrations -/

namespace ObCallbackRegistration

/-- The entries that the kernel was told of. -/
def told (registration : ObCallbackRegistration) :
    List ObOperationRegistration :=
  registration.operationRegistration.take
    registration.operationRegistrationCount.toNat

/-- An operation invokes a routine through this registration. -/
def Reaches (registration : ObCallbackRegistration) (kind : ObTrampoline)
    (info : ObOperationInformation) : Prop :=
  ∃ entry ∈ registration.told,
    entry.matchesType info = true ∧ (entry.routine kind).isSome = true

/-- `register` made the registration: its context is the wrapper, and each of
its entries has the routine for each kind of operation, or none. -/
structure MadeBy (registration : ObCallbackRegistration)
    (address : Address) : Prop where
  context : registration.registrationContext = address
  routines :
    ∀ entry ∈ registration.operationRegistration, ∀ kind trampoline,
      entry.routine kind = some trampoline → trampoline = kind

/-- Behind each entry that an operation reaches is the whole list. -/
theorem MadeBy.invoke
    {registration : ObCallbackRegistration} {address : Address}
    (made : registration.MadeBy address) {entry : ObOperationRegistration}
    (member : entry ∈ registration.told) {kind : ObTrampoline}
    {info : ObOperationInformation}
    (matched : entry.matchesType info = true)
    (runs : (entry.routine kind).isSome = true) (callback : WduObCallback) :
    entry.invoke kind info callback =
      expectedCalls callback.operations kind info := by
  obtain ⟨trampoline, routine⟩ := Option.isSome_iff_exists.mp runs
  have known := List.mem_of_mem_take member
  obtain rfl := made.routines entry known kind trampoline routine
  rw [ObOperationRegistration.invoke, if_pos matched, routine]
  cases trampoline with
  | preOpInternal => rfl
  | postOpInternal => rfl

end ObCallbackRegistration

/-- Each entry was made of a registration. -/
theorem exists_intoNative
    {registrations : List WduObOpRegistration}
    {entries : List ObOperationRegistration}
    (made :
      List.Forall₂ (fun registration entry =>
        registration.intoNative = .ok entry) registrations entries)
    {entry : ObOperationRegistration} (member : entry ∈ entries) :
    ∃ registration : WduObOpRegistration,
      registration.intoNative = .ok entry := by
  induction made with
  | nil => exact absurd member List.not_mem_nil
  | cons native _ inductionHypothesis =>
      rcases List.mem_cons.mp member with rfl | later
      · exact ⟨_, native⟩
      · exact inductionHypothesis later

theorem WduObCallback.madeBy_nativeRegistration
    {callback : WduObCallback} {altitude : List UInt16}
    {registration : ObCallbackRegistration}
    (native : callback.nativeRegistration altitude = .ok registration) :
    registration.MadeBy callback.address := by
  unfold nativeRegistration at native
  split at native
  · cases native
  · next entries made =>
      cases native
      refine ⟨rfl, ?_⟩
      intro entry member kind trampoline routine
      obtain ⟨source, intoNative⟩ :=
        exists_intoNative (mapM_ok_forall₂ made) member
      rw [routine_of_intoNative kind intoNative] at routine
      split at routine
      · exact (Option.some.inj routine).symm
      · cases routine

/-! ## Runs -/

namespace ObSnapshot

open StepSystem

inductive Event where
  | pushOpRegistration (registration : WduObOpRegistration)
  | register (altitude : List UInt16) (answer : ObAnswer)
  | unregister
  deriving DecidableEq, Repr

structure System where
  callback : WduObCallback
  kernel : ObKernel
  /-- The list when `register` returned `Ok` with a handle, until the handle
  is unregistered. -/
  snapshots : Address → List WduObOpRegistration

def System.new (address : Address) : System :=
  ⟨WduObCallback.constNew address, ⟨Ledger.empty, []⟩, fun _ => []⟩

/-- One call. Operations change nothing here, and may come at any time. -/
def step (system : System) : Event → Option System
  | .pushOpRegistration registration =>
      some { system with
        callback := system.callback.pushOpRegistration registration }
  | .register altitude answer =>
      if WduObCallback.possible system.kernel answer then
        match system.callback.register altitude answer system.kernel with
        | .error _ => none
        | .ok (.error _, callback, kernel) =>
            some ⟨callback, kernel, system.snapshots⟩
        | .ok (.ok (), callback, kernel) =>
            some
              ⟨callback, kernel,
                Function.update system.snapshots callback.handle
                  callback.operations⟩
      else none
  | .unregister =>
      match system.callback.unregister system.kernel with
      | (.error _, callback, kernel) =>
          some ⟨callback, kernel, system.snapshots⟩
      | (.ok (), callback, kernel) =>
          some
            ⟨callback, kernel,
              Function.update system.snapshots system.callback.handle []⟩

/-- Whatever operation comes now, a routine that it invokes through a live
registration calls the callbacks that were registered with it. -/
def OnlyRegistered (system : System) : Prop :=
  ∀ live ∈ system.kernel.registrations, ∀ entry ∈ live.2.told,
    ∀ kind (operation : ObOperation) objectType
      (memory : Address → WduObCallback),
      entry.matchesType ⟨operation.code, objectType⟩ = true →
        (entry.routine kind).isSome = true →
          entry.invoke kind ⟨operation.code, objectType⟩
              (Function.update memory system.callback.address
                system.callback live.2.registrationContext) =
            expectedCalls (system.snapshots live.1) kind
              ⟨operation.code, objectType⟩

/-- The operations that reach a registration select the same calls of two
lists. -/
def SameCalls (registration : ObCallbackRegistration)
    (first second : List WduObOpRegistration) : Prop :=
  ∀ kind (operation : ObOperation) objectType,
    registration.Reaches kind ⟨operation.code, objectType⟩ →
      expectedCalls first kind ⟨operation.code, objectType⟩ =
        expectedCalls second kind ⟨operation.code, objectType⟩

/-- The operations that reach a registration select nothing of a list. -/
def Silent (registration : ObCallbackRegistration)
    (operations : List WduObOpRegistration) : Prop :=
  SameCalls registration operations []

/-- What is pushed is not selected by an operation that reaches a live
registration; and the kernel accepts with `STATUS_SUCCESS` only, unless what
it accepts is silent. -/
def InOrder (system : System) : Event → Prop
  | .pushOpRegistration registration =>
      ∀ live ∈ system.kernel.registrations, Silent live.2 [registration]
  | .register altitude answer =>
      ∀ registration,
        system.callback.nativeRegistration altitude = .ok registration →
          system.callback.operations ≠ [] ∧ answer.reserved = true ∧
              ntSuccess answer.status →
            answer.status = statusSuccess ∨
              Silent registration system.callback.operations
  | .unregister => True

/-- The kernel's registrations are of live handles and of this wrapper, and
the list as it is now calls what the registered one did. -/
structure Invariant (system : System) : Prop where
  live :
    ∀ live ∈ system.kernel.registrations,
      live.1 ∈ system.kernel.handles.live
  made :
    ∀ live ∈ system.kernel.registrations,
      live.2.MadeBy system.callback.address
  recorded :
    ∀ handle, handle ∉ system.kernel.handles.live →
      system.snapshots handle = []
  same :
    ∀ live ∈ system.kernel.registrations,
      SameCalls live.2 system.callback.operations
        (system.snapshots live.1)

/-- What the routines call is known from the list and the entries. -/
theorem onlyRegistered_iff
    {system : System}
    (made :
      ∀ live ∈ system.kernel.registrations,
        live.2.MadeBy system.callback.address) :
    OnlyRegistered system ↔
      ∀ live ∈ system.kernel.registrations,
        SameCalls live.2 system.callback.operations
          (system.snapshots live.1) := by
  have calls :
      ∀ live ∈ system.kernel.registrations, ∀ entry ∈ live.2.told,
        ∀ kind info (memory : Address → WduObCallback),
          entry.matchesType info = true → (entry.routine kind).isSome = true →
            entry.invoke kind info
                (Function.update memory system.callback.address
                  system.callback live.2.registrationContext) =
              expectedCalls system.callback.operations kind info := by
    intro live member entry told kind info memory matched runs
    have ofWrapper := made live member
    rw [ofWrapper.context, Function.update_self]
    exact ofWrapper.invoke told matched runs system.callback
  constructor
  · rintro only live member kind operation objectType
      ⟨entry, told, matched, runs⟩
    have memory : Address → WduObCallback := fun _ => system.callback
    rw [← calls live member entry told kind _ memory matched runs]
    exact
      only live member entry told kind operation objectType memory matched
        runs
  · intro same live member entry told kind operation objectType memory
      matched runs
    rw [calls live member entry told kind _ memory matched runs]
    exact
      same live member kind operation objectType
        ⟨entry, told, matched, runs⟩

theorem Invariant.onlyRegistered
    {system : System} (holds : Invariant system) : OnlyRegistered system :=
  (onlyRegistered_iff holds.made).mpr holds.same

/-- More of a list calls more, unless the rest is silent. -/
theorem sameCalls_append_iff
    {registration : ObCallbackRegistration}
    {operations others snapshot : List WduObOpRegistration}
    (same : SameCalls registration operations snapshot) :
    SameCalls registration (operations ++ others) snapshot ↔
      Silent registration others := by
  refine forall₃_congr fun kind operation objectType => ?_
  refine forall_congr' fun reaches => ?_
  rw [← same kind operation objectType reaches]
  unfold expectedCalls
  rw [List.filterMap_append, List.append_right_eq_self]
  rfl

/-- All that one step does. -/
inductive Effect (system : System) : Event → System → Prop
  | pushed {registration} :
      Effect system (.pushOpRegistration registration)
        { system with
          callback := system.callback.pushOpRegistration registration }
  | refused {altitude answer}
      (refused :
        ¬ (system.callback.operations ≠ [] ∧ answer.reserved = true ∧
          ntSuccess answer.status)) :
      Effect system (.register altitude answer) system
  | registered {altitude answer registration}
      (native :
        system.callback.nativeRegistration altitude = .ok registration)
      (accepted :
        system.callback.operations ≠ [] ∧ answer.reserved = true ∧
          ntSuccess answer.status)
      (fresh : answer.handle ∉ system.kernel.handles.live) :
      Effect system (.register altitude answer)
        ⟨{ system.callback with handle := answer.handle },
          ⟨system.kernel.handles.issue answer.handle,
            (answer.handle, registration) :: system.kernel.registrations⟩,
          if answer.status = statusSuccess then
            Function.update system.snapshots answer.handle
              system.callback.operations
          else system.snapshots⟩
  | idle : Effect system .unregister system
  | unregistered :
      Effect system .unregister
        ⟨{ system.callback with handle := nullPtr },
          obUnRegisterCallbacks system.callback.handle system.kernel,
          Function.update system.snapshots system.callback.handle []⟩

theorem effect_of_step
    {system next : System} {event : Event}
    (stepped : step system event = some next) :
    Effect system event next := by
  cases event with
  | pushOpRegistration registration =>
      cases stepped
      exact .pushed
  | register altitude answer =>
      obtain ⟨answered, stepped⟩ :=
        Option.ite_none_right_eq_some.mp stepped
      cases returned :
          system.callback.register altitude answer system.kernel with
      | error panic =>
          rw [returned] at stepped
          cases stepped
      | ok triple =>
          obtain ⟨result, callback, kernel⟩ := triple
          rw [returned] at stepped
          rcases WduObCallback.register_effect returned with
            ⟨rfl, rfl, ⟨error, rfl⟩, refused⟩ |
              ⟨registration, native, accepted, rfl, rfl, rfl⟩
          · cases stepped
            exact .refused refused
          · have fresh := (answered accepted.2.2).2
            have effect := Effect.registered native accepted fresh
            by_cases plain : answer.status = statusSuccess
            · rw [if_pos plain] at stepped effect
              cases stepped
              exact effect
            · rw [if_neg plain] at stepped effect
              cases stepped
              exact effect
  | unregister =>
      by_cases null : system.callback.handle = nullPtr
      · simp only [step, WduObCallback.unregister, if_pos null,
          Option.some.injEq] at stepped
        rw [← stepped]
        exact .idle
      · simp only [step, WduObCallback.unregister, if_neg null,
          Option.some.injEq] at stepped
        rw [← stepped]
        exact .unregistered

/-! ## The invariant -/

theorem invariant_new (address : Address) :
    Invariant (System.new address) where
  live := by
    intro live member
    exact absurd member List.not_mem_nil
  made := by
    intro live member
    exact absurd member List.not_mem_nil
  recorded := by
    intro handle _
    rfl
  same := by
    intro live member
    exact absurd member List.not_mem_nil

section Accepted

variable {system : System} {altitude : List UInt16} {handle : Address}
    {registration : ObCallbackRegistration}

/-- A new handle is none of those that the kernel has registrations for. -/
theorem Invariant.ne_fresh
    (holds : Invariant system)
    (fresh : handle ∉ system.kernel.handles.live)
    {live : Address × ObCallbackRegistration}
    (member : live ∈ system.kernel.registrations) : live.1 ≠ handle := by
  rintro rfl
  exact fresh (holds.live live member)

/-- The registration that the kernel has accepted, and those it had. -/
theorem Invariant.made_cons
    (holds : Invariant system)
    (native :
      system.callback.nativeRegistration altitude = .ok registration) :
    ∀ live ∈ (handle, registration) :: system.kernel.registrations,
      live.2.MadeBy system.callback.address := by
  intro live member
  rcases List.mem_cons.mp member with rfl | earlier
  · exact WduObCallback.madeBy_nativeRegistration native
  · exact holds.made live earlier

/-- The kernel accepts: the new handle is issued, and its snapshot calls
what the list does. -/
theorem Invariant.issued
    (holds : Invariant system)
    (native :
      system.callback.nativeRegistration altitude = .ok registration)
    (fresh : handle ∉ system.kernel.handles.live)
    {snapshots : Address → List WduObOpRegistration}
    (others : ∀ other, other ≠ handle →
      snapshots other = system.snapshots other)
    (same :
      SameCalls registration system.callback.operations
        (snapshots handle)) :
    Invariant
      ⟨{ system.callback with handle := handle },
        ⟨system.kernel.handles.issue handle,
          (handle, registration) :: system.kernel.registrations⟩,
        snapshots⟩ where
  live := by
    intro live member
    rcases List.mem_cons.mp member with rfl | earlier
    · exact List.mem_cons_self
    · exact List.mem_cons_of_mem handle (holds.live live earlier)
  made := holds.made_cons native
  recorded := by
    intro other dead
    rw [Ledger.issue_live, List.mem_cons, not_or] at dead
    exact (others other dead.1).trans (holds.recorded other dead.2)
  same := by
    intro live member
    rcases List.mem_cons.mp member with rfl | earlier
    · exact same
    · have known := holds.same live earlier
      rw [← others live.1 (holds.ne_fresh fresh earlier)] at known
      exact known

end Accepted

theorem Invariant.unregistered
    {system : System} (holds : Invariant system) (handle : Address) :
    Invariant
      ⟨{ system.callback with handle := nullPtr },
        obUnRegisterCallbacks handle system.kernel,
        Function.update system.snapshots handle []⟩ where
  live := by
    intro live member
    obtain ⟨earlier, kept⟩ := List.mem_filter.mp member
    exact
      Ledger.mem_live_release_of_ne (holds.live live earlier)
        (bne_iff_ne.mp kept)
  made := by
    intro live member
    exact holds.made live (List.mem_of_mem_filter member)
  recorded := by
    intro other dead
    by_cases same : other = handle
    · rw [same]
      exact Function.update_self handle [] system.snapshots
    · have before : other ∉ system.kernel.handles.live := by
        intro member
        exact dead (Ledger.mem_live_release_of_ne member same)
      have unchanged :=
        Function.update_of_ne same ([] : List WduObOpRegistration)
          system.snapshots
      exact unchanged.trans (holds.recorded other before)
  same := by
    intro live member
    obtain ⟨earlier, kept⟩ := List.mem_filter.mp member
    have known := holds.same live earlier
    rw [← Function.update_of_ne (bne_iff_ne.mp kept) []
      system.snapshots] at known
    exact known

theorem invariant_step
    {system next : System} {event : Event}
    (holds : Invariant system) (inOrder : InOrder system event)
    (stepped : step system event = some next) :
    Invariant next := by
  cases effect_of_step stepped with
  | pushed =>
      refine ⟨holds.live, holds.made, holds.recorded, ?_⟩
      intro live member
      exact
        (sameCalls_append_iff (holds.same live member)).mpr
          (inOrder live member)
  | refused _ => exact holds
  | registered native accepted fresh =>
      refine holds.issued native fresh ?_ ?_
      · intro other different
        split
        · exact Function.update_of_ne different _ _
        · rfl
      · split
        · rw [Function.update_self]
          exact fun _ _ _ _ => rfl
        · next failed =>
          rw [holds.recorded _ fresh]
          exact (inOrder _ native accepted).resolve_left failed
  | idle => exact holds
  | unregistered => exact holds.unregistered _

/-- A step after which only registered callbacks can be called was in
order. -/
theorem inOrder_of_onlyRegistered
    {system next : System} {event : Event}
    (holds : Invariant system) (stepped : step system event = some next)
    (only : OnlyRegistered next) :
    InOrder system event := by
  cases effect_of_step stepped with
  | pushed =>
      rw [onlyRegistered_iff (by exact holds.made)] at only
      intro live member
      exact
        (sameCalls_append_iff (holds.same live member)).mp
          (only live member)
  | refused refused =>
      intro registration _ accepted
      exact absurd accepted refused
  | @registered altitude answer registration native accepted fresh =>
      intro other otherNative _
      rw [native] at otherNative
      cases otherNative
      rw [onlyRegistered_iff (by exact holds.made_cons native)] at only
      by_cases plain : answer.status = statusSuccess
      · exact Or.inl plain
      · right
        have same := only _ List.mem_cons_self
        simp only [if_neg plain] at same
        rw [holds.recorded _ fresh] at same
        exact same
  | idle => trivial
  | unregistered => trivial

/-- In every state of a run, a routine that is invoked through a live
registration calls the callbacks that were registered with it, if and only if
every step was in order. -/
theorem dispatch_onlyRegistered_iff (address : Address)
    (events : List Event) :
    Always step OnlyRegistered (System.new address) events ↔
      Guarded step InOrder (System.new address) events :=
  always_iff_guarded
    (fun _ holds => holds.onlyRegistered)
    (fun _ _ _ holds met stepped => invariant_step holds met stepped)
    (fun _ _ _ holds stepped only =>
      inOrder_of_onlyRegistered holds stepped only)
    (invariant_new address)

def watchProcesses (pre : CodePtr) : WduObOpRegistration :=
  ⟨.process, 1, some pre, none, nullPtr⟩

/-- A callback that is pushed after `register` is called. -/
theorem pushAfterRegister_called :
    ¬ Always step OnlyRegistered (System.new 0x8000)
        [.pushOpRegistration (watchProcesses 0x10),
          .register [] ⟨true, statusSuccess, 0x100⟩,
          .pushOpRegistration (watchProcesses 0x20)] := by
  intro always
  have only := always.last rfl
  have calls :=
    only _ List.mem_cons_self _ List.mem_cons_self .preOpInternal
      .handleCreate (some .psProcessType)
      (fun _ => WduObCallback.constNew 0x8000) rfl rfl
  exact absurd calls (by decide)

end ObSnapshot

end WinDrvUtils

import WinDrvUtils.Callbacks.Ob
import WinDrvUtils.Callbacks.Cm
import WinDrvUtils.Callbacks.CallbackObject
import WinDrvUtils.Library.StepSystem

/-!
# Handles over the life of a wrapper

Runs of `WduObCallback`, `WduCmCallback` and `WduCallbackObject`, from the new
wrapper to its drop, under every answer of the kernel. A kernel never issues
a null handle, and never one that is still live.

Each wrapper has one field for the handle or cookie, and none of them looks at
the field before it registers. `WduObCallback` and `WduCmCallback` have no
`Drop`; `WduCmCallback` and `WduCallbackObject` do not reset the field when
they unregister. The guards below say, for each call, when these gaps do no
harm; `Ledger.TrackedBy` then holds along exactly the guarded runs.
-/

namespace WinDrvUtils

open StepSystem

/-- The handle that a field names; null names none. -/
def slotOf (handle : Address) : Option Address :=
  if handle = nullPtr then none else some handle

@[simp]
theorem slotOf_nullPtr : slotOf nullPtr = none := by
  simp [slotOf]

theorem slotOf_of_ne {handle : Address} (set : handle ≠ nullPtr) :
    slotOf handle = some handle := by
  simp [slotOf, set]

/-! ## `WduObCallback` -/

namespace WduObCallback

inductive Event where
  | pushOpRegistration (registration : WduObOpRegistration)
  | register (altitude : List UInt16) (answer : ObAnswer)
  | unregister
  | drop
  deriving DecidableEq, Repr

structure System where
  callback : WduObCallback
  kernel : ObKernel
  dropped : Bool

def System.new (address : Address) : System :=
  ⟨constNew address, ⟨Ledger.empty, []⟩, false⟩

def possible (kernel : ObKernel) (answer : ObAnswer) : Prop :=
  ntSuccess answer.status →
    answer.handle ≠ nullPtr ∧ answer.handle ∉ kernel.handles.live

instance (kernel : ObKernel) (answer : ObAnswer) :
    Decidable (possible kernel answer) :=
  inferInstanceAs (Decidable (_ → _))

/-- One call. There is no `Drop`: dropping the wrapper calls nothing. -/
def step (system : System) (event : Event) : Option System :=
  if system.dropped then none
  else
    match event with
    | .pushOpRegistration registration =>
        some { system with
          callback := system.callback.pushOpRegistration registration }
    | .register altitude answer =>
        if possible system.kernel answer then
          match system.callback.register altitude answer system.kernel with
          | .error _ => none
          | .ok (_, callback, kernel) => some ⟨callback, kernel, false⟩
        else none
    | .unregister =>
        let (_, callback, kernel) := system.callback.unregister system.kernel
        some ⟨callback, kernel, false⟩
    | .drop => some { system with dropped := true }

def HandlesTracked (system : System) : Prop :=
  system.kernel.handles.TrackedBy (slotOf system.callback.handle)
    system.dropped

/-- `register` reaches a kernel that accepts only while the handle is null,
and the wrapper is dropped only then. -/
def InOrder (system : System) : Event → Prop
  | .pushOpRegistration _ => True
  | .register _ answer =>
      system.callback.operations ≠ [] → answer.reserved = true →
        ntSuccess answer.status → system.callback.handle = nullPtr
  | .unregister => True
  | .drop => system.callback.handle = nullPtr

structure Invariant (system : System) : Prop where
  held : system.kernel.handles.HeldBy (slotOf system.callback.handle).toList
  gone : system.dropped = true → system.callback.handle = nullPtr

theorem register_cases
    {callback after : WduObCallback} {altitude : List UInt16}
    {answer : ObAnswer} {kernel kernelAfter : ObKernel}
    {result : WduCallbackResult Unit}
    (returned :
      callback.register altitude answer kernel =
        .ok (result, after, kernelAfter)) :
    (after.handle = callback.handle ∧ kernelAfter.handles = kernel.handles ∧
      ¬ (callback.operations ≠ [] ∧ answer.reserved = true ∧
        ntSuccess answer.status)) ∨
    (callback.operations ≠ [] ∧ answer.reserved = true ∧
      ntSuccess answer.status ∧ after.handle = answer.handle ∧
      kernelAfter.handles = kernel.handles.issue answer.handle) := by
  rcases register_effect returned with
    ⟨rfl, rfl, _, refused⟩ | ⟨registration, _, reached, rfl, rfl, _⟩
  · exact Or.inl ⟨rfl, rfl, refused⟩
  · obtain ⟨pushed, reserved, accepted⟩ := reached
    exact Or.inr ⟨pushed, reserved, accepted, rfl, rfl⟩

theorem unregister_cases (callback : WduObCallback) (kernel : ObKernel) :
    let returned := callback.unregister kernel
    returned.2.1.handle = nullPtr ∧
      ((callback.handle = nullPtr ∧
          returned.2.2.handles = kernel.handles) ∨
        (callback.handle ≠ nullPtr ∧
          returned.2.2.handles = kernel.handles.release callback.handle)) := by
  by_cases null : callback.handle = nullPtr
  · simp [unregister, null]
  · simp [unregister, null, obUnRegisterCallbacks]

theorem Invariant.tracked {system : System} (holds : Invariant system) :
    HandlesTracked system := by
  refine Ledger.TrackedBy.of_heldBy holds.held ?_ ?_
  · intro token member
    simpa using member
  · intro gone
    simp [holds.gone gone]

/-- Everything one step can do to the handle and the ledger. -/
inductive Effect (system : System) : Event → System → Prop
  | none {event next}
      (inOrder : InOrder system event)
      (handle : next.callback.handle = system.callback.handle)
      (handles : next.kernel.handles = system.kernel.handles)
      (alive : next.dropped = false) :
      Effect system event next
  | registered {altitude answer next}
      (pushed : system.callback.operations ≠ [])
      (reserved : answer.reserved = true)
      (accepted : ntSuccess answer.status)
      (set : answer.handle ≠ nullPtr)
      (fresh : answer.handle ∉ system.kernel.handles.live)
      (handle : next.callback.handle = answer.handle)
      (handles : next.kernel.handles =
        system.kernel.handles.issue answer.handle)
      (alive : next.dropped = false) :
      Effect system (.register altitude answer) next
  | unregistered {next}
      (set : system.callback.handle ≠ nullPtr)
      (handle : next.callback.handle = nullPtr)
      (handles : next.kernel.handles =
        system.kernel.handles.release system.callback.handle)
      (alive : next.dropped = false) :
      Effect system .unregister next
  | dropped {next}
      (handle : next.callback.handle = system.callback.handle)
      (handles : next.kernel.handles = system.kernel.handles)
      (gone : next.dropped = true) :
      Effect system .drop next

theorem effect_of_step {system next : System} {event : Event}
    (stepped : step system event = some next) :
    Effect system event next := by
  obtain ⟨notDropped, stepped⟩ := Option.ite_none_left_eq_some.mp stepped
  have alive : system.dropped = false := Bool.eq_false_iff.mpr notDropped
  cases event with
  | pushOpRegistration registration =>
      cases stepped
      exact .none trivial rfl rfl alive
  | register altitude answer =>
      by_cases answered : possible system.kernel answer
      · cases returned :
            system.callback.register altitude answer system.kernel with
        | error panic => simp [answered, returned] at stepped
        | ok triple =>
            obtain ⟨result, callback, kernel⟩ := triple
            simp only [answered, if_true, returned,
              Option.some.injEq] at stepped
            subst stepped
            rcases register_cases returned with
              ⟨handle, handles, refused⟩ |
                ⟨pushed, reserved, accepted, handle, handles⟩
            · exact .none
                (fun pushed reserved accepted =>
                  absurd ⟨pushed, reserved, accepted⟩ refused)
                handle handles rfl
            · obtain ⟨set, fresh⟩ := answered accepted
              exact .registered pushed reserved accepted set fresh
                handle handles rfl
      · simp [answered] at stepped
  | unregister =>
      simp only [Option.some.injEq] at stepped
      subst stepped
      obtain ⟨null, same | ⟨set, released⟩⟩ :=
        unregister_cases system.callback system.kernel
      · exact .none trivial (null.trans same.1.symm) same.2 rfl
      · exact .unregistered set null released rfl
  | drop =>
      cases stepped
      exact .dropped rfl rfl rfl

theorem invariant_step (system : System) (event : Event) (next : System)
    (holds : Invariant system) (inOrder : InOrder system event)
    (stepped : step system event = some next) :
    Invariant next := by
  have held := holds.held
  cases effect_of_step stepped with
  | none _ handle handles alive =>
      exact ⟨by rwa [handle, handles], fun gone => by simp [alive] at gone⟩
  | registered pushed reserved accepted set _ handle handles alive =>
      refine ⟨?_, fun gone => by simp [alive] at gone⟩
      rw [inOrder pushed reserved accepted, slotOf_nullPtr] at held
      rw [handle, handles, slotOf_of_ne set]
      exact held.issue _
  | unregistered set handle handles alive =>
      refine ⟨?_, fun gone => by simp [alive] at gone⟩
      rw [slotOf_of_ne set] at held
      rw [handle, handles]
      simpa using held.release (List.mem_singleton_self _)
  | dropped handle handles _ =>
      exact ⟨by rwa [handle, handles], fun _ => handle.trans inOrder⟩

theorem Invariant.mem_live {system : System} (holds : Invariant system)
    (set : system.callback.handle ≠ nullPtr) :
    system.callback.handle ∈ system.kernel.handles.live :=
  (holds.held.mem_iff _).mpr (by simp [slotOf_of_ne set])

theorem inOrder_of_tracked (system : System) (event : Event) (next : System)
    (holds : Invariant system)
    (stepped : step system event = some next)
    (tracked : HandlesTracked next) :
    InOrder system event := by
  cases effect_of_step stepped with
  | none inOrder _ _ _ => exact inOrder
  | registered _ _ _ set fresh handle handles _ =>
      intro _ _ _
      rw [HandlesTracked, handle, handles, slotOf_of_ne set] at tracked
      by_contra full
      have member := holds.mem_live full
      rw [tracked.live_nil_of_issue fresh] at member
      exact List.not_mem_nil member
  | unregistered _ _ _ _ => trivial
  | dropped _ handles gone =>
      by_contra full
      have member := holds.mem_live full
      rw [← handles, (tracked.settled gone).1] at member
      exact List.not_mem_nil member

theorem invariant_new (address : Address) : Invariant (System.new address) where
  held := Ledger.heldBy_empty
  gone := fun gone => by cases gone

theorem handlesTracked_iff (address : Address) (events : List Event) :
    Always step HandlesTracked (System.new address) events ↔
      Guarded step InOrder (System.new address) events :=
  always_iff_guarded (fun _ holds => holds.tracked)
    invariant_step inOrder_of_tracked (invariant_new address)

end WduObCallback

/-! ## `WduCmCallback` -/

namespace WduCmCallback

inductive Event where
  | altitude (altitude : List UInt16)
  | register (answer : CmAnswer)
  | unregister (status : NTSTATUS)
  | drop
  deriving DecidableEq, Repr

structure System where
  callback : WduCmCallback
  kernel : Ledger Int64
  dropped : Bool

def System.new : System :=
  ⟨default, Ledger.empty, false⟩

/-- The kernel never issues a cookie that is still live. -/
def possible (kernel : Ledger Int64) (answer : CmAnswer) : Prop :=
  ntSuccess answer.status → answer.cookie ∉ kernel.live

instance (kernel : Ledger Int64) (answer : CmAnswer) :
    Decidable (possible kernel answer) :=
  inferInstanceAs (Decidable (_ → _))

/-- One call. There is no `Drop` here either. -/
def step (system : System) (event : Event) : Option System :=
  if system.dropped then none
  else
    match event with
    | .altitude altitude =>
        some { system with
          callback := system.callback.setAltitude altitude }
    | .register answer =>
        if possible system.kernel answer then
          let (_, callback, kernel) :=
            system.callback.register answer system.kernel
          some ⟨callback, kernel, false⟩
        else none
    | .unregister status =>
        let (_, callback, kernel) :=
          system.callback.unregister status system.kernel
        some ⟨callback, kernel, false⟩
    | .drop => some { system with dropped := true }

def CookiesTracked (system : System) : Prop :=
  system.kernel.TrackedBy (some system.callback.cookie) system.dropped

/-- `register` is accepted and the wrapper is dropped only while no
registration is live, and `unregister` is called only while one is. -/
def InOrder (system : System) : Event → Prop
  | .altitude _ => True
  | .register answer =>
      ntSuccess answer.status → system.callback.cookie ∉ system.kernel.live
  | .unregister _ => system.callback.cookie ∈ system.kernel.live
  | .drop => system.callback.cookie ∉ system.kernel.live

/-- At most one registration is live, and it is the one in the field. -/
structure Invariant (system : System) : Prop where
  clean : system.kernel.stray = []
  live : system.kernel.live = [] ∨
    system.kernel.live = [system.callback.cookie]
  gone : system.dropped = true → system.kernel.live = []

theorem Invariant.live_nil {system : System} (holds : Invariant system)
    (absent : system.callback.cookie ∉ system.kernel.live) :
    system.kernel.live = [] := by
  rcases holds.live with none | one
  · exact none
  · rw [one] at absent
    exact absurd (List.mem_singleton_self _) absent

theorem Invariant.tracked {system : System} (holds : Invariant system) :
    CookiesTracked system where
  clean := holds.clean
  named := by
    intro cookie member
    rcases holds.live with none | one
    · rw [none] at member
      exact absurd member List.not_mem_nil
    · rw [one, List.mem_singleton] at member
      rw [member]
  settled := fun gone =>
    ⟨holds.gone gone, Ledger.count_eq_of_live_nil (holds.gone gone)⟩

inductive Effect (system : System) : Event → System → Prop
  | none {event next}
      (inOrder : InOrder system event)
      (cookie : next.callback.cookie = system.callback.cookie)
      (kernel : next.kernel = system.kernel)
      (alive : next.dropped = false) :
      Effect system event next
  | registered {answer next}
      (accepted : ntSuccess answer.status)
      (fresh : answer.cookie ∉ system.kernel.live)
      (cookie : next.callback.cookie = answer.cookie)
      (kernel : next.kernel = system.kernel.issue answer.cookie)
      (alive : next.dropped = false) :
      Effect system (.register answer) next
  | released {status next}
      (cookie : next.callback.cookie = system.callback.cookie)
      (kernel : next.kernel = system.kernel.release system.callback.cookie)
      (alive : next.dropped = false) :
      Effect system (.unregister status) next
  | dropped {next}
      (cookie : next.callback.cookie = system.callback.cookie)
      (kernel : next.kernel = system.kernel)
      (gone : next.dropped = true) :
      Effect system .drop next

theorem effect_of_step {system next : System} {event : Event}
    (stepped : step system event = some next) :
    Effect system event next := by
  obtain ⟨notDropped, stepped⟩ := Option.ite_none_left_eq_some.mp stepped
  have alive : system.dropped = false := Bool.eq_false_iff.mpr notDropped
  cases event with
  | altitude altitude =>
      cases stepped
      exact .none trivial rfl rfl alive
  | register answer =>
      by_cases answered : possible system.kernel answer
      · simp only [answered, if_true, Option.some.injEq] at stepped
        subst stepped
        have left := register_state system.callback answer system.kernel
        by_cases accepted : ntSuccess answer.status
        · rw [if_pos accepted] at left
          refine .registered accepted (answered accepted) ?_ ?_ rfl
          · exact congrArg (fun state => state.1.cookie) left
          · exact congrArg Prod.snd left
        · rw [if_neg accepted] at left
          refine .none (fun success => absurd success accepted) ?_ ?_ rfl
          · exact congrArg (fun state => state.1.cookie) left
          · exact congrArg Prod.snd left
      · simp [answered] at stepped
  | unregister status =>
      simp only [Option.some.injEq] at stepped
      subst stepped
      have left := unregister_state system.callback status system.kernel
      have cookie := congrArg (fun state => state.1.cookie) left
      have kernel := congrArg Prod.snd left
      by_cases refused :
          system.callback.cookie ∈ system.kernel.live ∧ ¬ ntSuccess status
      · rw [cmUnRegisterCallback, if_pos refused] at kernel
        exact .none refused.1 cookie kernel rfl
      · rw [cmUnRegisterCallback, if_neg refused] at kernel
        exact .released cookie kernel rfl
  | drop =>
      cases stepped
      exact .dropped rfl rfl rfl

theorem invariant_step (system : System) (event : Event) (next : System)
    (holds : Invariant system) (inOrder : InOrder system event)
    (stepped : step system event = some next) :
    Invariant next := by
  cases effect_of_step stepped with
  | none _ cookie kernel alive =>
      refine ⟨by rw [kernel]; exact holds.clean, ?_,
        fun gone => by simp [alive] at gone⟩
      rw [kernel, cookie]
      exact holds.live
  | registered accepted _ cookie kernel alive =>
      have nothing := holds.live_nil (inOrder accepted)
      refine ⟨by rw [kernel]; exact holds.clean, Or.inr ?_,
        fun gone => by simp [alive] at gone⟩
      rw [kernel, cookie, Ledger.issue_live, nothing]
  | released cookie kernel alive =>
      have member : system.callback.cookie ∈ system.kernel.live := inOrder
      refine ⟨?_, Or.inl ?_, fun gone => by simp [alive] at gone⟩
      · rw [kernel, Ledger.release_stray_of_mem member]
        exact holds.clean
      · rw [kernel, Ledger.release_live_of_mem member]
        rcases holds.live with none | one
        · rw [none] at member
          exact absurd member List.not_mem_nil
        · rw [one]
          exact List.erase_cons_head ..
  | dropped cookie kernel _ =>
      have nothing := holds.live_nil inOrder
      exact ⟨by rw [kernel]; exact holds.clean,
        Or.inl (by rw [kernel, nothing]), fun _ => by rw [kernel, nothing]⟩

theorem inOrder_of_tracked (system : System) (event : Event) (next : System)
    (_holds : Invariant system)
    (stepped : step system event = some next)
    (tracked : CookiesTracked next) :
    InOrder system event := by
  cases effect_of_step stepped with
  | none inOrder _ _ _ => exact inOrder
  | registered _ fresh cookie kernel _ =>
      intro _ member
      rw [CookiesTracked, cookie, kernel] at tracked
      rw [tracked.live_nil_of_issue fresh] at member
      exact List.not_mem_nil member
  | released _ kernel _ =>
      rw [CookiesTracked, kernel] at tracked
      exact tracked.mem_live_of_release
  | dropped _ kernel gone =>
      intro member
      rw [← kernel, (tracked.settled gone).1] at member
      exact List.not_mem_nil member

theorem invariant_new : Invariant System.new where
  clean := rfl
  live := Or.inl rfl
  gone := fun _ => rfl

theorem cookiesTracked_iff (events : List Event) :
    Always step CookiesTracked System.new events ↔
      Guarded step InOrder System.new events :=
  always_iff_guarded (fun _ holds => holds.tracked)
    invariant_step inOrder_of_tracked invariant_new

end WduCmCallback

/-- For both wrappers and every run, from the new wrapper to its drop: each
handle or cookie is released exactly once, none is lost, and the kernel is
never passed one that is not live, if and only if the run is in order. -/
theorem registrations_tracked_iff
    (address : Address) (obEvents : List WduObCallback.Event)
    (cmEvents : List WduCmCallback.Event) :
    (Always WduObCallback.step WduObCallback.HandlesTracked
          (WduObCallback.System.new address) obEvents ↔
        Guarded WduObCallback.step WduObCallback.InOrder
          (WduObCallback.System.new address) obEvents) ∧
    (Always WduCmCallback.step WduCmCallback.CookiesTracked
          WduCmCallback.System.new cmEvents ↔
        Guarded WduCmCallback.step WduCmCallback.InOrder
          WduCmCallback.System.new cmEvents) :=
  ⟨WduObCallback.handlesTracked_iff address obEvents,
    WduCmCallback.cookiesTracked_iff cmEvents⟩

def unregisterTwice : List WduCmCallback.Event :=
  [.register ⟨statusSuccess, 5⟩, .unregister statusSuccess,
    .unregister statusInvalidParameter]

/-- One accepted `register`, and the wrapper goes out of scope. -/
def registerAndDrop : List WduObCallback.Event :=
  [.pushOpRegistration
      { WduObOpRegistration.default with obType := .process, operations := 1 },
    .register [] ⟨true, statusSuccess, 8⟩, .drop]

/-- The object callback stays live in the kernel after the drop, and the
second `unregister` passes the kernel a cookie that is no longer live. -/
theorem registerAndDrop_leaks_unregisterTwice_strays :
    ¬ Always WduObCallback.step WduObCallback.HandlesTracked
        (WduObCallback.System.new 64) registerAndDrop ∧
      ¬ Always WduCmCallback.step WduCmCallback.CookiesTracked
        WduCmCallback.System.new unregisterTwice := by
  constructor
  · refine fun always => absurd (always.last rfl).settled ?_
    exact fun settled => List.cons_ne_nil _ _ (settled rfl).1
  · refine fun always => absurd (always.last rfl).clean ?_
    exact List.cons_ne_nil _ _

/-! ## `WduCallbackObject` -/

namespace WduCallbackObject

inductive Event where
  | register (cb : CodePtr) (answer : Address)
  | unregister
  | drop
  deriving DecidableEq, Repr

structure System where
  callback : WduCallbackObject
  kernel : Ledger Address
  dropped : Bool

def System.new (object ctx : Address) : System :=
  ⟨WduCallbackObject.new object ctx, Ledger.empty, false⟩

/-- One call, with `Drop` as the last. The kernel answers `register` with null
or with a handle that is not live. -/
def step (system : System) (event : Event) : Option System :=
  if system.dropped then none
  else
    match event with
    | .register cb answer =>
        if answer ∈ system.kernel.live then none
        else
          let (_, callback, kernel) :=
            system.callback.register cb answer system.kernel
          some ⟨callback, kernel, false⟩
    | .unregister =>
        let (callback, kernel) := system.callback.unregister system.kernel
        some ⟨callback, kernel, false⟩
    | .drop =>
        let (callback, kernel) := system.callback.drop system.kernel
        some ⟨callback, kernel, true⟩

def HandlesTracked (system : System) : Prop :=
  system.kernel.TrackedBy (slotOf system.callback.handle) system.dropped

/-- A `register` that fails leaves the wrapper as it was. -/
def FailureKeeps (system : System) : Event → System → Prop
  | .register cb answer, next =>
      (∃ error, (system.callback.register cb answer system.kernel).1 =
        .error error) →
        next.callback = system.callback ∧ next.kernel = system.kernel
  | .unregister, _ => True
  | .drop, _ => True

/-- `register` gets a handle only while no routine is registered, and
`unregister` and `Drop` run only while one is. -/
def InOrder (system : System) : Event → Prop
  | .register _ answer => answer ≠ nullPtr → system.callback.cb = none
  | .unregister => system.callback.cb ≠ none
  | .drop => system.callback.cb ≠ none

/-- The field `cb` is set exactly while the handle in the field is live. -/
structure Invariant (system : System) : Prop where
  held : system.kernel.HeldBy
    (if system.callback.cb = none then [] else [system.callback.handle])
  set : system.callback.cb ≠ none → system.callback.handle ≠ nullPtr
  gone : system.dropped = true → system.callback.cb = none

theorem Invariant.tracked {system : System} (holds : Invariant system) :
    HandlesTracked system := by
  refine Ledger.TrackedBy.of_heldBy holds.held ?_ ?_
  · intro token member
    by_cases idle : system.callback.cb = none
    · simp [idle] at member
    · simp only [idle, if_false, List.mem_singleton] at member
      rw [slotOf_of_ne (holds.set idle), member]
  · intro gone
    rw [if_pos (holds.gone gone)]

inductive Effect (system : System) : Event → System → Prop
  | refused {cb next}
      (callback : next.callback = system.callback)
      (kernel : next.kernel = system.kernel)
      (alive : next.dropped = false) :
      Effect system (.register cb nullPtr) next
  | registered {cb answer next}
      (set : answer ≠ nullPtr)
      (fresh : answer ∉ system.kernel.live)
      (handle : next.callback.handle = answer)
      (routine : next.callback.cb = some cb)
      (kernel : next.kernel = system.kernel.issue answer)
      (alive : next.dropped = false) :
      Effect system (.register cb answer) next
  | released {event next}
      (last : event = .unregister ∧ next.dropped = false ∨
        event = .drop ∧ next.dropped = true)
      (routine : next.callback.cb = none)
      (kernel : next.kernel = system.kernel.release system.callback.handle) :
      Effect system event next

theorem effect_of_step {system next : System} {event : Event}
    (stepped : step system event = some next) :
    Effect system event next := by
  obtain ⟨_, stepped⟩ := Option.ite_none_left_eq_some.mp stepped
  cases event with
  | register cb answer =>
      by_cases live : answer ∈ system.kernel.live
      · simp [live] at stepped
      · simp only [live, if_false, Option.some.injEq] at stepped
        subst stepped
        by_cases null : answer = nullPtr
        · subst null
          exact .refused (by simp [register])
            (by simp [register, exRegisterCallback]) rfl
        · exact .registered null live (by simp [register, null])
            (by simp [register, null])
            (by simp [register, exRegisterCallback, null]) rfl
  | unregister =>
      cases stepped
      exact .released (Or.inl ⟨rfl, rfl⟩) rfl rfl
  | drop =>
      cases stepped
      exact .released (Or.inr ⟨rfl, rfl⟩) rfl rfl

theorem invariant_step (system : System) (event : Event) (next : System)
    (holds : Invariant system) (inOrder : InOrder system event)
    (stepped : step system event = some next) :
    Invariant next := by
  have held := holds.held
  cases effect_of_step stepped with
  | refused callback kernel alive =>
      refine ⟨?_, ?_, fun gone => by simp [alive] at gone⟩
      · rwa [callback, kernel]
      · rw [callback]
        exact holds.set
  | registered set _ handle routine kernel alive =>
      refine ⟨?_, fun _ => by rwa [handle],
        fun gone => by simp [alive] at gone⟩
      rw [if_pos (inOrder set)] at held
      rw [kernel, routine, handle, if_neg (Option.some_ne_none _)]
      exact held.issue _
  | released last routine kernel =>
      have busy : system.callback.cb ≠ none := by
        rcases last with ⟨rfl, _⟩ | ⟨rfl, _⟩ <;> exact inOrder
      refine ⟨?_, fun set => absurd routine set, fun _ => routine⟩
      rw [if_neg busy] at held
      rw [kernel, if_pos routine]
      simpa using held.release (List.mem_singleton_self _)

theorem inOrder_of_tracked (system : System) (event : Event) (next : System)
    (holds : Invariant system)
    (stepped : step system event = some next)
    (tracked : HandlesTracked next) :
    InOrder system event := by
  have busy_of_mem {token : Address} (member : token ∈ system.kernel.live) :
      system.callback.cb ≠ none := by
    intro idle
    have held := (holds.held.mem_iff token).mp member
    simp [idle] at held
  cases effect_of_step stepped with
  | refused _ _ _ =>
      exact fun set => absurd rfl set
  | registered set fresh handle _ kernel _ =>
      intro _
      rw [HandlesTracked, kernel, handle, slotOf_of_ne set] at tracked
      by_contra busy
      have member : system.callback.handle ∈ system.kernel.live :=
        (holds.held.mem_iff _).mpr (by simp [busy])
      rw [tracked.live_nil_of_issue fresh] at member
      exact List.not_mem_nil member
  | released last _ kernel =>
      rw [HandlesTracked, kernel] at tracked
      have busy := busy_of_mem tracked.mem_live_of_release
      rcases last with ⟨rfl, _⟩ | ⟨rfl, _⟩ <;> exact busy

theorem failureKeeps_of_step (system : System) (event : Event)
    (next : System) (stepped : step system event = some next) :
    FailureKeeps system event next := by
  cases effect_of_step stepped with
  | refused callback kernel _ => exact fun _ => ⟨callback, kernel⟩
  | registered set _ _ _ _ _ =>
      intro failure
      obtain ⟨error, failed⟩ := failure
      simp [register, set] at failed
  | released last _ _ =>
      rcases last with ⟨rfl, _⟩ | ⟨rfl, _⟩ <;> trivial

theorem invariant_new (object ctx : Address) :
    Invariant (System.new object ctx) where
  held := Ledger.heldBy_empty
  set := fun set => absurd rfl set
  gone := fun _ => rfl

/-- For every run, from the new wrapper to its drop: the kernel is asked to
unregister each handle exactly once and nothing else, and a failed `register`
changes nothing, if and only if `register` gets a handle only while `cb` is
empty and `unregister` and `Drop` run only while it is not. -/
theorem callbackObject_handlesTracked_iff (object ctx : Address)
    (events : List Event) :
    (Always step HandlesTracked (System.new object ctx) events ∧
        EveryStep step FailureKeeps (System.new object ctx) events) ↔
      Guarded step InOrder (System.new object ctx) events := by
  constructor
  · intro kept
    obtain ⟨always, _⟩ := kept
    exact
      (always_iff_guarded (fun _ holds => holds.tracked) invariant_step
        inOrder_of_tracked (invariant_new object ctx)).mp always
  · intro guarded
    exact
      ⟨(always_iff_guarded (fun _ holds => holds.tracked) invariant_step
          inOrder_of_tracked (invariant_new object ctx)).mpr guarded,
        everyStep_of_guarded invariant_step
          (fun system event next _ _ => failureKeeps_of_step system event next)
          (invariant_new object ctx) guarded⟩

def unregisterThenDrop : List Event :=
  [.register 1 8, .unregister, .drop]

/-- `ExUnregisterCallback` gets the handle of `unregisterThenDrop` twice. -/
theorem unregisterThenDrop_strays :
    ¬ (Always step HandlesTracked (System.new 64 72) unregisterThenDrop ∧
        EveryStep step FailureKeeps (System.new 64 72)
          unregisterThenDrop) := by
  intro kept
  obtain ⟨always, _⟩ := kept
  exact absurd (always.last rfl).clean (List.cons_ne_nil _ _)

end WduCallbackObject

end WinDrvUtils

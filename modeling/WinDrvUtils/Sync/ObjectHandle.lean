import WinDrvUtils.Library.Ledger
import WinDrvUtils.Library.StepSystem
import WinDrvUtils.Memory.Mdl

/-!
# Events and semaphores by handle

`WduEvent` and `WduSemaphore` are pointers to objects of the kernel. `new`
makes one to nothing, `ref_by_handle` one to the object of a handle, with a
reference on it. A wrapper can be cloned, which takes no reference, and
`dereference` takes `&self` and leaves the pointer: it is the driver that has
to know which of its wrappers still has a reference to give back, since there
is no `Drop`.

A run is one of the driver over any number of wrappers. The kernel notes in
`astray` the calls for an object on which the driver has no reference, and in
`clobbered` the objects that were initialised while others used them.
-/

namespace WinDrvUtils

inductive WduError where
  | ntStatus (status : NTSTATUS)
  deriving DecidableEq, Repr

inductive WduEventType where
  | notificationEvent
  | synchronizationEvent
  deriving DecidableEq, Repr

def WduEventType.toEventType : WduEventType → Int32
  | .notificationEvent => 0
  | .synchronizationEvent => 1

/-- `nt::ExEventObjectType` and `nt::ExSemaphoreObjectType`. -/
inductive ExObjectType where
  | exEventObjectType
  | exSemaphoreObjectType
  deriving DecidableEq, Repr

/-- The arguments of `ObReferenceObjectByHandle`. A type that is not given is
the null pointer. -/
structure ReferenceRequest where
  handle : Nat
  accessMask : UInt32
  objType : Option ExObjectType
  accessMode : Int8
  deriving DecidableEq, Repr

structure ReferenceAnswer where
  status : NTSTATUS
  object : Address
  deriving DecidableEq, Repr

/-- The calls that the methods make. -/
inductive DispatcherCall where
  | keInitializeEvent (event : Address) (eventType : Int32) (state : UInt8)
  | keResetEvent (event : Address)
  | keClearEvent (event : Address)
  | keSetEvent (event : Address) (increment : Int32) (wait : UInt8)
  | keReadStateEvent (event : Address)
  | kePulseEvent (event : Address) (increment : Int32) (wait : UInt8)
  | keInitializeSemaphore (semaphore : Address) (count limit : Int32)
  | keReleaseSemaphore (semaphore : Address) (increment adjustment : Int32)
      (wait : UInt8)
  | keReadStateSemaphore (semaphore : Address)
  deriving DecidableEq, Repr

namespace DispatcherCall

def object : DispatcherCall → Address
  | keInitializeEvent event _ _ => event
  | keResetEvent event => event
  | keClearEvent event => event
  | keSetEvent event _ _ => event
  | keReadStateEvent event => event
  | kePulseEvent event _ _ => event
  | keInitializeSemaphore semaphore _ _ => semaphore
  | keReleaseSemaphore semaphore _ _ _ => semaphore
  | keReadStateSemaphore semaphore => semaphore

def initializes : DispatcherCall → Bool
  | keInitializeEvent _ _ _ => true
  | keInitializeSemaphore _ _ _ => true
  | _ => false

end DispatcherCall

/-- `references` are those of the driver. -/
structure ObjectKernel where
  references : Ledger Address
  astray : List Address
  clobbered : List Address

namespace ObjectKernel

def new : ObjectKernel := ⟨Ledger.empty, [], []⟩

/-- `ObReferenceObjectByHandle` -/
def obReferenceObjectByHandle (kernel : ObjectKernel)
    (answer : ReferenceAnswer) : ObjectKernel :=
  if ntSuccess answer.status then
    { kernel with references := kernel.references.issue answer.object }
  else kernel

/-- `ObfDereferenceObject` -/
def obfDereferenceObject (kernel : ObjectKernel) (object : Address) :
    ObjectKernel :=
  { kernel with references := kernel.references.release object }

/-- An object on which there is a reference has been initialised before. -/
def serve (kernel : ObjectKernel) (call : DispatcherCall) : ObjectKernel :=
  if call.object ∈ kernel.references.live then
    if call.initializes then
      { kernel with clobbered := call.object :: kernel.clobbered }
    else kernel
  else { kernel with astray := call.object :: kernel.astray }

end ObjectKernel

/-- The object is what is written to the `object` of the caller. -/
def refByHandle (handle : Nat) (accessMask : UInt32)
    (objType : Option ExObjectType) (accessMode : ProcessorMode)
    (answers : ReferenceRequest → ReferenceAnswer) (kernel : ObjectKernel) :
    Except WduError Address × ObjectKernel :=
  let answer := answers ⟨handle, accessMask, objType, accessMode.toI8⟩
  let kernel := kernel.obReferenceObjectByHandle answer
  if answer.status ≠ statusSuccess then
    (.error (.ntStatus answer.status), kernel)
  else (.ok answer.object, kernel)

/-- `u8::from` of a `bool`. -/
def u8FromBool (value : Bool) : UInt8 :=
  if value then 1 else 0

structure WduEvent where
  event : Address
  deriving DecidableEq, Repr

inductive EventMethod where
  | init (eventType : WduEventType) (state : Bool)
  | reset
  | clear
  | set (increment : Int32) (wait : Bool)
  | readState
  | pulse (increment : Int32) (wait : Bool)
  deriving DecidableEq, Repr

namespace WduEvent

/-- Also `const_new` and `default`. -/
def new : WduEvent := ⟨nullPtr⟩

def call (wrapper : WduEvent) : EventMethod → DispatcherCall
  | .init eventType state =>
      .keInitializeEvent wrapper.event eventType.toEventType
        (u8FromBool state)
  | .reset => .keResetEvent wrapper.event
  | .clear => .keClearEvent wrapper.event
  | .set increment wait =>
      .keSetEvent wrapper.event increment (u8FromBool wait)
  | .readState => .keReadStateEvent wrapper.event
  | .pulse increment wait =>
      .kePulseEvent wrapper.event increment (u8FromBool wait)

def refByHandle (handle : Nat) (accessMask : UInt32)
    (accessMode : ProcessorMode)
    (answers : ReferenceRequest → ReferenceAnswer) (kernel : ObjectKernel) :
    Except WduError WduEvent × ObjectKernel :=
  let (result, kernel) :=
    WinDrvUtils.refByHandle handle accessMask (some .exEventObjectType)
      accessMode answers kernel
  (result.map WduEvent.mk, kernel)

def dereference (wrapper : WduEvent) (kernel : ObjectKernel) : ObjectKernel :=
  kernel.obfDereferenceObject wrapper.event

end WduEvent

structure WduSemaphore where
  semaphore : Address
  deriving DecidableEq, Repr

inductive SemaphoreMethod where
  | init (count limit : Int32)
  | release (increment adjustment : Int32) (wait : Bool)
  | readState
  deriving DecidableEq, Repr

namespace WduSemaphore

/-- Also `const_new` and `default`. -/
def new : WduSemaphore := ⟨nullPtr⟩

def call (wrapper : WduSemaphore) : SemaphoreMethod → DispatcherCall
  | .init count limit =>
      .keInitializeSemaphore wrapper.semaphore count limit
  | .release increment adjustment wait =>
      .keReleaseSemaphore wrapper.semaphore increment adjustment
        (u8FromBool wait)
  | .readState => .keReadStateSemaphore wrapper.semaphore

def refByHandle (handle : Nat) (accessMask : UInt32)
    (accessMode : ProcessorMode)
    (answers : ReferenceRequest → ReferenceAnswer) (kernel : ObjectKernel) :
    Except WduError WduSemaphore × ObjectKernel :=
  let (result, kernel) :=
    WinDrvUtils.refByHandle handle accessMask (some .exSemaphoreObjectType)
      accessMode answers kernel
  (result.map WduSemaphore.mk, kernel)

def dereference (wrapper : WduSemaphore) (kernel : ObjectKernel) :
    ObjectKernel :=
  kernel.obfDereferenceObject wrapper.semaphore

end WduSemaphore

namespace ObjectHandle

open StepSystem

/-! ## Runs over the wrappers of a driver -/

inductive Wrapper where
  | event (wrapper : WduEvent)
  | semaphore (wrapper : WduSemaphore)
  deriving DecidableEq, Repr

namespace Wrapper

def object : Wrapper → Address
  | event wrapper => wrapper.event
  | semaphore wrapper => wrapper.semaphore

def new : ExObjectType → Wrapper
  | .exEventObjectType => event WduEvent.new
  | .exSemaphoreObjectType => semaphore WduSemaphore.new

def dereference (kernel : ObjectKernel) : Wrapper → ObjectKernel
  | event wrapper => wrapper.dereference kernel
  | semaphore wrapper => wrapper.dereference kernel

def refByHandle (handle : Nat) (accessMask : UInt32)
    (accessMode : ProcessorMode)
    (answers : ReferenceRequest → ReferenceAnswer) (kernel : ObjectKernel) :
    ExObjectType → Except WduError Wrapper × ObjectKernel
  | .exEventObjectType =>
      let (result, kernel) :=
        WduEvent.refByHandle handle accessMask accessMode answers kernel
      (result.map event, kernel)
  | .exSemaphoreObjectType =>
      let (result, kernel) :=
        WduSemaphore.refByHandle handle accessMask accessMode answers kernel
      (result.map semaphore, kernel)

end Wrapper

inductive Method where
  | event (method : EventMethod)
  | semaphore (method : SemaphoreMethod)
  deriving DecidableEq, Repr

/-- A wrapper has the methods of its own type. -/
def Wrapper.call : Wrapper → Method → Option DispatcherCall
  | .event wrapper, .event method => some (wrapper.call method)
  | .semaphore wrapper, .semaphore method => some (wrapper.call method)
  | _, _ => none

def Method.initializes : Method → Bool
  | .event (.init _ _) => true
  | .semaphore (.init _ _) => true
  | _ => false

structure System where
  kernel : ObjectKernel
  wrappers : List Wrapper

def System.new : System :=
  ⟨ObjectKernel.new, []⟩

/-- A wrapper is named by its place in the list. -/
inductive Event where
  | new (objType : ExObjectType)
  | refByHandle (objType : ExObjectType) (handle : Nat)
      (accessMask : UInt32) (accessMode : ProcessorMode)
      (answers : ReferenceRequest → ReferenceAnswer)
  | clone (index : Nat)
  | call (index : Nat) (method : Method)
  | dereference (index : Nat)
  | drop (index : Nat)

def step (system : System) : Event → Option System
  | .new objType =>
      some { system with wrappers := Wrapper.new objType :: system.wrappers }
  | .refByHandle objType handle accessMask accessMode answers =>
      match Wrapper.refByHandle handle accessMask accessMode answers
          system.kernel objType with
      | (.error _, kernel) => some { system with kernel := kernel }
      | (.ok wrapper, kernel) => some ⟨kernel, wrapper :: system.wrappers⟩
  | .clone index =>
      system.wrappers[index]?.map fun wrapper =>
        { system with wrappers := wrapper :: system.wrappers }
  | .call index method =>
      (system.wrappers[index]?.bind (Wrapper.call · method)).map fun call =>
        { system with kernel := system.kernel.serve call }
  | .dereference index =>
      system.wrappers[index]?.map fun wrapper =>
        { system with kernel := wrapper.dereference system.kernel }
  | .drop index =>
      system.wrappers[index]?.map fun _ =>
        { system with wrappers := system.wrappers.eraseIdx index }

/-! ## What keeps the references -/

def Points (wrappers : List Wrapper) (object : Address) : Prop :=
  ∃ wrapper ∈ wrappers, wrapper.object = object

/-- No reference was given back that the driver did not have, no call went to
an object without one, none initialised an object that was in use, and every
reference is on an object that a wrapper points to. -/
structure Sound (system : System) : Prop where
  clean : system.kernel.references.stray = []
  reached : system.kernel.astray = []
  intact : system.kernel.clobbered = []
  kept :
    ∀ object ∈ system.kernel.references.live, Points system.wrappers object

def System.At (system : System) (index : Nat)
    (condition : Wrapper → Prop) : Prop :=
  ∀ wrapper, system.wrappers[index]? = some wrapper → condition wrapper

/-- A reference is reported plainly, unless there is a wrapper of the object
already. Methods but not `init` are called, and references given back, only
while there is one, and the last wrapper of an object goes without one. -/
def InOrder (system : System) : Event → Prop
  | .new _ | .clone _ => True
  | .refByHandle objType handle accessMask accessMode answers =>
      let answer :=
        answers ⟨handle, accessMask, some objType, accessMode.toI8⟩
      ntSuccess answer.status →
        answer.status = statusSuccess ∨
          Points system.wrappers answer.object
  | .call index method =>
      system.At index fun wrapper =>
        method.initializes = false ∧
          wrapper.object ∈ system.kernel.references.live
  | .dereference index =>
      system.At index fun wrapper =>
        wrapper.object ∈ system.kernel.references.live
  | .drop index =>
      system.At index fun wrapper =>
        wrapper.object ∈ system.kernel.references.live →
          Points (system.wrappers.eraseIdx index) wrapper.object

/-! ## One step -/

theorem wrapper_refByHandle
    (objType : ExObjectType) (handle : Nat) (accessMask : UInt32)
    (accessMode : ProcessorMode)
    (answers : ReferenceRequest → ReferenceAnswer) (kernel : ObjectKernel)
    {answer : ReferenceAnswer}
    (answered :
      answers ⟨handle, accessMask, some objType, accessMode.toI8⟩ = answer) :
    ∃ result,
      Wrapper.refByHandle handle accessMask accessMode answers kernel
          objType =
        (result, kernel.obReferenceObjectByHandle answer) ∧
      (answer.status ≠ statusSuccess →
        result = .error (.ntStatus answer.status)) ∧
      (answer.status = statusSuccess →
        ∃ wrapper : Wrapper,
          result = .ok wrapper ∧ wrapper.object = answer.object) := by
  by_cases success : answer.status = statusSuccess
  · cases objType with
    | exEventObjectType =>
        refine
          ⟨.ok (.event ⟨answer.object⟩), ?_,
            fun failed => absurd success failed, fun _ => ⟨_, rfl, rfl⟩⟩
        simp [Wrapper.refByHandle, WduEvent.refByHandle,
          WinDrvUtils.refByHandle, answered, success, Except.map]
    | exSemaphoreObjectType =>
        refine
          ⟨.ok (.semaphore ⟨answer.object⟩), ?_,
            fun failed => absurd success failed, fun _ => ⟨_, rfl, rfl⟩⟩
        simp [Wrapper.refByHandle, WduSemaphore.refByHandle,
          WinDrvUtils.refByHandle, answered, success, Except.map]
  · refine
      ⟨.error (.ntStatus answer.status), ?_, fun _ => rfl,
        fun same => absurd same success⟩
    cases objType with
    | exEventObjectType =>
        simp [Wrapper.refByHandle, WduEvent.refByHandle,
          WinDrvUtils.refByHandle, answered, success, Except.map]
    | exSemaphoreObjectType =>
        simp [Wrapper.refByHandle, WduSemaphore.refByHandle,
          WinDrvUtils.refByHandle, answered, success, Except.map]

theorem call_spec
    {wrapper : Wrapper} {method : Method} {call : DispatcherCall}
    (called : wrapper.call method = some call) :
    call.object = wrapper.object ∧
      call.initializes = method.initializes := by
  cases wrapper with
  | event wrapper =>
      cases method with
      | event method =>
          cases called
          cases method <;> exact ⟨rfl, rfl⟩
      | semaphore method => cases called
  | semaphore wrapper =>
      cases method with
      | event method => cases called
      | semaphore method =>
          cases called
          cases method <;> exact ⟨rfl, rfl⟩

theorem dereference_eq (kernel : ObjectKernel) (wrapper : Wrapper) :
    wrapper.dereference kernel =
      kernel.obfDereferenceObject wrapper.object := by
  cases wrapper <;> rfl

theorem at_iff
    {system : System} {index : Nat} {wrapper : Wrapper}
    (found : system.wrappers[index]? = some wrapper)
    {condition : Wrapper → Prop} :
    system.At index condition ↔ condition wrapper := by
  constructor
  · intro all
    exact all wrapper found
  · intro holds other same
    rw [found] at same
    cases same
    exact holds

section

variable {system : System}

theorem Points.cons
    {wrappers : List Wrapper} {object : Address}
    (points : Points wrappers object) (wrapper : Wrapper) :
    Points (wrapper :: wrappers) object := by
  obtain ⟨other, member, same⟩ := points
  exact ⟨other, List.mem_cons_of_mem _ member, same⟩

theorem Sound.cons (sound : Sound system) (wrapper : Wrapper) :
    Sound { system with wrappers := wrapper :: system.wrappers } where
  clean := sound.clean
  reached := sound.reached
  intact := sound.intact
  kept object live := (sound.kept object live).cons wrapper

/-- One reference more. -/
theorem sound_issue_iff
    (sound : Sound system) (object : Address) (wrappers : List Wrapper)
    (more : ∀ other, Points system.wrappers other → Points wrappers other) :
    Sound
        ⟨{ system.kernel with
            references := system.kernel.references.issue object },
          wrappers⟩ ↔
      Points wrappers object := by
  constructor
  · intro next
    exact next.kept object List.mem_cons_self
  · intro points
    refine ⟨sound.clean, sound.reached, sound.intact, ?_⟩
    intro other live
    rcases List.mem_cons.mp live with rfl | before
    · exact points
    · exact more other (sound.kept other before)

theorem sound_refByHandle_iff
    {objType : ExObjectType} {handle : Nat} {accessMask : UInt32}
    {accessMode : ProcessorMode}
    {answers : ReferenceRequest → ReferenceAnswer} {next : System}
    (sound : Sound system)
    (stepped :
      step system (.refByHandle objType handle accessMask accessMode answers) =
        some next) :
    Sound next ↔
      InOrder system
        (.refByHandle objType handle accessMask accessMode answers) := by
  dsimp only [step] at stepped
  dsimp only [InOrder]
  generalize answered :
    answers ⟨handle, accessMask, some objType, accessMode.toI8⟩ = answer
  obtain ⟨result, outcome, failed, granted⟩ :=
    wrapper_refByHandle objType handle accessMask accessMode answers
      system.kernel answered
  rw [outcome] at stepped
  unfold ObjectKernel.obReferenceObjectByHandle at stepped
  by_cases success : answer.status = statusSuccess
  · have accepted : ntSuccess answer.status := by
      rw [success]
      exact ntSuccess_statusSuccess
    obtain ⟨wrapper, rfl, same⟩ := granted success
    rw [if_pos accepted] at stepped
    cases stepped
    rw [sound_issue_iff sound answer.object (wrapper :: system.wrappers)
      fun _ points => points.cons wrapper]
    exact
      iff_of_true ⟨wrapper, List.mem_cons_self, same⟩ fun _ => .inl success
  · rw [failed success] at stepped
    by_cases accepted : ntSuccess answer.status
    · rw [if_pos accepted] at stepped
      cases stepped
      rw [sound_issue_iff sound answer.object system.wrappers fun _ => id]
      exact
        ⟨fun points _ => .inr points, fun inOrder =>
          (inOrder accepted).resolve_left success⟩
    · rw [if_neg accepted] at stepped
      cases stepped
      exact iff_of_true sound fun given => absurd given accepted

theorem sound_serve_iff (sound : Sound system) (call : DispatcherCall) :
    Sound { system with kernel := system.kernel.serve call } ↔
      call.initializes = false ∧
        call.object ∈ system.kernel.references.live := by
  unfold ObjectKernel.serve
  by_cases held : call.object ∈ system.kernel.references.live
  · rw [if_pos held]
    by_cases initializes : call.initializes = true
    · rw [if_pos initializes]
      refine iff_of_false (fun next => ?_) fun both => ?_
      · exact List.cons_ne_nil _ _ next.intact
      · rw [initializes] at both
        cases both.1
    · rw [if_neg initializes]
      exact
        iff_of_true sound ⟨Bool.eq_false_iff.mpr initializes, held⟩
  · rw [if_neg held]
    exact
      iff_of_false (fun next => List.cons_ne_nil _ _ next.reached)
        fun both => held both.2

theorem sound_dereference_iff (sound : Sound system) (object : Address) :
    Sound
        { system with
          kernel := system.kernel.obfDereferenceObject object } ↔
      object ∈ system.kernel.references.live := by
  constructor
  · intro next
    exact Ledger.mem_live_of_release_clean next.clean
  · intro held
    refine ⟨?_, sound.reached, sound.intact, fun other live => ?_⟩
    · exact (Ledger.release_stray_of_mem held).trans sound.clean
    · have before : other ∈ system.kernel.references.live := by
        have live : other ∈ (system.kernel.references.release object).live :=
          live
        rw [Ledger.release_live_of_mem held] at live
        exact List.mem_of_mem_erase live
      exact sound.kept other before

theorem points_eraseIdx
    {wrappers : List Wrapper} {index : Nat} {wrapper : Wrapper}
    (found : wrappers[index]? = some wrapper) {object : Address}
    (points : Points wrappers object) (different : object ≠ wrapper.object) :
    Points (wrappers.eraseIdx index) object := by
  obtain ⟨other, member, same⟩ := points
  obtain ⟨place, there⟩ := List.mem_iff_getElem?.mp member
  refine ⟨other, List.mem_eraseIdx_iff_getElem?.mpr ⟨place, ?_, there⟩, same⟩
  rintro rfl
  rw [found] at there
  cases there
  exact different same.symm

theorem sound_drop_iff
    {index : Nat} {wrapper : Wrapper} (sound : Sound system)
    (found : system.wrappers[index]? = some wrapper) :
    Sound { system with wrappers := system.wrappers.eraseIdx index } ↔
      (wrapper.object ∈ system.kernel.references.live →
        Points (system.wrappers.eraseIdx index) wrapper.object) := by
  constructor
  · intro next
    exact next.kept wrapper.object
  · intro others
    refine ⟨sound.clean, sound.reached, sound.intact, fun object live => ?_⟩
    by_cases same : object = wrapper.object
    · rw [same] at live ⊢
      exact others live
    · exact points_eraseIdx found (sound.kept object live) same

end

theorem sound_step_iff
    {system next : System} {event : Event} (sound : Sound system)
    (stepped : step system event = some next) :
    Sound next ↔ InOrder system event := by
  cases event with
  | new objType =>
      cases stepped
      exact iff_of_true (sound.cons _) trivial
  | refByHandle objType handle accessMask accessMode answers =>
      exact sound_refByHandle_iff sound stepped
  | clone index =>
      obtain ⟨wrapper, found, rfl⟩ := Option.map_eq_some_iff.mp stepped
      exact iff_of_true (sound.cons wrapper) trivial
  | call index method =>
      obtain ⟨call, called, rfl⟩ := Option.map_eq_some_iff.mp stepped
      obtain ⟨wrapper, found, called⟩ := Option.bind_eq_some_iff.mp called
      obtain ⟨object, initializes⟩ := call_spec called
      rw [InOrder, at_iff found, sound_serve_iff sound, object, initializes]
  | dereference index =>
      obtain ⟨wrapper, found, rfl⟩ := Option.map_eq_some_iff.mp stepped
      rw [InOrder, at_iff found, dereference_eq]
      exact sound_dereference_iff sound wrapper.object
  | drop index =>
      obtain ⟨wrapper, found, rfl⟩ := Option.map_eq_some_iff.mp stepped
      rw [InOrder, at_iff found]
      exact sound_drop_iff sound found

theorem sound_new : Sound System.new :=
  ⟨rfl, rfl, rfl, fun _ live => nomatch live⟩

/-- For every run over the wrappers of a driver: the calls go to objects on
which it has a reference, none of these is initialised again, references are
given back once, and each has a wrapper that can do it, if and only if `init`
is never called, the other methods and `dereference` only with a reference on
the object, the last wrapper of an object goes without one, and a reference is
reported plainly or there is a wrapper of the object already. -/
theorem objectHandles_sound_iff (events : List Event) :
    Always step Sound System.new events ↔
      Guarded step InOrder System.new events :=
  always_iff_guarded (fun _ sound => sound)
    (fun _ _ _ sound inOrder stepped =>
      (sound_step_iff sound stepped).mpr inOrder)
    (fun _ _ _ sound stepped => (sound_step_iff sound stepped).mp)
    sound_new

end ObjectHandle

end WinDrvUtils

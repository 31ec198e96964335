import WinDrvUtils.Common.ObjAttr
import WinDrvUtils.Callbacks.CallbackObject
import WinDrvUtils.Library.StepSystem

/-!
# The names of callback objects

`WduCallbackObject::open` and `create` pass a pointer to the attributes to
`ExCreateCallback`, which reads the name through them. The name should be the
one that was given last, and alive. It is not: `object_name` has dropped it.
Exactly the attributes without a name are good (`nameOutlives_iff`).
-/

namespace WinDrvUtils

/-- The arguments of `ExCreateCallback`, with the attributes that it finds
behind the pointer. -/
structure CreateCallback where
  objectAttributes : ObjectAttributes
  create : UInt8
  allowMultiple : UInt8
  deriving DecidableEq, Repr

/-- What `ExCreateCallback` answers, and the object that it stores. -/
structure CallbackAnswer where
  status : NTSTATUS
  object : Address
  deriving DecidableEq, Repr

/-- What `open` and `create` do: the call that they make, what they return,
and the kernel's accounts of the registrations afterwards. -/
structure CreateOutcome where
  call : CreateCallback
  result : WduCallbackResult WduCallbackObject
  handles : Ledger Address

namespace WduCallbackObject

/-- The body of `open` and `create`. A value that is not returned is
dropped. -/
def createWith (create allowMultiple : UInt8)
    (objAttr : WduObjectAttributes) (ctx : Address)
    (kernel : CreateCallback → CallbackAnswer) (handles : Ledger Address) :
    CreateOutcome :=
  let call : CreateCallback := ⟨objAttr.objAttr, create, allowMultiple⟩
  let answer := kernel call
  let cbObj := { new nullPtr ctx with object := answer.object }
  if answer.status ≠ statusSuccess then
    ⟨call, .error (.createError answer.status), (cbObj.drop handles).2⟩
  else ⟨call, .ok cbObj, handles⟩

def «open» (objAttr : WduObjectAttributes) (ctx : Address)
    (kernel : CreateCallback → CallbackAnswer) (handles : Ledger Address) :
    CreateOutcome :=
  createWith 0 0 objAttr ctx kernel handles

def create (allowMultiple : Bool) (objAttr : WduObjectAttributes)
    (ctx : Address) (kernel : CreateCallback → CallbackAnswer)
    (handles : Ledger Address) : CreateOutcome :=
  createWith 1 (if allowMultiple then 1 else 0) objAttr ctx kernel
    handles

/-- The kernel is called once, with the attributes as they are. -/
theorem createWith_call
    (create allowMultiple : UInt8) (objAttr : WduObjectAttributes)
    (ctx : Address) (kernel : CreateCallback → CallbackAnswer)
    (handles : Ledger Address) :
    (createWith create allowMultiple objAttr ctx kernel handles).call =
      ⟨objAttr.objAttr, create, allowMultiple⟩ := by
  unfold createWith
  dsimp only
  split <;> rfl

end WduCallbackObject

namespace ObjectName

open StepSystem

/-- The argument of `object_name`: a string that the driver has, which is
moved, or one that a constructor makes there. -/
inductive Name where
  | held (live : LiveString)
  | made
      (constructor :
        Memory → Except Panic (WduUnicodeResult WduUnicodeString × Memory))

/-- `place` is where the parameter of `object_name` is. -/
inductive BuilderCall where
  | rootDir (handle : HANDLE)
  | objectName (name : Name) (place : Address)
  | attributes (attributes : WduObjHandleAttributes)
  | build

/-- Which function the attributes go to. -/
inductive Opening where
  | open
  | create (allowMultiple : Bool)
  deriving DecidableEq, Repr

/-- `given` has the code units of the last name, as they were when it was
given. -/
structure System where
  world : World
  attributes : WduObjectAttributes
  given : Option (List UInt16)

/-- The strings that there are at first are the driver's. -/
def System.new (world : World) : System :=
  ⟨world, WduObjectAttributes.default, none⟩

/-- Without a value there is no call. -/
def Name.evaluate (world : World) : Name → Option (WduUnicodeString × World)
  | .held live =>
      if live ∈ world.strings then some (live.string, world.leave live)
      else none
  | .made constructor =>
      match constructor world.memory with
      | .ok (.ok string, memory) =>
          some (string, { world with memory := memory })
      | _ => none

def step (system : System) : BuilderCall → Option System
  | .rootDir handle =>
      some { system with attributes := system.attributes.rootDir handle }
  | .objectName name place =>
      (name.evaluate system.world).bind fun (string, world) =>
        (world.enter ⟨place, string⟩).map fun inside =>
          let returned :=
            system.attributes.objectName ⟨place, string⟩ inside
          { world := returned.2
            attributes := returned.1
            given := some (string.asSlice inside.memory) }
  | .attributes attributes =>
      some
        { system with
          attributes := system.attributes.setAttributes attributes }
  | .build => some { system with attributes := system.attributes.build }

def Opening.perform (opening : Opening) (objAttr : WduObjectAttributes)
    (ctx : Address) (kernel : CreateCallback → CallbackAnswer)
    (handles : Ledger Address) : CreateOutcome :=
  match opening with
  | .open => WduCallbackObject.open objAttr ctx kernel handles
  | .create allowMultiple =>
      WduCallbackObject.create allowMultiple objAttr ctx kernel handles

/-- When the kernel is called, `ObjectName` is null if no name was given, and
otherwise points to a live string with the code units of the last one. -/
def NameOutlives (system : System) (call : CreateCallback) : Prop :=
  match system.given with
  | none => call.objectAttributes.objectName = nullPtr
  | some units => system.world.Names call.objectAttributes.objectName units

def BuilderCall.GivesName : BuilderCall → Prop
  | .objectName _ _ => True
  | _ => False

/-! ## Steps -/

/-- No name was given, and the attributes have none. -/
structure Unnamed (system : System) : Prop where
  notGiven : system.given = none
  null : system.attributes.objAttr.objectName = nullPtr

/-- A name was given, and there is no string where the attributes say. -/
structure Dangling (system : System) : Prop where
  given : system.given.isSome
  gone :
    ∀ units,
      ¬ system.world.Names system.attributes.objAttr.objectName units

theorem unnamed_new (world : World) : Unnamed (System.new world) :=
  ⟨rfl, rfl⟩

section Steps

variable {system next : System} {call : BuilderCall}

/-- A call that gives no name changes neither the strings nor the pointer. -/
theorem step_of_not_givesName
    (nameless : ¬ call.GivesName) (stepped : step system call = some next) :
    next.world = system.world ∧ next.given = system.given ∧
      next.attributes.objAttr.objectName =
        system.attributes.objAttr.objectName := by
  cases call with
  | objectName name place => exact absurd trivial nameless
  | rootDir | attributes | build =>
      cases stepped
      exact ⟨rfl, rfl, rfl⟩

theorem dangling_of_givesName
    (named : call.GivesName) (stepped : step system call = some next) :
    Dangling next := by
  cases call with
  | rootDir | attributes | build => exact named.elim
  | objectName name place =>
      obtain ⟨⟨string, world⟩, _, later⟩ :=
        Option.bind_eq_some_iff.mp stepped
      obtain ⟨inside, entered, rfl⟩ := Option.map_eq_some_iff.mp later
      exact ⟨rfl, not_names_objectName entered system.attributes⟩

theorem Unnamed.of_step
    (unnamed : Unnamed system) (nameless : ¬ call.GivesName)
    (stepped : step system call = some next) : Unnamed next := by
  obtain ⟨_, given, pointer⟩ := step_of_not_givesName nameless stepped
  exact ⟨given.trans unnamed.notGiven, pointer.trans unnamed.null⟩

theorem Dangling.of_step
    (dangling : Dangling system) (stepped : step system call = some next) :
    Dangling next := by
  by_cases named : call.GivesName
  · exact dangling_of_givesName named stepped
  · obtain ⟨world, given, pointer⟩ := step_of_not_givesName named stepped
    constructor
    · rw [given]
      exact dangling.given
    · rw [world, pointer]
      exact dangling.gone

end Steps

/-! ## Sequences of calls -/

section Runs

variable {system last : System} {calls : List BuilderCall}

/-- Once a name was given the attributes dangle, whatever comes after. -/
theorem dangling_of_named
    {call : BuilderCall} (member : call ∈ calls) (named : call.GivesName)
    (reached : run step system calls = some last) : Dangling last :=
  run_established (fun _ _ stepped => dangling_of_givesName named stepped)
    (fun _ _ _ dangling stepped => dangling.of_step stepped) member reached

theorem Unnamed.of_run
    (unnamed : Unnamed system)
    (nameless : ∀ call ∈ calls, ¬ call.GivesName)
    (reached : run step system calls = some last) : Unnamed last :=
  run_invariant_of_allowed
    (fun _ _ _ before allowed stepped => before.of_step allowed stepped)
    unnamed nameless reached

end Runs

theorem perform_objectName
    (opening : Opening) (objAttr : WduObjectAttributes) (ctx : Address)
    (kernel : CreateCallback → CallbackAnswer) (handles : Ledger Address) :
    (opening.perform objAttr ctx kernel handles).call.objectAttributes =
      objAttr.objAttr := by
  cases opening with
  | «open» =>
      exact
        congrArg CreateCallback.objectAttributes
          (WduCallbackObject.createWith_call 0 0 objAttr ctx kernel
            handles)
  | create allowMultiple =>
      exact
        congrArg CreateCallback.objectAttributes
          (WduCallbackObject.createWith_call 1 _ objAttr ctx kernel
            handles)

/-- For every sequence of builder calls, with any strings, and either way to
open the object: the name outlives the attributes exactly if `object_name` is
not called. -/
theorem nameOutlives_iff
    (world : World) (calls : List BuilderCall) (opening : Opening)
    (ctx : Address) (kernel : CreateCallback → CallbackAnswer)
    (handles : Ledger Address) {system : System}
    (reached : run step (System.new world) calls = some system) :
    NameOutlives system
        (opening.perform system.attributes ctx kernel handles).call ↔
      ∀ call ∈ calls, ¬ call.GivesName := by
  unfold NameOutlives
  rw [perform_objectName]
  constructor
  · intro outlives call member named
    have dangling := dangling_of_named member named reached
    obtain ⟨units, given⟩ := Option.isSome_iff_exists.mp dangling.given
    rw [given] at outlives
    exact dangling.gone units outlives
  · intro nameless
    have unnamed := (unnamed_new world).of_run nameless reached
    rw [unnamed.notGiven]
    exact unnamed.null

/-- The driver of the examples: memory is full of `x`, and the kernel makes
every object. -/
def sampleWorld : World :=
  ⟨⟨fun _ => 0x78, fun _ => 0, Ledger.empty⟩, []⟩

def sampleKernel (_ : CreateCallback) : CallbackAnswer :=
  ⟨statusSuccess, 0xFFFFA00000004000⟩

def namedCallback : List BuilderCall :=
  [.objectName
      (.made
        (WduUnicodeString.create ⟨0x7000, 1⟩ .poolFlagPaged
          0xFFFFA00000005000))
      0xFFFFF80000006000,
    .attributes ⟨64⟩, .build]

/-- The name is gone before the kernel looks for it. -/
theorem dropped_name :
    ∃ system,
      run step (System.new sampleWorld) namedCallback = some system ∧
        ¬ NameOutlives system
            (Opening.perform (.create true) system.attributes 0x8000
              sampleKernel Ledger.empty).call := by
  refine ⟨_, rfl, ?_⟩
  rintro ⟨live, member, _⟩
  exact List.not_mem_nil member

def unnamedCallback : List BuilderCall :=
  [.rootDir 12, .attributes ⟨512⟩, .build]

theorem unnamed_outlives :
    ∃ system,
      run step (System.new sampleWorld) unnamedCallback = some system ∧
        NameOutlives system
          (Opening.perform .open system.attributes 0x8000 sampleKernel
            Ledger.empty).call := by
  have nameless : ∀ call ∈ unnamedCallback, ¬ call.GivesName := by
    simp [unnamedCallback, BuilderCall.GivesName]
  have exactly :=
    nameOutlives_iff sampleWorld unnamedCallback .open 0x8000 sampleKernel
      Ledger.empty rfl
  exact ⟨_, rfl, exactly.mpr nameless⟩

end ObjectName

end WinDrvUtils

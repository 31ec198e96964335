import WinDrvUtils.Callbacks.Cm
import WinDrvUtils.Strings.Unicode
import WinDrvUtils.Library.StepSystem

/-!
# The names of registry keys

`key_object_id` asks the kernel for the name of a key. The kernel wants the
address of a pointer, to make it point to a name of its own, and gets that of
a temporary, which is gone when the call returns. `WduCmKeyObject` keeps a
`UNICODE_STRING`, not a pointer to one, and its drop gives the kernel the
address of that string for a name.
-/

namespace WinDrvUtils

structure WduCmKeyObject where
  objectId : Nat
  objectName : WduUnicodeString

def WduCmKeyObject.default : WduCmKeyObject where
  objectId := 0
  objectName := WduUnicodeString.default

/-- The arguments of `CmCallbackGetKeyObjectIDEx` that are not written to. -/
structure KeyObjectRequest where
  cookie : Int64
  object : Address
  flags : UInt32
  deriving DecidableEq, Repr

/-- A name is the address of a `UNICODE_STRING` of the kernel. It produces
none when `objectName` is null. -/
structure KeyObjectAnswer where
  status : NTSTATUS
  objectId : Nat
  objectName : Address
  deriving DecidableEq, Repr

/-- The names that `CmCallbackGetKeyObjectIDEx` produced and that
`CmCallbackReleaseKeyObjectIDEx` got. -/
abbrev KeyObjectNames := Ledger Address

/-- The kernel writes both places when it accepts. -/
def cmCallbackGetKeyObjectIDEx (answer : KeyObjectAnswer)
    (objectId : Nat) (objectName : Address) (names : KeyObjectNames) :
    Nat × Address × KeyObjectNames :=
  if ntSuccess answer.status then
    (answer.objectId, answer.objectName,
      if answer.objectName = nullPtr then names
      else names.issue answer.objectName)
  else (objectId, objectName, names)

namespace WduCmKeyObject

/-- `object_name.as_ptr()` of an object that is kept so that its string is at
`place`. -/
def namePtr (_ : WduCmKeyObject) (place : Address) : Address :=
  place

/-- The string itself has no buffer to free. -/
def drop (keyObject : WduCmKeyObject) (place : Address)
    (names : KeyObjectNames) : KeyObjectNames :=
  names.release (keyObject.namePtr place)

end WduCmKeyObject

/-- `frame` is where the string of the local `key_object` is. -/
def WduCmCallback.keyObjectId (callback : WduCmCallback)
    (object frame : Address)
    (kernel : KeyObjectRequest → KeyObjectAnswer) (names : KeyObjectNames) :
    WduCallbackResult WduCmKeyObject × KeyObjectNames :=
  let keyObject := WduCmKeyObject.default
  let answer := kernel ⟨callback.cookie, object, 0⟩
  -- The temporary starts as the address of the string, and nobody reads what
  -- it is afterwards.
  let temporary := keyObject.namePtr frame
  let (objectId, _, names) :=
    cmCallbackGetKeyObjectIDEx answer keyObject.objectId temporary names
  let keyObject := { keyObject with objectId := objectId }
  if answer.status ≠ statusSuccess then
    (.error (.ntStatus answer.status), keyObject.drop frame names)
  else (.ok keyObject, names)

/-- The names after a call, as the kernel leaves them and, if the call failed,
the drop of the local object. -/
theorem WduCmCallback.keyObjectId_eq
    (callback : WduCmCallback) (object frame : Address)
    (kernel : KeyObjectRequest → KeyObjectAnswer) (names : KeyObjectNames) :
    callback.keyObjectId object frame kernel names =
      let answer := kernel ⟨callback.cookie, object, 0⟩
      if answer.status = statusSuccess then
        (.ok ⟨answer.objectId, WduUnicodeString.default⟩,
          if answer.objectName = nullPtr then names
          else names.issue answer.objectName)
      else
        (.error (.ntStatus answer.status),
          (cmCallbackGetKeyObjectIDEx answer 0 frame names).2.2.release
            frame) := by
  simp only [keyObjectId]
  by_cases success : (kernel ⟨callback.cookie, object, 0⟩).status =
      statusSuccess
  · simp [success, cmCallbackGetKeyObjectIDEx, WduCmKeyObject.default]
  · simp [success, WduCmKeyObject.drop, WduCmKeyObject.namePtr,
      WduCmKeyObject.default]

namespace KeyObject

open StepSystem

/-- An object that the driver has, with the address of its string. -/
structure Placed where
  keyObject : WduCmKeyObject
  place : Address

structure System where
  callback : WduCmCallback
  names : KeyObjectNames
  objects : List Placed

/-- `home` is where the driver puts an object, which it names by its index. -/
inductive Event where
  | keyObjectId (object frame home : Address)
      (kernel : KeyObjectRequest → KeyObjectAnswer)
  | move (index : Nat) (home : Address)
  | drop (index : Nat)

namespace System

def new (callback : WduCmCallback) : System :=
  ⟨callback, Ledger.empty, []⟩

def answer (system : System) (object : Address)
    (kernel : KeyObjectRequest → KeyObjectAnswer) : KeyObjectAnswer :=
  kernel ⟨system.callback.cookie, object, 0⟩

/-- A name that the kernel produces is not in use, and it is no memory of the
driver. -/
def Possible (system : System) (frame home : Address)
    (answer : KeyObjectAnswer) : Prop :=
  answer.objectName = nullPtr ∨
    answer.objectName ∉ system.names.live ∧
      answer.objectName ≠ frame ∧ answer.objectName ≠ home ∧
        ∀ placed ∈ system.objects, answer.objectName ≠ placed.place

instance (system : System) (frame home : Address)
    (answer : KeyObjectAnswer) :
    Decidable (system.Possible frame home answer) :=
  inferInstanceAs (Decidable (_ ∨ _))

end System

def step (system : System) : Event → Option System
  | .keyObjectId object frame home kernel =>
      if system.Possible frame home (system.answer object kernel) then
        match
          system.callback.keyObjectId object frame kernel system.names with
        | (.ok keyObject, names) =>
            some
              { system with
                names := names
                objects := ⟨keyObject, home⟩ :: system.objects }
        | (.error _, names) => some { system with names := names }
      else none
  | .move index home =>
      system.objects[index]?.map fun placed =>
        { system with
          objects :=
            system.objects.set index { placed with place := home } }
  | .drop index =>
      system.objects[index]?.map fun placed =>
        { system with
          names := placed.keyObject.drop placed.place system.names
          objects := system.objects.eraseIdx index }

/-! ## The life of a name -/

/-- Only names that are due were released, and each name that is due is stored
in an object, whose drop is going to release it. -/
structure Accounted (system : System) : Prop where
  clean : system.names.stray = []
  stored : ∀ name ∈ system.names.live,
    ∃ placed ∈ system.objects, placed.keyObject.namePtr placed.place = name

/-- The kernel accepts the call and has no name for it, and nothing is
dropped. -/
def Nameless (system : System) (event : Event) : Prop :=
  match event with
  | .keyObjectId object _ _ kernel =>
      (system.answer object kernel).status = statusSuccess ∧
        (system.answer object kernel).objectName = nullPtr
  | .move _ _ => True
  | .drop _ => False

structure Untouched (system : System) : Prop where
  clean : system.names.stray = []
  none : system.names.live = []

theorem Untouched.accounted
    {system : System} (untouched : Untouched system) :
    Accounted system where
  clean := untouched.clean
  stored name member := by
    rw [untouched.none] at member
    cases member

theorem step_keyObjectId_cases
    {system next : System} {object frame home : Address}
    {kernel : KeyObjectRequest → KeyObjectAnswer}
    (stepped :
      step system (.keyObjectId object frame home kernel) = some next) :
    system.Possible frame home (system.answer object kernel) ∧
      (((system.answer object kernel).status = statusSuccess ∧
          ∃ keyObject,
            next =
              { system with
                names :=
                  if (system.answer object kernel).objectName = nullPtr then
                    system.names
                  else
                    system.names.issue
                      (system.answer object kernel).objectName
                objects := ⟨keyObject, home⟩ :: system.objects }) ∨
        ((system.answer object kernel).status ≠ statusSuccess ∧
          next =
            { system with
              names :=
                (cmCallbackGetKeyObjectIDEx (system.answer object kernel) 0
                  frame system.names).2.2.release frame })) := by
  by_cases possible :
      system.Possible frame home (system.answer object kernel)
  case neg => simp [step, possible] at stepped
  refine ⟨possible, ?_⟩
  rw [step, if_pos possible, WduCmCallback.keyObjectId_eq] at stepped
  by_cases success : (system.answer object kernel).status = statusSuccess
  · left
    have accepted :
        (kernel ⟨system.callback.cookie, object, 0⟩).status =
          statusSuccess :=
      success
    simp only [accepted, if_true, Option.some.injEq] at stepped
    exact ⟨success, _, stepped.symm⟩
  · right
    have failed :
        ¬(kernel ⟨system.callback.cookie, object, 0⟩).status =
          statusSuccess :=
      success
    simp only [failed, if_false, Option.some.injEq] at stepped
    exact ⟨success, stepped.symm⟩

/-- Nothing can be released while nothing is due. -/
theorem Untouched.release_stray
    {system : System} (untouched : Untouched system) (name : Address) :
    (system.names.release name).stray ≠ [] := by
  have absent : name ∉ system.names.live := by
    rw [untouched.none]
    exact List.not_mem_nil
  rw [Ledger.release_stray_of_not_mem absent]
  exact List.cons_ne_nil _ _

theorem untouched_new (callback : WduCmCallback) :
    Untouched (System.new callback) :=
  ⟨rfl, rfl⟩

/-- A call that is accepted and has a name loses it. -/
theorem named_not_accounted
    {system : System} {object frame home : Address}
    {kernel : KeyObjectRequest → KeyObjectAnswer} {keyObject : WduCmKeyObject}
    (named : (system.answer object kernel).objectName ≠ nullPtr)
    (possible : system.Possible frame home (system.answer object kernel)) :
    ¬Accounted
      { system with
        names := system.names.issue (system.answer object kernel).objectName
        objects := ⟨keyObject, home⟩ :: system.objects } := by
  intro accounted
  obtain ⟨placed, member, held⟩ :=
    accounted.stored (system.answer object kernel).objectName
      List.mem_cons_self
  rcases possible with null | ⟨_, _, notHome, notKept⟩
  · exact named null
  · rcases List.mem_cons.mp member with rfl | kept
    · exact notHome held.symm
    · exact notKept placed kept held.symm

/-- A call that fails drops an object that has no name. -/
theorem failed_not_accounted
    {system : System} (untouched : Untouched system)
    {object frame home : Address}
    {kernel : KeyObjectRequest → KeyObjectAnswer} {objects : List Placed}
    (possible : system.Possible frame home (system.answer object kernel)) :
    ¬Accounted
      { system with
        names :=
          (cmCallbackGetKeyObjectIDEx (system.answer object kernel) 0 frame
            system.names).2.2.release frame
        objects := objects } := by
  intro accounted
  have clean := accounted.clean
  unfold cmCallbackGetKeyObjectIDEx at clean
  split at clean
  · split at clean
    · exact untouched.release_stray frame clean
    · have live := Ledger.mem_live_of_release_clean clean
      rw [Ledger.issue_live, untouched.none, List.mem_singleton] at live
      rcases possible with null | ⟨_, notFrame, _⟩
      · contradiction
      · exact notFrame live.symm
  · exact untouched.release_stray frame clean

/-- What one step does to the accounts. -/
theorem accounted_step_iff
    {system next : System} {event : Event}
    (untouched : Untouched system)
    (stepped : step system event = some next) :
    (Accounted next ↔ Nameless system event) ∧
      (Nameless system event → Untouched next) := by
  cases event with
  | keyObjectId object frame home kernel =>
      obtain ⟨possible, ⟨success, keyObject, rfl⟩ | ⟨failed, rfl⟩⟩ :=
        step_keyObjectId_cases stepped
      · by_cases named :
            (system.answer object kernel).objectName = nullPtr
        · simp only [named, if_true]
          have next : Untouched
              { system with
                objects := ⟨keyObject, home⟩ :: system.objects } :=
            ⟨untouched.clean, untouched.none⟩
          exact
            ⟨iff_of_true next.accounted ⟨success, named⟩, fun _ => next⟩
        · simp only [named, if_false]
          exact
            ⟨iff_of_false (named_not_accounted named possible)
                fun nameless => named nameless.2,
              fun nameless => absurd nameless.2 named⟩
      · exact
          ⟨iff_of_false (failed_not_accounted untouched possible)
              fun nameless => failed nameless.1,
            fun nameless => absurd nameless.1 failed⟩
  | move index home =>
      obtain ⟨placed, _, rfl⟩ := Option.map_eq_some_iff.mp stepped
      have next : Untouched
          { system with
            objects :=
              system.objects.set index { placed with place := home } } :=
        ⟨untouched.clean, untouched.none⟩
      exact ⟨iff_of_true next.accounted trivial, fun _ => next⟩
  | drop index =>
      obtain ⟨placed, _, rfl⟩ := Option.map_eq_some_iff.mp stepped
      refine ⟨iff_of_false ?_ id, False.elim⟩
      intro accounted
      exact untouched.release_stray _ accounted.clean

/-- The names are accounted for along exactly the runs in which the kernel
accepts each call without a name and no object is dropped. -/
theorem accounted_iff
    (callback : WduCmCallback) (events : List Event) :
    Always step Accounted (System.new callback) events ↔
      Guarded step Nameless (System.new callback) events := by
  apply always_iff_guarded fun _ untouched => Untouched.accounted untouched
  · intro system event next untouched nameless stepped
    exact (accounted_step_iff untouched stepped).2 nameless
  · intro system event next untouched stepped accounted
    exact (accounted_step_iff untouched stepped).1.mp accounted
  · exact untouched_new callback

/-- A name is produced and lost, and the drop releases the string of the
object for it. -/
theorem name_lost :
    ∃ system,
      run step (System.new WduCmCallback.default)
          [.keyObjectId 0x8000 0x100 0x200
              fun _ => ⟨statusSuccess, 7, 0x9000⟩,
            .drop 0] = some system ∧
        system.names.live = [0x9000] ∧ system.names.stray = [0x200] ∧
        ¬Accounted system := by
  refine ⟨_, rfl, rfl, rfl, ?_⟩
  intro accounted
  cases accounted.clean

end KeyObject

end WinDrvUtils

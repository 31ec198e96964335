import WinDrvUtils.Io.FileObject

/-!
# The context of a file object

For each file object the event driver allocates a context with a remove lock:
`create` stores it, the other requests find it through `context_as_mut_ref`,
and `close` takes it out as a box and drops it. Nothing but the order of the
requests keeps a reference from outliving the box. The remove lock is what the
driver has for that: `cleanup` waits until nobody holds it.

A run is about one file object, with a step for each access to the lock. One
through a reference to a context that was freed ends the run. `create`
initialises the lock in its own frame and then moves it; the event in the lock
has the head of its list of waiters where it was initialised, so from then on
nobody can be waited for.
-/

namespace WinDrvUtils

namespace EventDriver

namespace FileContext

open StepSystem

/-- `file_rundown`. `home` is where the lock was initialised, and `holders`
are those that the kernel counts. -/
structure FileRundown where
  home : Address
  removed : Bool
  holders : List Address
  deriving DecidableEq, Repr

/-- How far a request is with the context that it has found. `answered` has
completed its request or left it pending. `cleaning`, `draining` and `waiting`
are those of `cleanup`, the last one in `release_and_wait`. -/
inductive Stage where
  | outside
  | entered (context : ContextPtr)
  | holding (context : ContextPtr)
  | answered (context : ContextPtr)
  | cleaning (context : ContextPtr)
  | draining (context : ContextPtr)
  | waiting (context : ContextPtr)
  | left
  deriving DecidableEq, Repr

/-- The reference that the request still uses. -/
def Stage.context : Stage → Option ContextPtr
  | .outside => none
  | .entered context => some context
  | .holding context => some context
  | .answered context => some context
  | .cleaning context => some context
  | .draining context => some context
  | .waiting context => some context
  | .left => none

/-- The kernel counts the request among the holders of the lock. -/
def Stage.holds : Stage → Bool
  | .holding _ => true
  | .answered _ => true
  | .draining _ => true
  | _ => false

/-- The request has come to the driver and was neither completed nor left
pending. -/
def Stage.isUnderWay : Stage → Bool
  | .outside => false
  | .answered _ => false
  | .left => false
  | _ => true

/-- The request is a cleanup that has not waited yet. -/
def Stage.cleans : Stage → Bool
  | .cleaning _ => true
  | .draining _ => true
  | _ => false

/-- What ends a run: `unwrap` of none, an `assert!`, a reference to a context
that was freed, and a wait for a lock that was moved. -/
inductive Fault where
  | unwrapNone
  | assertion
  | freedContext
  | movedLock
  deriving DecidableEq, Repr

structure System where
  object : FileObject
  boxes : Ledger ContextPtr
  rundown : FileRundown
  stages : Address → Stage
  fault : Option Fault

/-- `frame` is where `create` has its lock, and `answer` the address of the
box. -/
inductive Event where
  | create (frame answer : Address)
  | enter (irp : Address)
  | acquire (irp : Address)
  | answer (irp : Address)
  | release (irp : Address)
  | enterCleanup (irp : Address)
  | acquireCleanup (irp : Address)
  | releaseAndWait (irp : Address)
  | wake (irp : Address)
  | close
  deriving DecidableEq, Repr

namespace System

def new : System where
  object := ⟨.null, .null⟩
  boxes := Ledger.empty
  rundown := ⟨nullPtr, false, []⟩
  stages := fun _ => .outside
  fault := none

section

variable (system : System)

def setStage (irp : Address) (stage : Stage) : System :=
  { system with stages := Function.update system.stages irp stage }

def fail (fault : Fault) : System :=
  { system with fault := some fault }

/-- An access through a reference, and what is there after it. -/
def access (context : ContextPtr) (next : System) : System :=
  if context ∈ system.boxes.live then next else system.fail .freedContext

def create (frame answer : Address) : Option System :=
  match WduFileObject.context system.object with
  | some _ => some (system.fail .assertion)
  | none =>
      if answer = nullPtr then none
      else
        let box : ContextPtr := ⟨answer, system.boxes.issued.length⟩
        some
          { system with
            object := WduFileObject.setContext box system.object
            boxes := system.boxes.issue box
            rundown := ⟨frame, false, []⟩ }

/-- `context_as_mut_ref().unwrap()` -/
def find (irp : Address) (stage : ContextPtr → Stage) : Option System :=
  match system.stages irp with
  | .outside =>
      match WduFileObject.contextAsMutRef system.object with
      | none => some (system.fail .unwrapNone)
      | some context => some (system.setStage irp (stage context))
  | _ => none

/-- The lock has one more holder. -/
def hold (irp : Address) (stage : Stage) : System :=
  { system.setStage irp stage with
    rundown :=
      { system.rundown with holders := irp :: system.rundown.holders } }

/-- `device_control` completes a request that gets no lock, and returns. -/
def acquire (irp : Address) : Option System :=
  match system.stages irp with
  | .entered context =>
      some
        (system.access context
          (if system.rundown.removed then system.setStage irp .left
          else system.hold irp (.holding context)))
  | _ => none

def answer (irp : Address) : Option System :=
  match system.stages irp with
  | .holding context => some (system.setStage irp (.answered context))
  | _ => none

def release (irp : Address) : Option System :=
  match system.stages irp with
  | .answered context =>
      some
        (system.access context
          { system.setStage irp .left with
            rundown :=
              { system.rundown with
                holders := system.rundown.holders.erase irp } })
  | _ => none

/-- `cleanup` asserts that it gets the lock. -/
def acquireCleanup (irp : Address) : Option System :=
  match system.stages irp with
  | .cleaning context =>
      some
        (system.access context
          (if system.rundown.removed then system.fail .assertion
          else system.hold irp (.draining context)))
  | _ => none

/-- The kernel waits on the event in the lock if there are other holders. -/
def releaseAndWait (irp : Address) : Option System :=
  match system.stages irp with
  | .draining context =>
      let others := system.rundown.holders.erase irp
      some
        (system.access context
          (if others ≠ [] ∧ system.rundown.home ≠ context.address then
            system.fail .movedLock
          else
            { system.setStage irp (.waiting context) with
              rundown :=
                { system.rundown with removed := true, holders := others } }))
  | _ => none

/-- `release_and_wait` clears its tag when it comes back. -/
def wake (irp : Address) : Option System :=
  match system.stages irp with
  | .waiting context =>
      if system.rundown.holders = [] then
        some (system.access context (system.setStage irp .left))
      else none
  | _ => none

/-- The box that `context` returns is dropped. -/
def close : System :=
  match WduFileObject.context system.object with
  | none => system
  | some box => { system with boxes := system.boxes.release box }

end

def step (system : System) (event : Event) : Option System :=
  if system.fault.isSome then none
  else
    match event with
    | .create frame answer => system.create frame answer
    | .enter irp => system.find irp .entered
    | .acquire irp => system.acquire irp
    | .answer irp => system.answer irp
    | .release irp => system.release irp
    | .enterCleanup irp => system.find irp .cleaning
    | .acquireCleanup irp => system.acquireCleanup irp
    | .releaseAndWait irp => system.releaseAndWait irp
    | .wake irp => system.wake irp
    | .close => some system.close

/-! ## The effect of an event -/

theorem context_eq (system : System) :
    WduFileObject.context system.object =
      if system.object.fsContext.IsNull then none
      else some system.object.fsContext := rfl

theorem contextAsMutRef_eq (system : System) :
    WduFileObject.contextAsMutRef system.object =
      if system.object.fsContext.IsNull then none
      else some system.object.fsContext := rfl

inductive Effect (system : System) : Event → System → Prop
  | asserted {frame answer}
      (there : ¬ system.object.fsContext.IsNull) :
      Effect system (.create frame answer) (system.fail .assertion)
  | created {frame answer}
      (null : system.object.fsContext.IsNull)
      (granted : answer ≠ nullPtr) :
      Effect system (.create frame answer)
        { system with
          object :=
            WduFileObject.setContext ⟨answer, system.boxes.issued.length⟩
              system.object
          boxes :=
            system.boxes.issue ⟨answer, system.boxes.issued.length⟩
          rundown := ⟨frame, false, []⟩ }
  | unwrapped {irp event}
      (comes : event = .enter irp ∨ event = .enterCleanup irp)
      (null : system.object.fsContext.IsNull) :
      Effect system event (system.fail .unwrapNone)
  | entered {irp}
      (outside : system.stages irp = .outside)
      (there : ¬ system.object.fsContext.IsNull) :
      Effect system (.enter irp)
        (system.setStage irp (.entered system.object.fsContext))
  | came {irp}
      (outside : system.stages irp = .outside)
      (there : ¬ system.object.fsContext.IsNull) :
      Effect system (.enterCleanup irp)
        (system.setStage irp (.cleaning system.object.fsContext))
  | freed {event irp context}
      (uses : (system.stages irp).context = some context)
      (freed : context ∉ system.boxes.live) :
      Effect system event (system.fail .freedContext)
  | refused {irp context}
      (entered : system.stages irp = .entered context)
      (removed : system.rundown.removed = true) :
      Effect system (.acquire irp) (system.setStage irp .left)
  | acquired {irp context}
      (entered : system.stages irp = .entered context)
      (free : system.rundown.removed = false) :
      Effect system (.acquire irp) (system.hold irp (.holding context))
  | answered {irp context}
      (holding : system.stages irp = .holding context) :
      Effect system (.answer irp) (system.setStage irp (.answered context))
  | released {irp context}
      (answered : system.stages irp = .answered context) :
      Effect system (.release irp)
        { system.setStage irp .left with
          rundown :=
            { system.rundown with
              holders := system.rundown.holders.erase irp } }
  | turnedAway {irp context}
      (cleaning : system.stages irp = .cleaning context)
      (removed : system.rundown.removed = true) :
      Effect system (.acquireCleanup irp) (system.fail .assertion)
  | drains {irp context}
      (cleaning : system.stages irp = .cleaning context)
      (free : system.rundown.removed = false) :
      Effect system (.acquireCleanup irp)
        (system.hold irp (.draining context))
  | moved {irp context}
      (draining : system.stages irp = .draining context)
      (held : system.rundown.holders.erase irp ≠ [])
      (away : system.rundown.home ≠ context.address) :
      Effect system (.releaseAndWait irp) (system.fail .movedLock)
  | waits {irp context}
      (draining : system.stages irp = .draining context)
      (waitable :
        system.rundown.holders.erase irp = [] ∨
          system.rundown.home = context.address) :
      Effect system (.releaseAndWait irp)
        { system.setStage irp (.waiting context) with
          rundown :=
            { system.rundown with
              removed := true
              holders := system.rundown.holders.erase irp } }
  | woken {irp context}
      (waiting : system.stages irp = .waiting context)
      (nobody : system.rundown.holders = []) :
      Effect system (.wake irp) (system.setStage irp .left)
  | closed (null : system.object.fsContext.IsNull) :
      Effect system .close system
  | dropped (there : ¬ system.object.fsContext.IsNull) :
      Effect system .close
        { system with
          boxes := system.boxes.release system.object.fsContext }

section

variable {system next : System} {irp : Address} {context : ContextPtr}

theorem access_effect
    {event : Event} (uses : (system.stages irp).context = some context)
    (effect : Effect system event next) :
    Effect system event (system.access context next) := by
  unfold access
  split
  · exact effect
  · next freed => exact .freed uses freed

theorem create_effect
    {frame answer : Address}
    (stepped : system.create frame answer = some next) :
    Effect system (.create frame answer) next := by
  unfold create at stepped
  rw [context_eq] at stepped
  by_cases null : system.object.fsContext.IsNull
  · rw [if_pos null] at stepped
    obtain ⟨granted, stepped⟩ := Option.ite_none_left_eq_some.mp stepped
    cases stepped
    exact .created null granted
  · rw [if_neg null] at stepped
    cases stepped
    exact .asserted null

/-- The request comes to its context, or there is none. -/
theorem find_effect
    {event : Event} {stage : ContextPtr → Stage}
    (comes : event = .enter irp ∨ event = .enterCleanup irp)
    (found :
      system.stages irp = .outside → ¬ system.object.fsContext.IsNull →
        Effect system event
          (system.setStage irp (stage system.object.fsContext)))
    (stepped : system.find irp stage = some next) :
    Effect system event next := by
  unfold find at stepped
  split at stepped
  case h_1 outside =>
      rw [contextAsMutRef_eq] at stepped
      by_cases null : system.object.fsContext.IsNull
      · rw [if_pos null] at stepped
        cases stepped
        exact .unwrapped comes null
      · rw [if_neg null] at stepped
        cases stepped
        exact found outside null
  case h_2 => cases stepped

theorem acquire_effect (stepped : system.acquire irp = some next) :
    Effect system (.acquire irp) next := by
  unfold acquire at stepped
  split at stepped
  case h_1 context entered =>
      cases stepped
      refine access_effect (congrArg Stage.context entered) ?_
      split
      · next removed => exact .refused entered removed
      · next free => exact .acquired entered (Bool.eq_false_iff.mpr free)
  case h_2 => cases stepped

theorem answer_effect (stepped : system.answer irp = some next) :
    Effect system (.answer irp) next := by
  unfold answer at stepped
  split at stepped
  case h_1 context holding =>
      cases stepped
      exact .answered holding
  case h_2 => cases stepped

theorem release_effect (stepped : system.release irp = some next) :
    Effect system (.release irp) next := by
  unfold release at stepped
  split at stepped
  case h_1 context answered =>
      cases stepped
      exact
        access_effect (congrArg Stage.context answered) (.released answered)
  case h_2 => cases stepped

theorem acquireCleanup_effect
    (stepped : system.acquireCleanup irp = some next) :
    Effect system (.acquireCleanup irp) next := by
  unfold acquireCleanup at stepped
  split at stepped
  case h_1 context cleaning =>
      cases stepped
      refine access_effect (congrArg Stage.context cleaning) ?_
      split
      · next removed => exact .turnedAway cleaning removed
      · next free => exact .drains cleaning (Bool.eq_false_iff.mpr free)
  case h_2 => cases stepped

theorem releaseAndWait_effect
    (stepped : system.releaseAndWait irp = some next) :
    Effect system (.releaseAndWait irp) next := by
  unfold releaseAndWait at stepped
  split at stepped
  case h_1 context draining =>
      cases stepped
      refine access_effect (congrArg Stage.context draining) ?_
      split
      · next moved => exact .moved draining moved.1 moved.2
      · next waitable =>
        refine .waits draining ((not_and_or.mp waitable).imp ?_ ?_)
        · exact not_not.mp
        · exact not_not.mp
  case h_2 => cases stepped

theorem wake_effect (stepped : system.wake irp = some next) :
    Effect system (.wake irp) next := by
  unfold wake at stepped
  split at stepped
  case h_1 context waiting =>
      obtain ⟨nobody, stepped⟩ := Option.ite_none_right_eq_some.mp stepped
      cases stepped
      exact
        access_effect (congrArg Stage.context waiting)
          (.woken waiting nobody)
  case h_2 => cases stepped

theorem close_effect (system : System) :
    Effect system .close system.close := by
  unfold close
  rw [context_eq]
  by_cases null : system.object.fsContext.IsNull
  · rw [if_pos null]
    exact .closed null
  · rw [if_neg null]
    exact .dropped null

theorem effect_of_step
    {event : Event} (stepped : system.step event = some next) :
    Effect system event next := by
  obtain ⟨_, stepped⟩ := Option.ite_none_left_eq_some.mp stepped
  cases event with
  | create frame answer => exact create_effect stepped
  | enter irp => exact find_effect (Or.inl rfl) .entered stepped
  | acquire irp => exact acquire_effect stepped
  | answer irp => exact answer_effect stepped
  | release irp => exact release_effect stepped
  | enterCleanup irp => exact find_effect (Or.inr rfl) .came stepped
  | acquireCleanup irp => exact acquireCleanup_effect stepped
  | releaseAndWait irp => exact releaseAndWait_effect stepped
  | wake irp => exact wake_effect stepped
  | close =>
      cases stepped
      exact close_effect system

end

/-! ## When a context is sound -/

/-- No request has failed, no context was freed twice, what the requests use
is alive, and what is alive is the context of the file object. -/
structure Sound (system : System) : Prop where
  noFault : system.fault = none
  clean : system.boxes.stray = []
  alive :
    ∀ irp context, (system.stages irp).context = some context →
      context ∈ system.boxes.live
  kept :
    ∀ context ∈ system.boxes.live, system.object.fsContext = context

/-- The invariant of sound runs: no box is null, and there is one at most. -/
structure Stable (system : System) : Prop where
  sound : system.Sound
  real : ∀ box ∈ system.boxes.issued, ¬ box.IsNull
  single : system.boxes.live.Nodup

def Opened (system : System) : Prop :=
  system.object.fsContext ∈ system.boxes.live

/-- The lock can be waited for. -/
def Waitable (system : System) (irp : Address) : Prop :=
  system.rundown.holders.erase irp = [] ∨
    system.rundown.home = system.object.fsContext.address

/-- `create` comes to a file object without a context and the others to one
with it, `cleanup` comes once and can wait, and `close` comes when nobody uses
the context any more. -/
def InOrder (system : System) : Event → Prop
  | .create _ _ => system.object.fsContext.IsNull
  | .enter _ | .enterCleanup _ => system.Opened
  | .acquireCleanup _ => system.rundown.removed = false
  | .releaseAndWait irp => system.Waitable irp
  | .close =>
      system.object.fsContext.IsNull ∨
        (system.Opened ∧ ∀ irp, (system.stages irp).context = none)
  | _ => True

section

variable {system next : System} {irp : Address} {context : ContextPtr}

theorem not_sound_fail (fault : Fault) : ¬ (system.fail fault).Sound :=
  fun sound => nomatch sound.noFault

/-- What a request uses is the context of the file object. -/
theorem Sound.same
    (sound : system.Sound)
    (uses : (system.stages irp).context = some context) :
    system.object.fsContext = context :=
  sound.kept context (sound.alive irp context uses)

theorem Stable.not_isNull
    (stable : system.Stable) (opened : system.Opened) :
    ¬ system.object.fsContext.IsNull :=
  stable.real _ (Ledger.mem_issued_of_live opened)

/-- Without a context in the file object none is alive. -/
theorem Stable.live_nil
    (stable : system.Stable) (null : system.object.fsContext.IsNull) :
    system.boxes.live = [] := by
  refine List.eq_nil_iff_forall_not_mem.mpr fun context live => ?_
  have opened := live
  rw [← stable.sound.kept context live] at opened
  exact stable.not_isNull opened null

/-- A request moves on, and uses nothing but what is alive. -/
theorem Stable.move
    (stable : system.Stable) {stage : Stage} (rundown : FileRundown)
    (alive :
      ∀ context, stage.context = some context →
        context ∈ system.boxes.live) :
    Stable { system.setStage irp stage with rundown := rundown } := by
  refine ⟨⟨stable.sound.noFault, stable.sound.clean, ?_, stable.sound.kept⟩,
    stable.real, stable.single⟩
  intro other context uses
  unfold setStage at uses
  dsimp only at uses
  by_cases same : other = irp
  · rw [same, Function.update_self] at uses
    exact alive context uses
  · rw [Function.update_of_ne same] at uses
    exact stable.sound.alive other context uses

/-- A request goes on with what it uses. -/
theorem Stable.stay
    (stable : system.Stable) {stage after : Stage} (rundown : FileRundown)
    (before : system.stages irp = stage)
    (same : after.context = stage.context) :
    Stable { system.setStage irp after with rundown := rundown } := by
  refine stable.move rundown fun context uses => ?_
  rw [same, ← before] at uses
  exact stable.sound.alive irp context uses

theorem Stable.leave (stable : system.Stable) (rundown : FileRundown) :
    Stable { system.setStage irp .left with rundown := rundown } :=
  stable.move rundown nofun

theorem Stable.create
    {frame answer : Address} (stable : system.Stable)
    (null : system.object.fsContext.IsNull) (granted : answer ≠ nullPtr) :
    Stable
      { system with
        object :=
          WduFileObject.setContext ⟨answer, system.boxes.issued.length⟩
            system.object
        boxes := system.boxes.issue ⟨answer, system.boxes.issued.length⟩
        rundown := ⟨frame, false, []⟩ } := by
  have nothing := stable.live_nil null
  refine ⟨⟨stable.sound.noFault, stable.sound.clean, ?_, ?_⟩, ?_, ?_⟩
  · intro irp context uses
    exact List.mem_cons_of_mem _ (stable.sound.alive irp context uses)
  · intro context live
    rw [Ledger.issue_live, nothing, List.mem_singleton] at live
    rw [live]
    exact FileObject.read_write_self system.object .fsContext _
  · intro box issued
    rcases List.mem_cons.mp issued with rfl | before
    · exact granted
    · exact stable.real box before
  · rw [Ledger.issue_live, nothing]
    exact List.nodup_cons.mpr ⟨List.not_mem_nil, List.nodup_nil⟩

theorem Stable.drop
    (stable : system.Stable) (opened : system.Opened)
    (nobody : ∀ irp, (system.stages irp).context = none) :
    Stable
      { system with
        boxes := system.boxes.release system.object.fsContext } := by
  have live := Ledger.release_live_of_mem opened
  refine ⟨⟨stable.sound.noFault, ?_, ?_, ?_⟩, ?_, ?_⟩
  · exact (Ledger.release_stray_of_mem opened).trans stable.sound.clean
  · intro irp context uses
    have none : (system.stages irp).context = none := nobody irp
    rw [none] at uses
    cases uses
  · intro context left
    rw [live] at left
    exact stable.sound.kept context (List.mem_of_mem_erase left)
  · rw [Ledger.release_issued]
    exact stable.real
  · rw [live]
    exact stable.single.erase _

/-- From a stable state a step stays sound only if it is in order. -/
theorem inOrder_of_sound
    {event : Event} (stable : system.Stable)
    (effect : Effect system event next) (after : next.Sound) :
    system.InOrder event := by
  cases effect with
  | asserted _ | unwrapped _ _ | freed _ _ | turnedAway _ _ | moved _ _ _ =>
      exact absurd after (not_sound_fail _)
  | created null _ => exact null
  | @entered irp _ _ =>
      refine after.alive irp _ ?_
      unfold setStage
      dsimp only
      rw [Function.update_self]
      rfl
  | @came irp _ _ =>
      refine after.alive irp _ ?_
      unfold setStage
      dsimp only
      rw [Function.update_self]
      rfl
  | refused _ _ | acquired _ _ | answered _ | released _ | woken _ _ =>
      trivial
  | drains _ free => exact free
  | waits draining waitable =>
      unfold InOrder Waitable
      rw [stable.sound.same (congrArg Stage.context draining)]
      exact waitable
  | closed null => exact Or.inl null
  | dropped _ =>
      have opened : system.Opened :=
        Ledger.mem_live_of_release_clean after.clean
      refine Or.inr ⟨opened, fun irp => ?_⟩
      cases uses : (system.stages irp).context with
      | none => rfl
      | some context =>
          have still := after.alive irp context uses
          rw [Ledger.release_live_of_mem opened, stable.sound.same uses,
            stable.single.mem_erase_iff] at still
          exact absurd rfl still.1

theorem stable_of_inOrder
    {event : Event} (stable : system.Stable)
    (effect : Effect system event next) (inOrder : system.InOrder event) :
    next.Stable := by
  cases effect with
  | asserted there => exact absurd inOrder there
  | created null granted => exact stable.create null granted
  | unwrapped comes null =>
      rcases comes with rfl | rfl
      · exact absurd null (stable.not_isNull inOrder)
      · exact absurd null (stable.not_isNull inOrder)
  | entered _ _ =>
      refine stable.move system.rundown fun context uses => ?_
      cases uses
      exact inOrder
  | came _ _ =>
      refine stable.move system.rundown fun context uses => ?_
      cases uses
      exact inOrder
  | freed uses freed => exact absurd (stable.sound.alive _ _ uses) freed
  | refused _ _ => exact stable.leave system.rundown
  | acquired entered _ => exact stable.stay _ entered rfl
  | answered holding => exact stable.stay system.rundown holding rfl
  | released _ => exact stable.leave _
  | turnedAway _ removed => exact absurd removed (by rw [inOrder]; exact nofun)
  | drains cleaning _ => exact stable.stay _ cleaning rfl
  | moved draining held away =>
      rcases inOrder with none | home
      · exact absurd none held
      · rw [stable.sound.same (congrArg Stage.context draining)] at home
        exact absurd home away
  | waits draining _ => exact stable.stay _ draining rfl
  | woken _ _ => exact stable.leave system.rundown
  | closed _ => exact stable
  | dropped there =>
      rcases inOrder with null | ⟨opened, nobody⟩
      · exact absurd null there
      · exact stable.drop opened nobody

end

theorem stable_new : System.new.Stable where
  sound := ⟨rfl, rfl, nofun, nofun⟩
  real := nofun
  single := List.nodup_nil

/-- For every run about one file object: no request fails, what the requests
use is alive, and the context is neither lost nor freed twice, if and only if
`create` comes first and once, `cleanup` once, `close` when nobody uses the
context, and `cleanup` finds the lock free or where it was initialised. -/
theorem context_sound_iff (events : List Event) :
    Always step Sound new events ↔ Guarded step InOrder new events :=
  always_iff_guarded (fun _ stable => stable.sound)
    (fun _ _ _ stable inOrder stepped =>
      stable_of_inOrder stable (effect_of_step stepped) inOrder)
    (fun _ _ _ stable stepped after =>
      inOrder_of_sound stable (effect_of_step stepped) after)
    stable_new

/-! ## What the I/O manager promises -/

def CleanupSent (system : System) : Prop :=
  system.rundown.removed = true ∨
    ∃ irp, (system.stages irp).cleans = true

/-- A file object gets one `create` and one `cleanup`, and `close` when these
are over and every other request has been completed or is pending. The lock
can be waited for. -/
def Promised (system : System) : Event → Prop
  | .create _ _ => system.object.fsContext.IsNull
  | .enter _ => system.Opened
  | .enterCleanup _ => system.Opened ∧ ¬ system.CleanupSent
  | .releaseAndWait irp => system.Waitable irp
  | .close =>
      system.object.fsContext.IsNull ∨
        (system.Opened ∧ system.rundown.removed = true ∧
          ∀ irp, (system.stages irp).isUnderWay = false)
  | _ => True

/-- What the remove lock knows. From `release_and_wait` on nobody holds it, or
the cleanup still waits. -/
structure Gated (system : System) : Prop where
  counted :
    ∀ irp, (system.stages irp).holds = true →
      irp ∈ system.rundown.holders
  drained :
    system.rundown.removed = true →
      system.rundown.holders = [] ∨
        ∃ irp context, system.stages irp = .waiting context
  alone :
    ∀ irp other, (system.stages irp).cleans = true →
      (system.stages other).cleans = true → irp = other
  early :
    ∀ irp, (system.stages irp).cleans = true →
      system.rundown.removed = false

section

variable {system next : System} {irp : Address} {context : ContextPtr}

/-- What holds of the stage of one request and of those of the others. -/
theorem forall_setStage
    {property : Address → Stage → Prop} {stage : Stage}
    (own : property irp stage)
    (others :
      ∀ other, other ≠ irp → property other (system.stages other)) :
    ∀ other, property other ((system.setStage irp stage).stages other) :=
  (Function.forall_update_iff system.stages property).mpr ⟨own, others⟩

/-- A request that does not clean moves on, and leaves the holders to the
others. -/
theorem Gated.move
    (gated : system.Gated) {stage : Stage} (holders : List Address)
    (quiet : stage.cleans = false)
    (counted : stage.holds = true → irp ∈ holders)
    (others :
      ∀ other, other ≠ irp → other ∈ system.rundown.holders →
        other ∈ holders)
    (drained :
      system.rundown.removed = true →
        holders = [] ∨
          ∃ other context,
            (system.setStage irp stage).stages other = .waiting context) :
    Gated
      { system.setStage irp stage with
        rundown := { system.rundown with holders := holders } } := by
  have cleans :
      ∀ other, ((system.setStage irp stage).stages other).cleans = true →
        (system.stages other).cleans = true := by
    refine
      @forall_setStage system irp
        (fun other stage =>
          stage.cleans = true → (system.stages other).cleans = true)
        stage (fun own => ?_) fun _ _ => id
    rw [quiet] at own
    cases own
  refine ⟨?_, drained, fun first second one two => ?_, fun other one => ?_⟩
  · exact
      @forall_setStage system irp
        (fun other stage => stage.holds = true → other ∈ holders) stage
        counted fun other apart holds =>
          others other apart (gated.counted other holds)
  · exact
      gated.alone first second (cleans first one) (cleans second two)
  · exact gated.early other (cleans other one)

/-- The cleanup that waits is another request. -/
theorem Gated.still_drained
    (gated : system.Gated) {stage before : Stage}
    (here : system.stages irp = before)
    (notWaiting : ∀ context, before ≠ .waiting context)
    (removed : system.rundown.removed = true) :
    system.rundown.holders = [] ∨
      ∃ other context,
        (system.setStage irp stage).stages other = .waiting context := by
  refine (gated.drained removed).imp_right ?_
  rintro ⟨other, context, waiting⟩
  have apart : other ≠ irp := by
    rintro rfl
    exact notWaiting context (here.symm.trans waiting)
  exact ⟨other, context, (Function.update_of_ne apart _ _).trans waiting⟩

/-- The lock protects the context until `close`: whoever is not under way has
left it by then. -/
theorem Gated.nobody
    (gated : system.Gated) (removed : system.rundown.removed = true)
    (ended : ∀ irp, (system.stages irp).isUnderWay = false) :
    ∀ irp, (system.stages irp).context = none := by
  intro irp
  have own := ended irp
  cases stage : system.stages irp with
  | outside => rfl
  | left => rfl
  | answered context =>
      have holder := gated.counted irp (by rw [stage]; rfl)
      rcases gated.drained removed with none | ⟨other, waited, waiting⟩
      · rw [none] at holder
        cases holder
      · have busy := ended other
        rw [waiting] at busy
        cases busy
  | entered _ | holding _ | cleaning _ | draining _ | waiting _ =>
      rw [stage] at own
      cases own

theorem inOrder_of_promised
    {event : Event} (gated : system.Gated)
    (effect : Effect system event next)
    (promised : system.Promised event) (stable : system.Stable) :
    system.InOrder event := by
  cases event with
  | create frame answer => exact promised
  | enter irp => exact promised
  | enterCleanup irp => exact promised.1
  | releaseAndWait irp => exact promised
  | close =>
      rcases promised with null | ⟨opened, removed, ended⟩
      · exact Or.inl null
      · exact Or.inr ⟨opened, gated.nobody removed ended⟩
  | acquireCleanup irp =>
      cases effect with
      | turnedAway cleaning _ =>
          exact gated.early irp (by rw [cleaning]; rfl)
      | drains _ free => exact free
      | freed uses freed => exact absurd (stable.sound.alive _ _ uses) freed
      | unwrapped comes _ => exact absurd comes (by simp)
  | acquire _ | answer _ | release _ | wake _ => trivial

theorem gated_of_effect
    {event : Event} (gated : system.Gated) (stable : system.Stable)
    (effect : Effect system event next)
    (promised : system.Promised event) :
    next.Gated := by
  cases effect with
  | asserted _ | unwrapped _ _ | freed _ _ | turnedAway _ _ | moved _ _ _ =>
      exact ⟨gated.counted, gated.drained, gated.alone, gated.early⟩
  | created null _ =>
      refine ⟨fun irp holds => ?_, nofun, gated.alone, fun _ _ => rfl⟩
      have uses :
          ∃ context, (system.stages irp).context = some context := by
        revert holds
        show (system.stages irp).holds = true → _
        cases system.stages irp with
        | holding context | answered context | draining context =>
            exact fun _ => ⟨context, rfl⟩
        | outside | entered _ | cleaning _ | waiting _ | left => exact nofun
      obtain ⟨context, uses⟩ := uses
      have live := stable.sound.alive irp context uses
      rw [stable.live_nil null] at live
      cases live
  | entered outside _ =>
      exact
        gated.move system.rundown.holders rfl nofun (fun _ _ => id)
          (gated.still_drained outside nofun)
  | @came irp outside _ =>
      obtain ⟨_, notSent⟩ := promised
      obtain ⟨notRemoved, nobody⟩ := not_or.mp notSent
      have free := Bool.eq_false_iff.mpr notRemoved
      refine ⟨?_, fun removed => absurd removed notRemoved, ?_, fun _ _ => free⟩
      · exact
          @forall_setStage system irp
            (fun other stage =>
              stage.holds = true → other ∈ system.rundown.holders)
            (.cleaning system.object.fsContext) nofun
            fun other _ => gated.counted other
      · have only :
            ∀ other,
              ((system.setStage irp
                (.cleaning system.object.fsContext)).stages
                  other).cleans = true → other = irp :=
          @forall_setStage system irp
            (fun other stage => stage.cleans = true → other = irp)
            (.cleaning system.object.fsContext) (fun _ => rfl)
            fun other _ cleans => absurd ⟨other, cleans⟩ nobody
        intro first second one two
        exact (only first one).trans (only second two).symm
  | refused entered _ =>
      exact
        gated.move system.rundown.holders rfl nofun (fun _ _ => id)
          (gated.still_drained entered nofun)
  | acquired entered free =>
      refine
        gated.move _ rfl (fun _ => List.mem_cons_self)
          (fun _ _ => List.mem_cons_of_mem _) fun removed => ?_
      rw [free] at removed
      cases removed
  | @answered irp context holding =>
      have holder := gated.counted irp (by rw [holding]; rfl)
      exact
        gated.move system.rundown.holders rfl (fun _ => holder)
          (fun _ _ => id) (gated.still_drained holding nofun)
  | @released irp context answered =>
      refine
        gated.move _ rfl nofun
          (fun other apart => (List.mem_erase_of_ne apart).mpr)
          fun removed => ?_
      refine (gated.still_drained answered nofun removed).imp_left ?_
      intro none
      rw [none]
      rfl
  | @drains irp context cleaning free =>
      have own : (system.stages irp).cleans = true := by
        rw [cleaning]
        rfl
      have cleans :
          ∀ other,
            ((system.setStage irp (.draining context)).stages
                other).cleans = true →
              (system.stages other).cleans = true :=
        @forall_setStage system irp
          (fun other stage =>
            stage.cleans = true → (system.stages other).cleans = true)
          (.draining context) (fun _ => own) fun _ _ => id
      refine ⟨?_, fun removed => ?_, fun first second one two => ?_,
        fun _ _ => free⟩
      · exact
          @forall_setStage system irp
            (fun other stage =>
              stage.holds = true → other ∈ irp :: system.rundown.holders)
            (.draining context) (fun _ => List.mem_cons_self)
            fun other _ holds =>
              List.mem_cons_of_mem _ (gated.counted other holds)
      · have still : system.rundown.removed = true := removed
        rw [free] at still
        cases still
      · exact
          gated.alone first second (cleans first one) (cleans second two)
  | @waits irp context draining _ =>
      have own : (system.stages irp).cleans = true := by
        rw [draining]
        rfl
      have noneCleans :
          ∀ other,
            ((system.setStage irp (.waiting context)).stages
                other).cleans = false :=
        @forall_setStage system irp
          (fun _ stage => stage.cleans = false) (.waiting context) rfl
          fun other apart => Bool.eq_false_iff.mpr fun cleans =>
            apart (gated.alone other irp cleans own)
      refine
        ⟨?_, fun _ => Or.inr ⟨irp, context, Function.update_self _ _ _⟩,
          fun first _ one _ => ?_, fun first one => ?_⟩
      · exact
          @forall_setStage system irp
            (fun other stage =>
              stage.holds = true → other ∈ system.rundown.holders.erase irp)
            (.waiting context) nofun fun other apart holds =>
              (List.mem_erase_of_ne apart).mpr (gated.counted other holds)
      · exact absurd one (Bool.eq_false_iff.mp (noneCleans first))
      · exact absurd one (Bool.eq_false_iff.mp (noneCleans first))
  | woken waiting nobody =>
      exact
        gated.move system.rundown.holders rfl nofun (fun _ _ => id)
          fun _ => Or.inl nobody
  | closed _ => exact gated
  | dropped _ =>
      exact ⟨gated.counted, gated.drained, gated.alone, gated.early⟩

end

theorem gated_new : System.new.Gated :=
  ⟨nofun, nofun, nofun, nofun⟩

/-- For every run about one file object in which the I/O manager keeps its
promises and the lock can be waited for: no request fails, what the requests
use is alive, and the context is neither lost nor freed twice. -/
theorem context_sound
    (events : List Event) (promised : Guarded step Promised new events) :
    Always step Sound new events := by
  have preserved :
      ∀ system event next, (Stable system ∧ Gated system) →
        system.Promised event → system.step event = some next →
          (Stable next ∧ Gated next) := by
    rintro system event next ⟨stable, gated⟩ promised stepped
    have effect := effect_of_step stepped
    exact
      ⟨stable_of_inOrder stable effect
          (inOrder_of_promised gated effect promised stable),
        gated_of_effect gated stable effect promised⟩
  exact
    (always_of_guarded preserved ⟨stable_new, gated_new⟩ promised).mono
      fun _ both => both.1.sound

/-- One request, and then the cleanup that finds the lock free. -/
def openAndClose : List Event :=
  [.create 0x900 0x1000, .enter 1, .acquire 1, .answer 1, .release 1,
    .enterCleanup 2, .acquireCleanup 2, .releaseAndWait 2, .wake 2, .close]

theorem openAndClose_sound :
    (∃ last, run step new openAndClose = some last ∧
        last.boxes.released = [⟨0x1000, 0⟩]) ∧
      Always step Sound new openAndClose := by
  refine ⟨⟨_, rfl, rfl⟩, context_sound _ ?_⟩
  refine .cons rfl rfl (.cons rfl List.mem_cons_self (.cons rfl trivial ?_))
  refine .cons rfl trivial (.cons rfl trivial (.cons rfl ⟨?_, ?_⟩ ?_))
  · exact List.mem_cons_self
  · rintro (removed | ⟨irp, cleans⟩)
    · cases removed
    · refine absurd cleans ?_
      rcases irp with _ | _ | irp <;> exact Bool.false_ne_true
  · refine .cons rfl trivial (.cons rfl (Or.inl rfl) (.cons rfl trivial ?_))
    refine .cons rfl (Or.inr ⟨List.mem_cons_self, rfl, fun irp => ?_⟩) trivial
    rcases irp with _ | _ | _ | irp <;> rfl

end System

end FileContext

end EventDriver

end WinDrvUtils

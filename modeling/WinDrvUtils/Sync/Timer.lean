import Mathlib.Data.List.Nodup
import WinDrvUtils.Nt
import WinDrvUtils.Library.StepSystem

/-!
# Timers and deferred calls

`WduDpc::init` gives the kernel the routine `custom_dpc` with the address of
the wrapper as its context, and `custom_dpc` calls what is in the wrapper at
that address. The kernel keeps the addresses of the timers that are set and of
the deferred calls in its queue; what belongs to them, the timer's pointer to
a deferred call included, it keeps in the memory of the wrappers.

So a wrapper has to stay where it was initialized while the kernel knows it,
and nothing in the library sees to that: neither wrapper has a `Drop`,
`WduDpc::remove` does nothing, and `WduTimer::init_ex` initializes a timer in
one place and returns it to another one.
-/

namespace WinDrvUtils

/-- `KDPC`. The routine is `custom_dpc` as soon as there is a context, and
`queued` is its link into the kernel's queue. -/
structure Kdpc where
  deferredContext : Option Address
  queued : Bool
  deriving DecidableEq, Repr

def Kdpc.zeroed : Kdpc := ⟨none, false⟩

def keInitializeDpc (context : Address) : Kdpc := ⟨some context, false⟩

structure WduDpc (Context : Type) where
  dpc : Kdpc
  context : Option Context
  routine : Option CodePtr

namespace WduDpc

variable {Context : Type}

def new : WduDpc Context := ⟨.zeroed, none, none⟩

/-- `self` is the address of the wrapper. -/
def init (self : Address) (routine : CodePtr) (context : Option Context) :
    WduDpc Context where
  dpc := keInitializeDpc self
  context := context
  routine := some routine

end WduDpc

/-- `KTIMER`. Its header has links to itself, so `KeInitializeTimer` leaves
the address of the timer in it. -/
structure Ktimer where
  header : Option Address
  inserted : Bool
  dpc : Option Address
  period : Nat
  deriving DecidableEq, Repr

def Ktimer.zeroed : Ktimer := ⟨none, false, none, 0⟩

/-- Also `KeInitializeTimerEx`; the type of a timer is about those who wait
for it. -/
def keInitializeTimer (address : Address) : Ktimer :=
  ⟨some address, false, none, 0⟩

structure WduTimer where
  timer : Ktimer
  deriving DecidableEq, Repr

namespace WduTimer

def new : WduTimer := ⟨.zeroed⟩

def init (self : Address) : WduTimer := ⟨keInitializeTimer self⟩

/-- `place` is the local that the function returns. -/
def initEx (place : Address) : WduTimer := ⟨keInitializeTimer place⟩

end WduTimer

namespace DeferredCalls

open StepSystem

/-- What the kernel runs into. -/
inductive Fault where
  | dpcGone (place : Address)
  | timerGone (place : Address)
  | routineNull
  | wrapperGone (place : Address)
  deriving DecidableEq, Repr

/-- A call of a routine, with the place of its wrapper and the context that it
finds there. -/
structure Call (Context : Type) where
  place : Address
  routine : CodePtr
  context : Option Context

/-- `dpcs` and `timers` are the wrappers in memory, and the queues are those
of the kernel. -/
structure System (Context : Type) where
  dpcs : Address → Option (WduDpc Context)
  timers : Address → Option WduTimer
  timerQueue : List Address
  dpcQueue : List Address
  calls : List (Call Context)
  fault : Option Fault

variable {Context : Type}

namespace System

def new : System Context where
  dpcs := fun _ => none
  timers := fun _ => none
  timerQueue := []
  dpcQueue := []
  calls := []
  fault := none

def setDpc (system : System Context) (place : Address)
    (dpc : Option (WduDpc Context)) : System Context :=
  { system with dpcs := Function.update system.dpcs place dpc }

def setTimer (system : System Context) (place : Address)
    (timer : Option WduTimer) : System Context :=
  { system with timers := Function.update system.timers place timer }

/-- `KeInsertQueueDpc`, for the driver and at the end of a timer. -/
def keInsertQueueDpc (system : System Context) (place : Address) :
    Bool × System Context :=
  match system.dpcs place with
  | none => (false, { system with fault := some (.dpcGone place) })
  | some dpc =>
      if dpc.dpc.queued then (false, system)
      else
        (true,
          { system.setDpc place
              (some { dpc with dpc := { dpc.dpc with queued := true } }) with
            dpcQueue := system.dpcQueue ++ [place] })

/-- `insert`; the arguments are lost on `custom_dpc`. -/
def insert (system : System Context) (place : Address) :
    Bool × System Context :=
  system.keInsertQueueDpc place

/-- `remove` does nothing. -/
def remove (system : System Context) (_ : Address) : System Context := system

/-- The timer leaves the queue. -/
def unset (system : System Context) (place : Address) (timer : WduTimer) :
    System Context :=
  { system.setTimer place
      (some ⟨{ timer.timer with inserted := false }⟩) with
    timerQueue := system.timerQueue.erase place }

/-- `KeCancelTimer` -/
def cancel (system : System Context) (place : Address) (timer : WduTimer) :
    Bool × System Context :=
  if timer.timer.inserted then (true, system.unset place timer)
  else (false, system)

/-- `KeSetCoalescableTimer`, a timer that is set being canceled first. `set`
is without a period and `set_ex` without a deferred call. -/
def set (system : System Context) (place : Address) (timer : WduTimer)
    (dpc : Option Address) (period : Nat) : Bool × System Context :=
  let (wasSet, system) := system.cancel place timer
  (wasSet,
    { system.setTimer place
        (some ⟨⟨timer.timer.header, true, dpc, period⟩⟩) with
      timerQueue := system.timerQueue ++ [place] })

/-- A timer is due. -/
def expire (system : System Context) (place : Address) : System Context :=
  match system.timers place with
  | none => { system with fault := some (.timerGone place) }
  | some timer =>
      let system :=
        if timer.timer.period = 0 then system.unset place timer
        else system
      match timer.timer.dpc with
      | none => system
      | some dpc => (system.keInsertQueueDpc dpc).2

/-- `custom_dpc` with its context. -/
def customDpc (system : System Context) (context : Address) :
    System Context :=
  match system.dpcs context with
  | none => { system with fault := some (.wrapperGone context) }
  | some wrapper =>
      match wrapper.routine with
      | none => system
      | some routine =>
          { system with
            calls := ⟨context, routine, wrapper.context⟩ :: system.calls }

/-- The kernel takes the first call from its queue and runs it. -/
def deliver (system : System Context) (place : Address)
    (rest : List Address) : System Context :=
  match system.dpcs place with
  | none => { system with fault := some (.dpcGone place) }
  | some dpc =>
      let system :=
        { system.setDpc place
            (some { dpc with dpc := { dpc.dpc with queued := false } }) with
          dpcQueue := rest }
      match dpc.dpc.deferredContext with
      | none => { system with fault := some .routineNull }
      | some context => system.customDpc context

end System

inductive Event (Context : Type) where
  | newDpc (place : Address)
  | initDpc (place : Address) (routine : CodePtr) (context : Option Context)
  | insert (place : Address)
  | remove (place : Address)
  | moveDpc (place target : Address)
  | dropDpc (place : Address)
  | newTimer (place : Address)
  | initTimer (place : Address)
  | initEx (place target : Address)
  | set (place : Address) (dpc : Option Address) (period : Nat)
  | cancel (place : Address)
  | moveTimer (place target : Address)
  | dropTimer (place : Address)
  | expire (place : Address)
  | deliver

/-- The driver calls the methods of wrappers that are there, and puts a
wrapper where none is. -/
def effect (system : System Context) :
    Event Context → Option (System Context)
  | .newDpc place =>
      if (system.dpcs place).isSome then none
      else some (system.setDpc place (some WduDpc.new))
  | .initDpc place routine context =>
      if (system.dpcs place).isNone then none
      else
        some
          (system.setDpc place (some (WduDpc.init place routine context)))
  | .insert place =>
      if (system.dpcs place).isNone then none
      else some (system.insert place).2
  | .remove place =>
      if (system.dpcs place).isNone then none
      else some (system.remove place)
  | .moveDpc place target =>
      if (system.dpcs place).isNone ∨ (system.dpcs target).isSome then none
      else
        some ((system.setDpc place none).setDpc target (system.dpcs place))
  | .dropDpc place =>
      if (system.dpcs place).isNone then none
      else some (system.setDpc place none)
  | .newTimer place =>
      if (system.timers place).isSome then none
      else some (system.setTimer place (some WduTimer.new))
  | .initTimer place =>
      if (system.timers place).isNone then none
      else some (system.setTimer place (some (WduTimer.init place)))
  | .initEx place target =>
      if (system.timers target).isSome then none
      else some (system.setTimer target (some (WduTimer.initEx place)))
  | .set place dpc period =>
      match system.timers place with
      | none => none
      | some timer =>
          if ∃ other ∈ dpc, (system.dpcs other).isNone then none
          else some (system.set place timer dpc period).2
  | .cancel place =>
      match system.timers place with
      | none => none
      | some timer => some (system.cancel place timer).2
  | .moveTimer place target =>
      if (system.timers place).isNone ∨ (system.timers target).isSome then
        none
      else
        some
          ((system.setTimer place none).setTimer target
            (system.timers place))
  | .dropTimer place =>
      if (system.timers place).isNone then none
      else some (system.setTimer place none)
  | .expire place =>
      if place ∈ system.timerQueue then some (system.expire place) else none
  | .deliver =>
      match system.dpcQueue with
      | [] => none
      | place :: rest => some (system.deliver place rest)

def step (system : System Context) (event : Event Context) :
    Option (System Context) :=
  if system.fault.isSome then none else effect system event

/-! ## What the kernel may rely on -/

/-- The wrapper is marked as queued. -/
def Flagged (dpc : Option (WduDpc Context)) : Prop :=
  ∃ wrapper, dpc = some wrapper ∧ wrapper.dpc.queued = true

/-- The wrapper at this place was initialized there. -/
def ReadyAt (place : Address) (dpc : Option (WduDpc Context)) : Prop :=
  ∃ wrapper,
    dpc = some wrapper ∧ wrapper.dpc.deferredContext = some place ∧
      wrapper.routine ≠ none

def Inserted (timer : Option WduTimer) : Prop :=
  ∃ wrapper, timer = some wrapper ∧ wrapper.timer.inserted = true

def InitializedAt (place : Address) (timer : Option WduTimer) : Prop :=
  ∃ wrapper, timer = some wrapper ∧ wrapper.timer.header = some place

/-- The timer has this deferred call. -/
def LeadsTo (timer : Option WduTimer) (target : Address) : Prop :=
  ∃ wrapper, timer = some wrapper ∧ wrapper.timer.dpc = some target

/-- The kernel ran into nothing, each timer and each deferred call that it
knows is where it was initialized, and so is the deferred call behind each
timer. -/
structure Sound (system : System Context) : Prop where
  calm : system.fault = none
  dpcsOnce : system.dpcQueue.Nodup
  timersOnce : system.timerQueue.Nodup
  queued : ∀ place, place ∈ system.dpcQueue ↔ Flagged (system.dpcs place)
  set : ∀ place, place ∈ system.timerQueue ↔ Inserted (system.timers place)
  ready : ∀ place ∈ system.dpcQueue, ReadyAt place (system.dpcs place)
  initialized :
    ∀ place ∈ system.timerQueue, InitializedAt place (system.timers place)
  leads :
    ∀ place ∈ system.timerQueue, ∀ target,
      LeadsTo (system.timers place) target →
        ReadyAt target (system.dpcs target)

/-- A timer that is set has this deferred call. -/
def Awaited (system : System Context) (target : Address) : Prop :=
  ∃ place ∈ system.timerQueue, LeadsTo (system.timers place) target

/-- A wrapper is initialized again, moved or dropped only while the kernel
does not know it; a deferred call is queued, and a timer is set, only where it
was initialized. -/
def InPlace (system : System Context) : Event Context → Prop
  | .initDpc place _ _ => place ∉ system.dpcQueue
  | .insert place => ReadyAt place (system.dpcs place)
  | .moveDpc place _ | .dropDpc place =>
      place ∉ system.dpcQueue ∧ ¬ Awaited system place
  | .initTimer place | .moveTimer place _ | .dropTimer place =>
      place ∉ system.timerQueue
  | .set place dpc _ =>
      InitializedAt place (system.timers place) ∧
        ∀ target ∈ dpc, ReadyAt target (system.dpcs target)
  | .newDpc _ | .remove _ | .newTimer _ | .initEx _ _ | .cancel _
  | .expire _ | .deliver => True

theorem not_flagged_none : ¬ Flagged (none : Option (WduDpc Context)) :=
  fun ⟨_, same, _⟩ => nomatch same

theorem not_readyAt_none (place : Address) :
    ¬ ReadyAt place (none : Option (WduDpc Context)) :=
  fun ⟨_, same, _⟩ => nomatch same

theorem not_inserted_none : ¬ Inserted none :=
  fun ⟨_, same, _⟩ => nomatch same

theorem flagged_some_iff (dpc : WduDpc Context) :
    Flagged (some dpc) ↔ dpc.dpc.queued = true := by
  constructor
  · rintro ⟨_, same, queued⟩
    cases same
    exact queued
  · exact fun queued => ⟨dpc, rfl, queued⟩

theorem inserted_some_iff (timer : WduTimer) :
    Inserted (some timer) ↔ timer.timer.inserted = true := by
  constructor
  · rintro ⟨_, same, inserted⟩
    cases same
    exact inserted
  · exact fun inserted => ⟨timer, rfl, inserted⟩

/-- The mark has no say in whether a wrapper is ready. -/
theorem readyAt_queued_iff
    (place : Address) (dpc : WduDpc Context) (queued : Bool) :
    ReadyAt place (some { dpc with dpc := { dpc.dpc with queued := queued } }) ↔
      ReadyAt place (some dpc) := by
  constructor
  · rintro ⟨_, same, context, routine⟩
    cases same
    exact ⟨dpc, rfl, context, routine⟩
  · rintro ⟨_, same, context, routine⟩
    cases same
    exact ⟨_, rfl, context, routine⟩

/-! ## Wrappers of deferred calls -/

section Dpcs

variable {system : System Context} {place : Address}

/-- A wrapper is written while the queues stay. -/
theorem sound_setDpc_iff
    (sound : Sound system) (dpc : Option (WduDpc Context)) :
    Sound (system.setDpc place dpc) ↔
      (place ∈ system.dpcQueue ↔ Flagged dpc) ∧
        (place ∈ system.dpcQueue ∨ Awaited system place →
          ReadyAt place dpc) := by
  constructor
  · intro after
    have queued := after.queued place
    have ready := after.ready place
    have leads := fun timer member => after.leads timer member place
    simp only [System.setDpc, Function.update_self] at queued ready leads
    refine ⟨queued, ?_⟩
    rintro (member | ⟨timer, member, leadsTo⟩)
    · exact ready member
    · exact leads timer member leadsTo
  · rintro ⟨queued, ready⟩
    refine
      { calm := sound.calm
        dpcsOnce := sound.dpcsOnce
        timersOnce := sound.timersOnce
        queued := ?_
        set := sound.set
        ready := ?_
        initialized := sound.initialized
        leads := ?_ }
    · exact
        (Function.forall_update_iff system.dpcs fun other dpc =>
          other ∈ system.dpcQueue ↔ Flagged dpc).mpr
          ⟨queued, fun other _ => sound.queued other⟩
    · exact
        (Function.forall_update_iff system.dpcs fun other dpc =>
          other ∈ system.dpcQueue → ReadyAt other dpc).mpr
          ⟨fun member => ready (.inl member),
            fun other _ => sound.ready other⟩
    · intro timer member
      exact
        (Function.forall_update_iff system.dpcs fun other dpc =>
          LeadsTo (system.timers timer) other → ReadyAt other dpc).mpr
          ⟨fun leadsTo => ready (.inr ⟨timer, member, leadsTo⟩),
            fun other _ => sound.leads timer member other⟩

/-- The kernel knows nothing of a place without a wrapper. -/
theorem unknown_of_none
    (sound : Sound system) (free : system.dpcs place = none) :
    place ∉ system.dpcQueue ∧ ¬ Awaited system place := by
  constructor
  · intro member
    have flagged := (sound.queued place).mp member
    rw [free] at flagged
    exact not_flagged_none flagged
  · rintro ⟨timer, member, leadsTo⟩
    have ready := sound.leads timer member place leadsTo
    rw [free] at ready
    exact not_readyAt_none place ready

/-- Where the kernel knows nothing, any wrapper without a mark may be. -/
theorem sound_setDpc_of_unknown
    (sound : Sound system)
    (unknown : place ∉ system.dpcQueue ∧ ¬ Awaited system place)
    {dpc : Option (WduDpc Context)} (unmarked : ¬ Flagged dpc) :
    Sound (system.setDpc place dpc) := by
  rw [sound_setDpc_iff sound]
  refine ⟨iff_of_false unknown.1 unmarked, ?_⟩
  rintro (member | awaited)
  · exact absurd member unknown.1
  · exact absurd awaited unknown.2

theorem sound_dropDpc_iff (sound : Sound system) :
    Sound (system.setDpc place none) ↔
      place ∉ system.dpcQueue ∧ ¬ Awaited system place := by
  constructor
  · intro after
    obtain ⟨queued, ready⟩ := (sound_setDpc_iff sound none).mp after
    exact
      ⟨fun member => not_flagged_none (queued.mp member),
        fun awaited => not_readyAt_none place (ready (.inr awaited))⟩
  · exact fun unknown =>
      sound_setDpc_of_unknown sound unknown not_flagged_none

theorem sound_initDpc_iff
    (sound : Sound system) (routine : CodePtr) (context : Option Context) :
    Sound
        (system.setDpc place (some (WduDpc.init place routine context))) ↔
      place ∉ system.dpcQueue := by
  have unmarked :
      ¬ Flagged (some (WduDpc.init place routine context)) := by
    rw [flagged_some_iff]
    exact Bool.false_ne_true
  rw [sound_setDpc_iff sound]
  constructor
  · exact fun both member => unmarked (both.1.mp member)
  · intro absent
    exact
      ⟨iff_of_false absent unmarked,
        fun _ => ⟨_, rfl, rfl, Option.some_ne_none routine⟩⟩

theorem sound_moveDpc_iff
    (sound : Sound system) {target : Address}
    (free : system.dpcs target = none) (different : place ≠ target) :
    Sound ((system.setDpc place none).setDpc target (system.dpcs place)) ↔
      place ∉ system.dpcQueue ∧ ¬ Awaited system place := by
  constructor
  · intro after
    apply unknown_of_none after
    unfold System.setDpc
    dsimp only
    rw [Function.update_of_ne different, Function.update_self]
  · intro unknown
    have dropped :=
      sound_setDpc_of_unknown sound unknown not_flagged_none
    have stillFree : (system.setDpc place none).dpcs target = none := by
      unfold System.setDpc
      dsimp only
      rw [Function.update_of_ne different.symm]
      exact free
    refine
      sound_setDpc_of_unknown dropped (unknown_of_none dropped stillFree) ?_
    rw [← sound.queued]
    exact unknown.1

/-- A deferred call may be queued where it was initialized. -/
theorem sound_insert_iff
    (sound : Sound system) {dpc : WduDpc Context}
    (there : system.dpcs place = some dpc) :
    Sound (system.keInsertQueueDpc place).2 ↔
      ReadyAt place (system.dpcs place) := by
  have flag := sound.queued place
  rw [there, flagged_some_iff] at flag
  unfold System.keInsertQueueDpc
  rw [there]
  dsimp only
  split
  case isTrue queued =>
      refine iff_of_true sound ?_
      rw [← there]
      exact sound.ready place (flag.mpr queued)
  case isFalse unqueued =>
      have absent : place ∉ system.dpcQueue := fun member =>
        unqueued (flag.mp member)
      have outside : ∀ other, other ≠ place →
          (other ∈ system.dpcQueue ++ [place] ↔
            other ∈ system.dpcQueue) := by
        intro other different
        rw [List.mem_append, List.mem_singleton]
        exact or_iff_left different
      have inside : place ∈ system.dpcQueue ++ [place] :=
        List.mem_append_right _ List.mem_cons_self
      constructor
      · intro after
        have ready := after.ready place inside
        unfold System.setDpc at ready
        dsimp only at ready
        rw [Function.update_self, readyAt_queued_iff] at ready
        exact ready
      · intro ready
        have marked :=
          (readyAt_queued_iff place dpc true).mpr ready
        refine
          { calm := sound.calm
            dpcsOnce := ?_
            timersOnce := sound.timersOnce
            queued := ?_
            set := sound.set
            ready := ?_
            initialized := sound.initialized
            leads := ?_ }
        · exact List.nodup_append_comm.mp
            (List.nodup_cons.mpr ⟨absent, sound.dpcsOnce⟩)
        · refine
            (Function.forall_update_iff system.dpcs fun other dpc =>
              other ∈ system.dpcQueue ++ [place] ↔ Flagged dpc).mpr
              ⟨iff_of_true inside ⟨_, rfl, rfl⟩, fun other different => ?_⟩
          rw [outside other different]
          exact sound.queued other
        · refine
            (Function.forall_update_iff system.dpcs fun other dpc =>
              other ∈ system.dpcQueue ++ [place] → ReadyAt other dpc).mpr
              ⟨fun _ => marked, fun other different => ?_⟩
          rw [outside other different]
          exact sound.ready other
        · intro timer member
          exact
            (Function.forall_update_iff system.dpcs fun other dpc =>
              LeadsTo (system.timers timer) other →
                ReadyAt other dpc).mpr
              ⟨fun _ => marked,
                fun other _ => sound.leads timer member other⟩

end Dpcs

/-! ## Wrappers of timers -/

section Timers

variable {system : System Context} {place : Address}

/-- A timer leads to deferred calls that are ready. -/
def LeadsWell (system : System Context) (timer : Option WduTimer) : Prop :=
  ∀ target, LeadsTo timer target → ReadyAt target (system.dpcs target)

/-- A wrapper is written while the queues stay. -/
theorem sound_setTimer_iff
    (sound : Sound system) (timer : Option WduTimer) :
    Sound (system.setTimer place timer) ↔
      (place ∈ system.timerQueue ↔ Inserted timer) ∧
        (place ∈ system.timerQueue →
          InitializedAt place timer ∧ LeadsWell system timer) := by
  constructor
  · intro after
    have set := after.set place
    have initialized := after.initialized place
    have leads := after.leads place
    simp only [System.setTimer, Function.update_self] at set initialized leads
    exact ⟨set, fun member => ⟨initialized member, leads member⟩⟩
  · rintro ⟨set, well⟩
    refine
      { calm := sound.calm
        dpcsOnce := sound.dpcsOnce
        timersOnce := sound.timersOnce
        queued := sound.queued
        set := ?_
        ready := sound.ready
        initialized := ?_
        leads := ?_ }
    · exact
        (Function.forall_update_iff system.timers fun other timer =>
          other ∈ system.timerQueue ↔ Inserted timer).mpr
          ⟨set, fun other _ => sound.set other⟩
    · exact
        (Function.forall_update_iff system.timers fun other timer =>
          other ∈ system.timerQueue → InitializedAt other timer).mpr
          ⟨fun member => (well member).1,
            fun other _ => sound.initialized other⟩
    · exact
        (Function.forall_update_iff system.timers fun other timer =>
          other ∈ system.timerQueue → LeadsWell system timer).mpr
          ⟨fun member => (well member).2, fun other _ => sound.leads other⟩

theorem not_set_of_none
    (sound : Sound system) (free : system.timers place = none) :
    place ∉ system.timerQueue := by
  rw [sound.set, free]
  exact not_inserted_none

/-- Where the kernel has no timer, any wrapper that is not set may be. -/
theorem sound_setTimer_of_absent
    (sound : Sound system) (absent : place ∉ system.timerQueue)
    {timer : Option WduTimer} (unset : ¬ Inserted timer) :
    Sound (system.setTimer place timer) :=
  (sound_setTimer_iff sound timer).mpr
    ⟨iff_of_false absent unset, fun member => absurd member absent⟩

/-- A wrapper that is not set replaces one. -/
theorem sound_replace_iff
    (sound : Sound system) {timer : Option WduTimer}
    (unset : ¬ Inserted timer) :
    Sound (system.setTimer place timer) ↔ place ∉ system.timerQueue := by
  constructor
  · intro after member
    exact unset (((sound_setTimer_iff sound timer).mp after).1.mp member)
  · exact fun absent => sound_setTimer_of_absent sound absent unset

theorem sound_moveTimer_iff
    (sound : Sound system) {target : Address}
    (free : system.timers target = none) (different : place ≠ target) :
    Sound
        ((system.setTimer place none).setTimer target
          (system.timers place)) ↔
      place ∉ system.timerQueue := by
  constructor
  · intro after
    apply not_set_of_none after
    unfold System.setTimer
    dsimp only
    rw [Function.update_of_ne different, Function.update_self]
  · intro absent
    have dropped := sound_setTimer_of_absent sound absent not_inserted_none
    have stillFree : (system.setTimer place none).timers target = none := by
      unfold System.setTimer
      dsimp only
      rw [Function.update_of_ne different.symm]
      exact free
    refine
      sound_setTimer_of_absent dropped (not_set_of_none dropped stillFree) ?_
    rw [← sound.set]
    exact absent

/-- The timer leaves the queue, whether it is due or canceled. -/
theorem sound_unset (sound : Sound system) (timer : WduTimer) :
    Sound (system.unset place timer) := by
  have outside : ∀ other, other ≠ place →
      (other ∈ system.timerQueue.erase place ↔
        other ∈ system.timerQueue) :=
    fun _ different => List.mem_erase_of_ne different
  have absent : place ∉ system.timerQueue.erase place :=
    sound.timersOnce.not_mem_erase
  have unset :
      ¬ Inserted (some ⟨{ timer.timer with inserted := false }⟩) := by
    rw [inserted_some_iff]
    exact Bool.false_ne_true
  refine
    { calm := sound.calm
      dpcsOnce := sound.dpcsOnce
      timersOnce := sound.timersOnce.erase place
      queued := sound.queued
      set := ?_
      ready := sound.ready
      initialized := ?_
      leads := ?_ }
  · refine
      (Function.forall_update_iff system.timers fun other timer =>
        other ∈ system.timerQueue.erase place ↔ Inserted timer).mpr
        ⟨iff_of_false absent unset, fun other different => ?_⟩
    rw [outside other different]
    exact sound.set other
  · refine
      (Function.forall_update_iff system.timers fun other timer =>
        other ∈ system.timerQueue.erase place →
          InitializedAt other timer).mpr
        ⟨fun member => absurd member absent, fun other different => ?_⟩
    rw [outside other different]
    exact sound.initialized other
  · refine
      (Function.forall_update_iff system.timers fun other timer =>
        other ∈ system.timerQueue.erase place →
          LeadsWell system timer).mpr
        ⟨fun member => absurd member absent, fun other different => ?_⟩
    rw [outside other different]
    exact sound.leads other

theorem sound_cancel (sound : Sound system) (timer : WduTimer) :
    Sound (system.cancel place timer).2 := by
  unfold System.cancel
  split
  · exact sound_unset sound timer
  · exact sound

/-- After `cancel` the timer is not set. -/
theorem not_set_of_cancel
    (sound : Sound system) {timer : WduTimer}
    (there : system.timers place = some timer) :
    place ∉ (system.cancel place timer).2.timerQueue := by
  have set := sound.set place
  rw [there, inserted_some_iff] at set
  unfold System.cancel
  split
  case isTrue inserted => exact sound.timersOnce.not_mem_erase
  case isFalse unset => exact fun member => unset (set.mp member)

theorem cancel_dpcs (timer : WduTimer) :
    (system.cancel place timer).2.dpcs = system.dpcs := by
  unfold System.cancel
  split <;> rfl

/-- A timer goes into the queue. -/
theorem sound_enqueue_iff
    (sound : Sound system) (absent : place ∉ system.timerQueue)
    {timer : WduTimer} (inserted : timer.timer.inserted = true) :
    Sound
        { system.setTimer place (some timer) with
          timerQueue := system.timerQueue ++ [place] } ↔
      InitializedAt place (some timer) ∧ LeadsWell system (some timer) := by
  have inside : place ∈ system.timerQueue ++ [place] :=
    List.mem_append_right _ List.mem_cons_self
  have outside : ∀ other, other ≠ place →
      (other ∈ system.timerQueue ++ [place] ↔
        other ∈ system.timerQueue) := by
    intro other different
    rw [List.mem_append, List.mem_singleton]
    exact or_iff_left different
  constructor
  · intro after
    have initialized := after.initialized place inside
    have leads := after.leads place inside
    unfold System.setTimer at initialized leads
    dsimp only at initialized leads
    rw [Function.update_self] at initialized leads
    exact ⟨initialized, leads⟩
  · rintro ⟨initialized, leads⟩
    refine
      { calm := sound.calm
        dpcsOnce := sound.dpcsOnce
        timersOnce := ?_
        queued := sound.queued
        set := ?_
        ready := sound.ready
        initialized := ?_
        leads := ?_ }
    · exact
        List.nodup_append_comm.mp
          (List.nodup_cons.mpr ⟨absent, sound.timersOnce⟩)
    · refine
        (Function.forall_update_iff system.timers fun other timer =>
          other ∈ system.timerQueue ++ [place] ↔ Inserted timer).mpr
          ⟨iff_of_true inside ⟨timer, rfl, inserted⟩,
            fun other different => ?_⟩
      rw [outside other different]
      exact sound.set other
    · refine
        (Function.forall_update_iff system.timers fun other timer =>
          other ∈ system.timerQueue ++ [place] →
            InitializedAt other timer).mpr
          ⟨fun _ => initialized, fun other different => ?_⟩
      rw [outside other different]
      exact sound.initialized other
    · refine
        (Function.forall_update_iff system.timers fun other timer =>
          other ∈ system.timerQueue ++ [place] →
            LeadsWell system timer).mpr
          ⟨fun _ => leads, fun other different => ?_⟩
      rw [outside other different]
      exact sound.leads other

theorem sound_set_iff
    (sound : Sound system) {timer : WduTimer}
    (there : system.timers place = some timer) (dpc : Option Address)
    (period : Nat) :
    Sound (system.set place timer dpc period).2 ↔
      InitializedAt place (system.timers place) ∧
        ∀ target ∈ dpc, ReadyAt target (system.dpcs target) := by
  have enqueued :=
    @sound_enqueue_iff Context (system.cancel place timer).2 place
      (sound_cancel sound timer) (not_set_of_cancel sound there)
      ⟨⟨timer.timer.header, true, dpc, period⟩⟩ rfl
  refine enqueued.trans (and_congr ?_ ?_)
  · rw [there]
    constructor
    · rintro ⟨_, same, header⟩
      cases same
      exact ⟨timer, rfl, header⟩
    · rintro ⟨_, same, header⟩
      cases same
      exact ⟨_, rfl, header⟩
  · unfold LeadsWell
    rw [cancel_dpcs]
    constructor
    · intro leads target member
      exact leads target ⟨_, rfl, member⟩
    · rintro ready target ⟨_, same, member⟩
      cases same
      exact ready target member

theorem sound_expire
    (sound : Sound system) (member : place ∈ system.timerQueue) :
    Sound (system.expire place) := by
  obtain ⟨timer, there, _⟩ := (sound.set place).mp member
  have leads := sound.leads place member
  rw [there] at leads
  unfold System.expire
  rw [there]
  dsimp only
  have left :
      ∃ between : System Context,
        (if timer.timer.period = 0 then system.unset place timer
            else system) = between ∧
          Sound between ∧ between.dpcs = system.dpcs := by
    split
    · exact ⟨_, rfl, sound_unset sound timer, rfl⟩
    · exact ⟨_, rfl, sound, rfl⟩
  obtain ⟨between, same, soundBetween, dpcs⟩ := left
  rw [same]
  cases link : timer.timer.dpc with
  | none => exact soundBetween
  | some target =>
      have ready := leads target ⟨timer, rfl, link⟩
      obtain ⟨wrapper, found, _⟩ := id ready
      rw [← dpcs] at ready found
      exact (sound_insert_iff soundBetween found).mpr ready

end Timers

/-! ## Calls -/

/-- A delivered call is that of a wrapper as it is. -/
def Delivers (system : System Context) (event : Event Context)
    (next : System Context) : Prop :=
  match event with
  | .deliver =>
      ∃ place wrapper routine,
        system.dpcQueue.head? = some place ∧
          system.dpcs place = some wrapper ∧
          wrapper.routine = some routine ∧
          next.calls = ⟨place, routine, wrapper.context⟩ :: system.calls
  | _ => next.calls = system.calls

section Calls

variable {system : System Context} {place : Address}

theorem deliver_sound
    {rest : List Address} (sound : Sound system)
    (queue : system.dpcQueue = place :: rest) :
    Sound (system.deliver place rest) ∧
      ∃ wrapper routine,
        system.dpcs place = some wrapper ∧
          wrapper.routine = some routine ∧
          (system.deliver place rest).calls =
            ⟨place, routine, wrapper.context⟩ :: system.calls := by
  have first : place ∈ system.dpcQueue := by
    rw [queue]
    exact List.mem_cons_self
  have once := sound.dpcsOnce
  rw [queue] at once
  obtain ⟨absent, restOnce⟩ := List.nodup_cons.mp once
  obtain ⟨wrapper, there, context, some⟩ := sound.ready place first
  obtain ⟨routine, known⟩ := Option.ne_none_iff_exists'.mp some
  have ready : ReadyAt place (system.dpcs place) :=
    sound.ready place first
  have same :
      system.deliver place rest =
        { system.setDpc place
            (.some
              { wrapper with dpc := { wrapper.dpc with queued := false } }) with
          dpcQueue := rest
          calls := ⟨place, routine, wrapper.context⟩ :: system.calls } := by
    unfold System.deliver
    rw [there]
    dsimp only
    rw [context]
    unfold System.customDpc System.setDpc
    dsimp only
    rw [Function.update_self]
    dsimp only
    rw [known]
  rw [same]
  refine ⟨?_, wrapper, routine, there, known, rfl⟩
  have marked := (readyAt_queued_iff place wrapper false).mpr (there ▸ ready)
  have outside : ∀ other, other ≠ place →
      (other ∈ rest ↔ other ∈ system.dpcQueue) := by
    intro other different
    rw [queue, List.mem_cons]
    exact (or_iff_right different).symm
  refine
    { calm := sound.calm
      dpcsOnce := restOnce
      timersOnce := sound.timersOnce
      queued := ?_
      set := sound.set
      ready := ?_
      initialized := sound.initialized
      leads := ?_ }
  · refine
      (Function.forall_update_iff system.dpcs fun other dpc =>
        other ∈ rest ↔ Flagged dpc).mpr
        ⟨iff_of_false absent ?_, fun other different => ?_⟩
    · rw [flagged_some_iff]
      exact Bool.false_ne_true
    · rw [outside other different]
      exact sound.queued other
  · refine
      (Function.forall_update_iff system.dpcs fun other dpc =>
        other ∈ rest → ReadyAt other dpc).mpr
        ⟨fun _ => marked, fun other different => ?_⟩
    rw [outside other different]
    exact sound.ready other
  · intro timer member
    exact
      (Function.forall_update_iff system.dpcs fun other dpc =>
        LeadsTo (system.timers timer) other → ReadyAt other dpc).mpr
        ⟨fun _ => marked, fun other _ => sound.leads timer member other⟩

end Calls

/-! ## Every event -/

section Events

variable {system next : System Context} {event : Event Context}

theorem sound_effect_iff
    (sound : Sound system) (effected : effect system event = some next) :
    Sound next ↔ InPlace system event := by
  cases event with
  | newDpc place =>
      obtain ⟨free, effected⟩ := Option.ite_none_left_eq_some.mp effected
      cases effected
      have none := Option.not_isSome_iff_eq_none.mp free
      refine iff_of_true ?_ trivial
      refine sound_setDpc_of_unknown sound (unknown_of_none sound none) ?_
      rw [flagged_some_iff]
      exact Bool.false_ne_true
  | initDpc place routine context =>
      obtain ⟨_, effected⟩ := Option.ite_none_left_eq_some.mp effected
      cases effected
      exact sound_initDpc_iff sound routine context
  | insert place =>
      obtain ⟨there, effected⟩ := Option.ite_none_left_eq_some.mp effected
      cases effected
      obtain ⟨dpc, found⟩ :=
        Option.ne_none_iff_exists'.mp (mt Option.isNone_iff_eq_none.mpr there)
      exact sound_insert_iff sound found
  | remove place =>
      obtain ⟨_, effected⟩ := Option.ite_none_left_eq_some.mp effected
      cases effected
      exact iff_of_true sound trivial
  | moveDpc place target =>
      obtain ⟨possible, effected⟩ := Option.ite_none_left_eq_some.mp effected
      cases effected
      obtain ⟨there, free⟩ := not_or.mp possible
      have none := Option.not_isSome_iff_eq_none.mp free
      refine sound_moveDpc_iff sound none ?_
      rintro rfl
      exact there (Option.isNone_iff_eq_none.mpr none)
  | dropDpc place =>
      obtain ⟨_, effected⟩ := Option.ite_none_left_eq_some.mp effected
      cases effected
      exact sound_dropDpc_iff sound
  | newTimer place =>
      obtain ⟨free, effected⟩ := Option.ite_none_left_eq_some.mp effected
      cases effected
      have none := Option.not_isSome_iff_eq_none.mp free
      refine iff_of_true ?_ trivial
      refine sound_setTimer_of_absent sound (not_set_of_none sound none) ?_
      rw [inserted_some_iff]
      exact Bool.false_ne_true
  | initTimer place =>
      obtain ⟨_, effected⟩ := Option.ite_none_left_eq_some.mp effected
      cases effected
      refine sound_replace_iff sound ?_
      rw [inserted_some_iff]
      exact Bool.false_ne_true
  | initEx place target =>
      obtain ⟨free, effected⟩ := Option.ite_none_left_eq_some.mp effected
      cases effected
      have none := Option.not_isSome_iff_eq_none.mp free
      refine iff_of_true ?_ trivial
      refine sound_setTimer_of_absent sound (not_set_of_none sound none) ?_
      rw [inserted_some_iff]
      exact Bool.false_ne_true
  | set place dpc period =>
      dsimp only [effect] at effected
      cases there : system.timers place with
      | none =>
          rw [there] at effected
          cases effected
      | some timer =>
          rw [there] at effected
          obtain ⟨_, effected⟩ := Option.ite_none_left_eq_some.mp effected
          cases effected
          exact sound_set_iff sound there dpc period
  | cancel place =>
      dsimp only [effect] at effected
      cases there : system.timers place with
      | none =>
          rw [there] at effected
          cases effected
      | some timer =>
          rw [there] at effected
          cases effected
          exact iff_of_true (sound_cancel sound timer) trivial
  | moveTimer place target =>
      obtain ⟨possible, effected⟩ := Option.ite_none_left_eq_some.mp effected
      cases effected
      obtain ⟨there, free⟩ := not_or.mp possible
      have none := Option.not_isSome_iff_eq_none.mp free
      refine sound_moveTimer_iff sound none ?_
      rintro rfl
      exact there (Option.isNone_iff_eq_none.mpr none)
  | dropTimer place =>
      obtain ⟨_, effected⟩ := Option.ite_none_left_eq_some.mp effected
      cases effected
      exact sound_replace_iff sound not_inserted_none
  | expire place =>
      obtain ⟨member, effected⟩ := Option.ite_none_right_eq_some.mp effected
      cases effected
      exact iff_of_true (sound_expire sound member) trivial
  | deliver =>
      dsimp only [effect] at effected
      cases queue : system.dpcQueue with
      | nil =>
          rw [queue] at effected
          cases effected
      | cons place rest =>
          rw [queue] at effected
          cases effected
          exact iff_of_true (deliver_sound sound queue).1 trivial

theorem keInsertQueueDpc_calls (place : Address) :
    (system.keInsertQueueDpc place).2.calls = system.calls := by
  unfold System.keInsertQueueDpc
  split
  · rfl
  · split <;> rfl

theorem cancel_calls (place : Address) (timer : WduTimer) :
    (system.cancel place timer).2.calls = system.calls := by
  unfold System.cancel
  split <;> rfl

theorem expire_calls (place : Address) :
    (system.expire place).calls = system.calls := by
  unfold System.expire
  split
  · rfl
  · dsimp only
    split
    · split <;> rfl
    · rw [keInsertQueueDpc_calls]
      split <;> rfl

theorem delivers_of_effect
    (sound : Sound system) (effected : effect system event = some next) :
    Delivers system event next := by
  cases event with
  | newDpc place | initDpc place routine context | remove place
  | moveDpc place target | dropDpc place | newTimer place
  | initTimer place | initEx place target | moveTimer place target
  | dropTimer place =>
      obtain ⟨_, effected⟩ := Option.ite_none_left_eq_some.mp effected
      cases effected
      rfl
  | insert place =>
      obtain ⟨_, effected⟩ := Option.ite_none_left_eq_some.mp effected
      cases effected
      exact keInsertQueueDpc_calls place
  | set place dpc period =>
      dsimp only [effect] at effected
      split at effected
      · cases effected
      · obtain ⟨_, effected⟩ := Option.ite_none_left_eq_some.mp effected
        cases effected
        exact cancel_calls place _
  | cancel place =>
      dsimp only [effect] at effected
      split at effected
      · cases effected
      · cases effected
        exact cancel_calls place _
  | expire place =>
      obtain ⟨_, effected⟩ := Option.ite_none_right_eq_some.mp effected
      cases effected
      exact expire_calls place
  | deliver =>
      dsimp only [effect] at effected
      cases queue : system.dpcQueue with
      | nil =>
          rw [queue] at effected
          cases effected
      | cons place rest =>
          rw [queue] at effected
          cases effected
          obtain ⟨_, wrapper, routine, there, known, calls⟩ :=
            deliver_sound sound queue
          refine ⟨place, wrapper, routine, ?_, there, known, calls⟩
          rw [queue]
          rfl

theorem sound_new : Sound (System.new : System Context) where
  calm := rfl
  dpcsOnce := List.nodup_nil
  timersOnce := List.nodup_nil
  queued _ := iff_of_false List.not_mem_nil not_flagged_none
  set _ := iff_of_false List.not_mem_nil not_inserted_none
  ready _ member := nomatch member
  initialized _ member := nomatch member
  leads _ member := nomatch member

end Events

/-- For any wrappers and every interleaving of the driver with the kernel: the
kernel runs into nothing, and each call that it delivers is that of a wrapper
as it is, if and only if wrappers are initialized again, moved and dropped
only while the kernel does not know them, and deferred calls are queued and
timers set only where they were initialized. The kernel knows a KDPC that is
queued, and for a move or a drop also one that a timer is set with. It takes a
KDPC out and calls its routine in one step. -/
theorem deferredCalls_sound_iff (events : List (Event Context)) :
    (Always step Sound (System.new : System Context) events ∧
        EveryStep step Delivers (System.new : System Context) events) ↔
      Guarded step InPlace (System.new : System Context) events := by
  have effected : ∀ {system next : System Context} {event},
      step system event = some next → effect system event = some next :=
    fun stepped => (Option.ite_none_left_eq_some.mp stepped).2
  have preserved : ∀ (system : System Context) event next,
      Sound system → InPlace system event →
        step system event = some next → Sound next :=
    fun _ _ _ sound inPlace stepped =>
      (sound_effect_iff sound (effected stepped)).mpr inPlace
  constructor
  · rintro ⟨always, _⟩
    refine
      (always_iff_guarded (fun _ sound => sound) preserved ?_ sound_new).mp
        always
    intro system event next sound stepped after
    exact (sound_effect_iff sound (effected stepped)).mp after
  · intro inPlace
    exact
      ⟨always_of_guarded preserved sound_new inPlace,
        everyStep_of_guarded preserved
          (fun _ _ _ sound _ stepped =>
            delivers_of_effect sound (effected stepped))
          sound_new inPlace⟩

end DeferredCalls

end WinDrvUtils

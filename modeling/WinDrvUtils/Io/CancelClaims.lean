import WinDrvUtils.Io.Cancel
import WinDrvUtils.Library.Parties

/-!
# Who claims an armed cancel routine

The rule that the two fields of a packet are meant to implement is that of an
interlocked exchange: whatever is armed is claimed by one party. It is stated
on the ledger `arms`.

`History` numbers the armings and says which one stands and which one each
wrapper has made with its last call. The rule holds along the runs in which a
routine is armed while none stands, by a wrapper that has not armed since it
last disarmed, and disarmed by a wrapper that has made the arming that stands.
What `set_cancel_rtn` returns follows from that.
-/

namespace WinDrvUtils

namespace Cancel

open StepSystem Parties

def callIsOpen : Option Call → Bool
  | none => false
  | some call => call.stage.isOpen

/-- A call has stored what its wrapper will be known by. -/
def Stage.isSettled : Stage → Bool
  | .entered => false
  | .staged => false
  | _ => true

def callIsSettled : Option Call → Bool
  | none => true
  | some call => call.stage.isSettled

namespace System

/-- No call is between its stores, and no cancellation has yet to find its
routine. -/
def Quiet (system : System) : Prop :=
  (∀ wrapper, system.calls wrapper = none) ∧
    OnlyBusy Cancellation.isUncalled system.cancellations none

/-- Nothing is claimed that is not armed, and whenever the packet is quiet,
everything that was armed has been claimed but what is armed now. -/
def ClaimedOnce (system : System) : Prop :=
  system.arms.stray = [] ∧
    (system.Quiet → system.arms.HeldBy system.fields.armed.toList)

/-- `count` is the number of armings so far, each named by its place among
them. `standing` was neither disarmed nor taken by the kernel. `own` is the
arming that a wrapper has made with its last call, or the wrapper that it is a
clone of. -/
structure History where
  count : Nat
  standing : Option Nat
  own : Nat → Option Nat

namespace History

def start : History :=
  ⟨0, none, fun _ => none⟩

def record (history : History) : Event → History
  | .clone source target =>
      { history with
        own := Function.update history.own target (history.own source) }
  | .storeRoutine wrapper =>
      { count := history.count + 1
        standing := some history.count
        own := Function.update history.own wrapper (some history.count) }
  | .clearRoutine wrapper =>
      { history with
        standing := none
        own := Function.update history.own wrapper none }
  | .kernelCancel _ => { history with standing := none }
  | _ => history

section

variable (history : History) (wrapper : Nat)

@[simp]
theorem own_clone (target : Nat) :
    (history.record (.clone wrapper target)).own =
      Function.update history.own target (history.own wrapper) := rfl

@[simp]
theorem own_storeRoutine :
    (history.record (.storeRoutine wrapper)).own =
      Function.update history.own wrapper (some history.count) := rfl

@[simp]
theorem own_clearRoutine :
    (history.record (.clearRoutine wrapper)).own =
      Function.update history.own wrapper none := rfl

end

end History

/-- A routine is armed while none stands, by a wrapper that has not armed
since it last disarmed, with no other call between its stores and no
cancellation that could take the wrong box. A call disarms what its wrapper
has armed, or nothing if nothing stands, and finds nobody arming and no
cancellation under way. -/
def ClaimInTurn (run : System × History) : Event → Prop
  | .setContext wrapper _ =>
      run.2.standing = none ∧ run.2.own wrapper = none ∧
        OnlyBusy callIsOpen run.1.calls none ∧
        OnlyBusy Cancellation.isUncalled run.1.cancellations none ∧
        ∀ cancellation context,
          run.1.cancellations cancellation = .running context →
            context ∈ run.1.fields.boxes.live
  | .clearRoutine wrapper =>
      run.2.own wrapper = run.2.standing ∧
        (∀ other call, run.1.calls other = some call →
          call.stage ≠ .staged) ∧
        OnlyBusy Cancellation.isUncalled run.1.cancellations none
  | _ => True

/-- The box of the context is live, has the routine, and belongs to no
cancellation that will drop it. -/
structure BoxReady (fields : CancelFields)
    (cancellations : Nat → Cancellation) (pfn : CodePtr) : Prop where
  live : fields.driverContext ∈ fields.boxes.live
  content : fields.contents fields.driverContext = some pfn
  unshared :
    ∀ cancellation context,
      cancellations cancellation = .running context →
        context ≠ fields.driverContext

/-- What an unclaimed routine is waiting for. -/
inductive Standing (fields : CancelFields) (calls : Nat → Option Call)
    (cancellations : Nat → Cancellation) (arms : Ledger CodePtr) : Prop where
  | unarmed
      (held : arms.HeldBy [])
      (routine : fields.cancelRoutine = false)
      (unstaged :
        ∀ wrapper call, calls wrapper = some call → call.stage ≠ .staged)
      (uncalled : OnlyBusy Cancellation.isUncalled cancellations none)
  | staging (wrapper : Nat) (pfn : CodePtr)
      (held : arms.HeldBy [])
      (routine : fields.cancelRoutine = false)
      (staged : calls wrapper = some ⟨some pfn, none, .staged⟩)
      (alone : OnlyBusy callIsOpen calls (some wrapper))
      (uncalled : OnlyBusy Cancellation.isUncalled cancellations none)
      (ready : BoxReady fields cancellations pfn)
  | armed (pfn : CodePtr)
      (held : arms.HeldBy [pfn])
      (routine : fields.cancelRoutine = true)
      (alone : OnlyBusy callIsOpen calls none)
      (uncalled : OnlyBusy Cancellation.isUncalled cancellations none)
      (ready : BoxReady fields cancellations pfn)
  | taken (cancellation : Nat) (pfn : CodePtr)
      (held : arms.HeldBy [pfn])
      (routine : fields.cancelRoutine = false)
      (under :
        cancellations cancellation = .taken ∨
          cancellations cancellation = .fetched fields.driverContext)
      (alone : OnlyBusy callIsOpen calls none)
      (uncalled :
        OnlyBusy Cancellation.isUncalled cancellations (some cancellation))
      (ready : BoxReady fields cancellations pfn)

/-- A call carries the routine that its wrapper caches. -/
def Carried (irps : Nat → WduIrp) (calls : Nat → Option Call) : Prop :=
  ∀ wrapper call, calls wrapper = some call →
    (irps wrapper).cancel = call.cancel

/-- What a wrapper caches is the routine of its last arming, and a call is
going to return what it has found cached. `routines` are those of the
armings. -/
structure Remembers (routines : Nat → CodePtr) (irps : Nat → WduIrp)
    (calls : Nat → Option Call) (history : History) : Prop where
  numbered :
    ∀ wrapper arming, history.own wrapper = some arming →
      arming < history.count
  cached :
    ∀ wrapper, callIsSettled (calls wrapper) = true →
      (irps wrapper).cancel = (history.own wrapper).map routines
  returned :
    ∀ wrapper call, calls wrapper = some call → call.stage = .entered →
      call.prev = (history.own wrapper).map routines

structure ClaimInvariant (run : System × History) : Prop where
  carried : Carried run.1.irps run.1.calls
  standing :
    Standing run.1.fields run.1.calls run.1.cancellations run.1.arms
  remembers :
    ∃ routines,
      Remembers routines run.1.irps run.1.calls run.2 ∧
        run.1.fields.armed = run.2.standing.map routines

/-! ## The wrappers -/

section

variable {system next : System} {event : Event}

/-- What holds of every call still does after a change of one, if it holds of
that one. -/
theorem forall_call_update
    {property : Nat → Call → Prop} {calls : Nat → Option Call}
    {wrapper : Nat} {after : Option Call}
    (others : ∀ other call, calls other = some call → property other call)
    (own : ∀ call, after = some call → property wrapper call) :
    ∀ other call, Function.update calls wrapper after other = some call →
      property other call := by
  intro other call called
  by_cases same : other = wrapper
  · subst same
    rw [Function.update_self] at called
    exact own call called
  · rw [Function.update_of_ne same] at called
    exact others other call called

theorem forall_call_replace
    {property : Nat → Call → Prop} {calls : Nat → Option Call}
    {wrapper : Nat} {next : Call}
    (others : ∀ other call, calls other = some call → property other call)
    (own : property wrapper next) :
    ∀ other call,
      Function.update calls wrapper (some next) other = some call →
        property other call := by
  apply forall_call_update others
  intro call same
  cases same
  exact own

theorem Carried.advance
    {irps : Nat → WduIrp} {calls : Nat → Option Call} {wrapper : Nat}
    {call : Call}
    (carried : Carried irps calls) (current : calls wrapper = some call)
    (stage : Stage) :
    Carried irps
      (Function.update calls wrapper (some { call with stage := stage })) := by
  exact forall_call_replace carried (carried wrapper call current)

theorem carried_step
    (carried : Carried system.irps system.calls)
    (stepped : step system event = some next) :
    Carried next.irps next.calls := by
  cases event with
  | clone source target =>
      obtain ⟨_, idle, rfl⟩ := step_clone stepped
      intro wrapper call called
      have different : wrapper ≠ target := by
        intro same
        subst same
        simp [idle] at called
      simpa [Function.update_of_ne different] using
        carried wrapper call called
  | call wrapper cancel =>
      obtain ⟨idle, rfl⟩ := step_call stepped
      intro other call called
      by_cases same : other = wrapper
      · subst same
        simp only [Function.update_self, Option.some.injEq] at called
        simp [← called]
      · simp only [Function.update_of_ne same] at called ⊢
        exact carried other call called
  | setContext wrapper box =>
      obtain ⟨pfn, prev, current, _, _, rfl⟩ := step_setContext stepped
      exact carried.advance current .staged
  | storeRoutine wrapper =>
      obtain ⟨pfn, prev, current, rfl⟩ := step_storeRoutine stepped
      exact carried.advance current .returning
  | clearRoutine wrapper =>
      obtain ⟨prev, current, rfl⟩ := step_clearRoutine stepped
      exact carried.advance current .cleared
  | fromContext wrapper =>
      obtain ⟨prev, current, rfl⟩ := step_fromContext stepped
      exact carried.advance current (.fetched _)
  | dropBox wrapper =>
      obtain ⟨prev, context, current, rfl⟩ := step_dropBox stepped
      exact carried.advance current .dropped
  | clearContext wrapper =>
      obtain ⟨prev, current, rfl⟩ := step_clearContext stepped
      exact carried.advance current .returning
  | ret wrapper =>
      obtain ⟨call, _, _, rfl⟩ := step_ret stepped
      apply forall_call_update carried
      intro returned same
      cases same
  | kernelCancel cancellation =>
      obtain ⟨_, ⟨_, rfl⟩ | ⟨_, rfl⟩⟩ := step_kernelCancel stepped
      · exact carried
      · exact carried
  | fetchContext cancellation =>
      obtain ⟨_, rfl⟩ := step_fetchContext stepped
      exact carried
  | runRoutine cancellation garbage =>
      obtain ⟨context, _, rfl⟩ := step_runRoutine stepped
      exact carried
  | dropFetched cancellation =>
      obtain ⟨context, _, rfl⟩ := step_dropFetched stepped
      exact carried

end

/-! ## The routine -/

section

variable {fields : CancelFields} {calls : Nat → Option Call}
    {cancellations : Nat → Cancellation} {arms : Ledger CodePtr}
    {wrapper : Nat}

theorem isUncalled_of_under
    {cancellation : Nat}
    (under :
      cancellations cancellation = .taken ∨
        cancellations cancellation = .fetched fields.driverContext) :
    (cancellations cancellation).isUncalled = true := by
  rcases under with taken | fetched
  · rw [taken]
    rfl
  · rw [fetched]
    rfl

theorem Standing.update_closed
    {after : Option Call}
    (standing : Standing fields calls cancellations arms)
    (closedBefore : callIsOpen (calls wrapper) = false)
    (closed : callIsOpen after = false) :
    Standing fields (Function.update calls wrapper after) cancellations
      arms := by
  cases standing with
  | unarmed held routine unstaged uncalled =>
      refine .unarmed held routine ?_ uncalled
      apply forall_call_update unstaged
      intro call called staged
      simp [called, callIsOpen, staged, Stage.isOpen] at closed
  | staging stager pfn held routine staged alone uncalled ready =>
      have different : stager ≠ wrapper := by
        intro same
        subst same
        simp [staged, callIsOpen, Stage.isOpen] at closedBefore
      refine
        .staging stager pfn held routine ?_ (alone.update_idle closed)
          uncalled ready
      rw [Function.update_of_ne different]
      exact staged
  | armed pfn held routine alone uncalled ready =>
      exact
        .armed pfn held routine (alone.update_idle closed) uncalled ready
  | taken cancellation pfn held routine under alone uncalled ready =>
      exact
        .taken cancellation pfn held routine under
          (alone.update_idle closed) uncalled ready

theorem Standing.of_disarming
    {call : Call}
    (standing : Standing fields calls cancellations arms)
    (current : calls wrapper = some call)
    (opened : call.stage.isOpen = true)
    (notStaged : call.stage ≠ .staged) :
    arms.HeldBy [] ∧ fields.cancelRoutine = false ∧
      (∀ other call, calls other = some call → call.stage ≠ .staged) ∧
      OnlyBusy Cancellation.isUncalled cancellations none := by
  have busy : callIsOpen (calls wrapper) = true := by
    rw [current]
    exact opened
  cases standing with
  | unarmed held routine unstaged uncalled =>
      exact ⟨held, routine, unstaged, uncalled⟩
  | staging stager pfn held routine staged alone uncalled ready =>
      obtain rfl := alone.eq busy
      rw [staged, Option.some.injEq] at current
      exact absurd (current ▸ rfl) notStaged
  | armed pfn held routine alone uncalled ready =>
      exact absurd alone (OnlyBusy.not_none busy)
  | taken cancellation pfn held routine under alone uncalled ready =>
      exact absurd alone (OnlyBusy.not_none busy)

theorem Standing.disarming
    {call next : Call} {fieldsAfter : CancelFields}
    (standing : Standing fields calls cancellations arms)
    (current : calls wrapper = some call)
    (opened : call.stage.isOpen = true)
    (notStaged : call.stage ≠ .staged)
    (notStagedAfter : next.stage ≠ .staged)
    (routineAfter : fieldsAfter.cancelRoutine = fields.cancelRoutine) :
    Standing fieldsAfter (Function.update calls wrapper (some next))
      cancellations arms := by
  obtain ⟨held, routine, unstaged, uncalled⟩ :=
    standing.of_disarming current opened notStaged
  exact
    .unarmed held (routineAfter.trans routine)
      (forall_call_replace unstaged notStagedAfter) uncalled

/-- `set_context` in turn: the packet was unarmed, and the new box is the
context. -/
theorem Standing.stage
    {pfn : CodePtr} {irp : WduIrp} {box : Address}
    (standing : Standing fields calls cancellations arms)
    (cached : irp.cancel = some pfn)
    (fresh : box ∉ fields.boxes.live)
    (routine : fields.cancelRoutine = false)
    (alone : OnlyBusy callIsOpen calls none)
    (uncalled : OnlyBusy Cancellation.isUncalled cancellations none)
    (running :
      ∀ cancellation context,
        cancellations cancellation = .running context →
          context ∈ fields.boxes.live) :
    Standing (irp.setContext box fields)
      (Function.update calls wrapper (some ⟨some pfn, none, .staged⟩))
      cancellations arms := by
  have ready : BoxReady (irp.setContext box fields) cancellations pfn := by
    refine ⟨List.mem_cons_self, ?_, ?_⟩
    · simp [WduIrp.setContext, cached]
    · intro cancellation context under same
      subst same
      exact fresh (running cancellation _ under)
  have staged :
      ∀ held : arms.HeldBy [],
        Standing (irp.setContext box fields)
          (Function.update calls wrapper (some ⟨some pfn, none, .staged⟩))
          cancellations arms := fun held =>
    .staging wrapper pfn held routine (by simp)
      (alone.weaken (some wrapper)).update uncalled ready
  cases standing with
  | unarmed held routine unstaged uncalled =>
      exact staged held
  | staging stager pfn held routine staged alone' uncalled ready =>
      exact absurd alone (OnlyBusy.not_none (by rw [staged]; rfl))
  | armed pfn held installed alone uncalled ready =>
      rw [routine] at installed
      cases installed
  | taken cancellation pfn held routine under alone uncalled' ready =>
      exact absurd uncalled (OnlyBusy.not_none (isUncalled_of_under under))

/-- The store that arms: the call found nothing cached, and the box has its
routine. -/
theorem Standing.arm
    {pfn : CodePtr} {prev : Option CodePtr}
    (standing : Standing fields calls cancellations arms)
    (current : calls wrapper = some ⟨some pfn, prev, .staged⟩) :
    Standing (fields.storeRoutine true)
        (Function.update calls wrapper (some ⟨some pfn, prev, .returning⟩))
        cancellations ((claim arms prev).issue pfn) ∧
      (fields.storeRoutine true).armed = some pfn := by
  have busy : callIsOpen (calls wrapper) = true := by
    rw [current]
    rfl
  cases standing with
  | unarmed held routine unstaged uncalled =>
      exact absurd rfl (unstaged wrapper _ current)
  | staging stager other held routine staged alone uncalled ready =>
      obtain rfl := alone.eq busy
      rw [staged] at current
      cases current
      refine ⟨?_, ready.content⟩
      exact
        .armed pfn (held.issue pfn) rfl (alone.leave rfl) uncalled
          ⟨ready.live, ready.content, ready.unshared⟩
  | armed other held installed alone uncalled ready =>
      exact absurd alone (OnlyBusy.not_none busy)
  | taken cancellation other held routine under alone uncalled ready =>
      exact absurd alone (OnlyBusy.not_none busy)

/-- The store that disarms, in turn: what the call returns is what was
armed. -/
theorem Standing.disarm
    {prev : Option CodePtr} {call : Call}
    (standing : Standing fields calls cancellations arms)
    (cached : prev = fields.armed)
    (unstaged :
      ∀ other call, calls other = some call → call.stage ≠ .staged)
    (uncalled : OnlyBusy Cancellation.isUncalled cancellations none)
    (cleared : call.stage = .cleared) :
    Standing (fields.storeRoutine false)
      (Function.update calls wrapper (some call)) cancellations
      (claim arms prev) := by
  have unstagedAfter :
      ∀ other otherCall,
        Function.update calls wrapper (some call) other = some otherCall →
          otherCall.stage ≠ .staged := by
    apply forall_call_replace unstaged
    rw [cleared]
    exact Stage.noConfusion
  cases standing with
  | unarmed held routine _ _ =>
      have nothing : prev = none := by
        simpa [CancelFields.armed, routine] using cached
      rw [nothing]
      exact .unarmed held rfl unstagedAfter uncalled
  | staging stager pfn held routine staged alone _ ready =>
      exact absurd rfl (unstaged stager _ staged)
  | armed pfn held installed alone _ ready =>
      have claimed : prev = some pfn := by
        simpa [CancelFields.armed, installed, ready.content] using cached
      have released : (arms.release pfn).HeldBy [] := by
        simpa using held.release List.mem_cons_self
      rw [claimed]
      exact .unarmed released rfl unstagedAfter uncalled
  | taken cancellation pfn held routine under alone _ ready =>
      exact absurd uncalled (OnlyBusy.not_none (isUncalled_of_under under))

/-! ## The kernel -/

variable {cancellation : Nat}

/-- A cancellation that has nothing to drop leaves the box ready. -/
theorem BoxReady.update
    {pfn : CodePtr} {state : Cancellation}
    (ready : BoxReady fields cancellations pfn)
    (resting : ∀ context, state ≠ .running context) :
    BoxReady fields (Function.update cancellations cancellation state) pfn := by
  refine ⟨ready.live, ready.content, ?_⟩
  intro other context running
  by_cases same : other = cancellation
  · rw [same, Function.update_self] at running
    exact absurd running (resting context)
  · rw [Function.update_of_ne same] at running
    exact ready.unshared other context running

theorem Standing.take
    (standing : Standing fields calls cancellations arms)
    (installed : fields.cancelRoutine = true) :
    Standing (fields.storeRoutine false) calls
      (Function.update cancellations cancellation .taken) arms := by
  cases standing with
  | unarmed held routine unstaged uncalled =>
      rw [installed] at routine
      cases routine
  | staging stager pfn held routine staged alone uncalled ready =>
      rw [installed] at routine
      cases routine
  | armed pfn held _ alone uncalled ready =>
      refine
        .taken cancellation pfn held rfl (Or.inl (by simp)) alone
          (uncalled.weaken (some cancellation)).update
          (BoxReady.update ?_ fun _ => Cancellation.noConfusion)
      exact ⟨ready.live, ready.content, ready.unshared⟩
  | taken other pfn held routine under alone uncalled ready =>
      rw [installed] at routine
      cases routine

theorem Standing.of_uncalled
    (standing : Standing fields calls cancellations arms)
    (busy : (cancellations cancellation).isUncalled = true) :
    ∃ pfn,
      arms.HeldBy [pfn] ∧ fields.cancelRoutine = false ∧
      (cancellations cancellation = .taken ∨
        cancellations cancellation = .fetched fields.driverContext) ∧
      OnlyBusy callIsOpen calls none ∧
      OnlyBusy Cancellation.isUncalled cancellations (some cancellation) ∧
      BoxReady fields cancellations pfn := by
  cases standing with
  | unarmed held routine unstaged uncalled =>
      exact absurd uncalled (OnlyBusy.not_none busy)
  | staging stager pfn held routine staged alone uncalled ready =>
      exact absurd uncalled (OnlyBusy.not_none busy)
  | armed pfn held installed alone uncalled ready =>
      exact absurd uncalled (OnlyBusy.not_none busy)
  | taken other pfn held routine under alone uncalled ready =>
      obtain rfl := uncalled.eq busy
      exact ⟨pfn, held, routine, under, alone, uncalled, ready⟩

theorem Standing.fetch
    (standing : Standing fields calls cancellations arms)
    (taken : cancellations cancellation = .taken) :
    Standing fields calls
      (Function.update cancellations cancellation
        (.fetched fields.fromContext)) arms := by
  obtain ⟨pfn, held, routine, _, alone, uncalled, ready⟩ :=
    standing.of_uncalled (by rw [taken]; rfl)
  refine
    .taken cancellation pfn held routine
      (Or.inr (by simp [CancelFields.fromContext])) alone uncalled.update ?_
  exact ready.update fun _ => Cancellation.noConfusion

theorem Standing.call
    {context : Address} {garbage : Option CodePtr}
    (standing : Standing fields calls cancellations arms)
    (fetched : cancellations cancellation = .fetched context) :
    Standing fields calls
      (Function.update cancellations cancellation (.running context))
      (claim arms (readBox fields context garbage)) := by
  obtain ⟨pfn, held, routine, under, alone, uncalled, ready⟩ :=
    standing.of_uncalled (by rw [fetched]; rfl)
  have same : context = fields.driverContext := by
    simpa [fetched] using under
  have found : readBox fields context garbage = some pfn := by
    rw [same, readBox, if_pos ready.live, ready.content]
  have released : (arms.release pfn).HeldBy [] := by
    simpa using held.release List.mem_cons_self
  rw [found]
  refine .unarmed released routine ?_ (uncalled.leave rfl)
  intro wrapper call called staged
  have calm := alone.idle wrapper
  rw [called] at calm
  simp [callIsOpen, staged, Stage.isOpen] at calm

theorem BoxReady.drop
    {context : Address} {pfn : CodePtr}
    (ready : BoxReady fields cancellations pfn)
    (running : cancellations cancellation = .running context) :
    BoxReady (fields.dropBox context)
      (Function.update cancellations cancellation .idle) pfn := by
  have different := ready.unshared cancellation context running
  have later :
      BoxReady fields (Function.update cancellations cancellation .idle)
        pfn :=
    ready.update fun _ => Cancellation.noConfusion
  refine ⟨?_, ready.content, later.unshared⟩
  exact Ledger.mem_live_release_of_ne ready.live different.symm

theorem Standing.drop
    {context : Address}
    (standing : Standing fields calls cancellations arms)
    (running : cancellations cancellation = .running context) :
    Standing (fields.dropBox context) calls
      (Function.update cancellations cancellation .idle) arms := by
  cases standing with
  | unarmed held routine unstaged uncalled =>
      exact .unarmed held routine unstaged (uncalled.update_idle rfl)
  | staging stager pfn held routine staged alone uncalled ready =>
      exact
        .staging stager pfn held routine staged alone
          (uncalled.update_idle rfl) (ready.drop running)
  | armed pfn held installed alone uncalled ready =>
      exact
        .armed pfn held installed alone (uncalled.update_idle rfl)
          (ready.drop running)
  | taken other pfn held routine under alone uncalled ready =>
      have different : other ≠ cancellation := by
        intro same
        subst same
        simp [running] at under
      refine
        .taken other pfn held routine ?_ alone (uncalled.update_idle rfl)
          (ready.drop running)
      rw [Function.update_of_ne different]
      exact under

/-- A packet has a routine to take exactly while there is one to claim. -/
theorem Standing.routine_eq_false
    (standing : Standing fields calls cancellations arms)
    (nothing : fields.armed = none) : fields.cancelRoutine = false := by
  cases standing with
  | unarmed _ routine _ _ | staging _ _ _ routine _ _ _ _
  | taken _ _ _ routine _ _ _ _ => exact routine
  | armed pfn held installed alone uncalled ready =>
      rw [CancelFields.armed, if_pos installed, ready.content] at nothing
      cases nothing

theorem Standing.armed_eq
    (standing : Standing fields calls cancellations arms)
    (uncalled : OnlyBusy Cancellation.isUncalled cancellations none) :
    arms.HeldBy fields.armed.toList := by
  cases standing with
  | unarmed held routine unstaged uncalled =>
      simpa [CancelFields.armed, routine] using held
  | staging stager other held routine staged alone uncalled ready =>
      simpa [CancelFields.armed, routine] using held
  | armed pfn held installed alone uncalled ready =>
      simpa [CancelFields.armed, installed, ready.content] using held
  | taken cancellation other held routine under alone uncalled' ready =>
      exact absurd uncalled (OnlyBusy.not_none (isUncalled_of_under under))

end

/-! ## The record -/

section

variable {routines : Nat → CodePtr} {irps : Nat → WduIrp}
    {calls : Nat → Option Call} {history : History} {wrapper : Nat}

theorem armed_of_routine
    {fields : CancelFields} (routine : fields.cancelRoutine = false) :
    fields.armed = none :=
  if_neg (Bool.eq_false_iff.mp routine)

/-- A call goes on, and settles only once it has stored. -/
theorem Remembers.advance
    {call : Call} {stage : Stage}
    (remembers : Remembers routines irps calls history)
    (current : calls wrapper = some call) (begun : stage ≠ .entered)
    (settled : stage.isSettled = true → call.stage.isSettled = true) :
    Remembers routines irps
      (Function.update calls wrapper (some { call with stage := stage }))
      history := by
  refine ⟨remembers.numbered, fun other later => ?_, ?_⟩
  · refine remembers.cached other ?_
    by_cases same : other = wrapper
    · subst same
      rw [Function.update_self] at later
      rw [current]
      exact settled later
    · rwa [Function.update_of_ne same] at later
  · exact
      forall_call_replace remembers.returned fun entered =>
        absurd entered begun

theorem Remembers.clone
    {source target : Nat}
    (remembers : Remembers routines irps calls history)
    (sourceIdle : calls source = none) (targetIdle : calls target = none) :
    Remembers routines (Function.update irps target (irps source)) calls
      (history.record (.clone source target)) := by
  have cachedSource :=
    remembers.cached source (by rw [sourceIdle]; rfl)
  refine ⟨fun other arming own => ?_, fun other settled => ?_,
    fun other call called entered => ?_⟩
  · by_cases same : other = target
    · subst same
      rw [History.own_clone, Function.update_self] at own
      exact remembers.numbered source arming own
    · rw [History.own_clone, Function.update_of_ne same] at own
      exact remembers.numbered other arming own
  · by_cases same : other = target
    · subst same
      rw [History.own_clone, Function.update_self, Function.update_self]
      exact cachedSource
    · rw [History.own_clone, Function.update_of_ne same,
        Function.update_of_ne same]
      exact remembers.cached other settled
  · have different : other ≠ target := by
      rintro rfl
      rw [targetIdle] at called
      cases called
    rw [History.own_clone, Function.update_of_ne different]
    exact remembers.returned other call called entered

theorem Remembers.call
    (remembers : Remembers routines irps calls history)
    (idle : calls wrapper = none) (cancel : Option CodePtr) :
    Remembers routines
      (Function.update irps wrapper
        { irps wrapper with cancel := cancel })
      (Function.update calls wrapper
        (some ⟨cancel, (irps wrapper).cancel, .entered⟩)) history := by
  refine ⟨remembers.numbered, fun other settled => ?_, ?_⟩
  · by_cases same : other = wrapper
    · subst same
      rw [Function.update_self] at settled
      cases settled
    · rw [Function.update_of_ne same] at settled ⊢
      exact remembers.cached other settled
  · refine forall_call_replace remembers.returned fun _ => ?_
    exact remembers.cached wrapper (by rw [idle]; rfl)

/-- The store that arms makes the next arming the wrapper's own. -/
theorem Remembers.arm
    {pfn : CodePtr} {call : Call}
    (remembers : Remembers routines irps calls history)
    (returning : call.stage = .returning)
    (carried : (irps wrapper).cancel = some pfn) :
    Remembers (Function.update routines history.count pfn) irps
      (Function.update calls wrapper (some call))
      (history.record (.storeRoutine wrapper)) := by
  have kept :
      ∀ other,
        (history.own other).map (Function.update routines history.count pfn) =
          (history.own other).map routines := by
    intro other
    refine Option.map_congr fun arming own => ?_
    have earlier := remembers.numbered other arming own
    exact Function.update_of_ne (Nat.ne_of_lt earlier) _ _
  refine ⟨fun other arming own => ?_, fun other settled => ?_,
    fun other otherCall called entered => ?_⟩
  · by_cases same : other = wrapper
    · subst same
      rw [History.own_storeRoutine, Function.update_self] at own
      cases own
      exact Nat.lt_succ_self _
    · rw [History.own_storeRoutine, Function.update_of_ne same] at own
      exact Nat.lt_succ_of_lt (remembers.numbered other arming own)
  · by_cases same : other = wrapper
    · subst same
      rw [History.own_storeRoutine, Function.update_self, Option.map_some,
        Function.update_self]
      exact carried
    · rw [Function.update_of_ne same] at settled
      rw [History.own_storeRoutine, Function.update_of_ne same, kept]
      exact remembers.cached other settled
  · have different : other ≠ wrapper := by
      rintro rfl
      rw [Function.update_self] at called
      cases called
      rw [returning] at entered
      cases entered
    rw [Function.update_of_ne different] at called
    rw [History.own_storeRoutine, Function.update_of_ne different, kept]
    exact remembers.returned other otherCall called entered

/-- The store that disarms leaves the wrapper with nothing. -/
theorem Remembers.disarm
    {call : Call}
    (remembers : Remembers routines irps calls history)
    (cleared : call.stage = .cleared)
    (carried : (irps wrapper).cancel = none) :
    Remembers routines irps (Function.update calls wrapper (some call))
      (history.record (.clearRoutine wrapper)) := by
  refine ⟨fun other arming own => ?_, fun other settled => ?_,
    fun other otherCall called entered => ?_⟩
  · by_cases same : other = wrapper
    · subst same
      rw [History.own_clearRoutine, Function.update_self] at own
      cases own
    · rw [History.own_clearRoutine, Function.update_of_ne same] at own
      exact remembers.numbered other arming own
  · by_cases same : other = wrapper
    · subst same
      rw [History.own_clearRoutine, Function.update_self]
      exact carried
    · rw [Function.update_of_ne same] at settled
      rw [History.own_clearRoutine, Function.update_of_ne same]
      exact remembers.cached other settled
  · have different : other ≠ wrapper := by
      rintro rfl
      rw [Function.update_self] at called
      cases called
      rw [cleared] at entered
      cases entered
    rw [Function.update_of_ne different] at called
    rw [History.own_clearRoutine, Function.update_of_ne different]
    exact remembers.returned other otherCall called entered

theorem Remembers.ret
    {call : Call}
    (remembers : Remembers routines irps calls history)
    (current : calls wrapper = some call)
    (returning : call.stage = .returning) :
    Remembers routines irps (Function.update calls wrapper none)
      history := by
  refine ⟨remembers.numbered, fun other settled => ?_, ?_⟩
  · refine remembers.cached other ?_
    by_cases same : other = wrapper
    · subst same
      rw [current, callIsSettled, returning]
      rfl
    · rwa [Function.update_of_ne same] at settled
  · exact forall_call_update remembers.returned fun _ gone => nomatch gone

end

/-- What `set_cancel_rtn(None)` returns in turn is what it disarms. -/
theorem ClaimInvariant.prev_eq_armed
    {run : System × History} (invariant : ClaimInvariant run)
    {wrapper : Nat} {prev : Option CodePtr}
    (current : run.1.calls wrapper = some ⟨none, prev, .entered⟩)
    (own : run.2.own wrapper = run.2.standing) :
    prev = run.1.fields.armed := by
  obtain ⟨routines, remembers, armed⟩ := invariant.remembers
  have returned := remembers.returned wrapper _ current rfl
  rw [armed, ← own]
  exact returned

/-- What `set_cancel_rtn(Some)` returns in turn is nothing. -/
theorem ClaimInvariant.prev_eq_none
    {run : System × History} (invariant : ClaimInvariant run)
    {wrapper : Nat} {pfn : CodePtr} {prev : Option CodePtr}
    (current : run.1.calls wrapper = some ⟨some pfn, prev, .entered⟩)
    (own : run.2.own wrapper = none) : prev = none := by
  obtain ⟨routines, remembers, _⟩ := invariant.remembers
  have returned := remembers.returned wrapper _ current rfl
  rw [own] at returned
  exact returned

theorem claimInvariant_step
    (run : System × History) (event : Event) (after : System × History)
    (invariant : ClaimInvariant run) (inTurn : ClaimInTurn run event)
    (taken : recorded step History.record run event = some after) :
    ClaimInvariant after := by
  obtain ⟨system, history⟩ := run
  obtain ⟨next, later⟩ := after
  obtain ⟨stepped, recording⟩ := step_of_recorded taken
  dsimp only at stepped recording
  subst recording
  have carried := carried_step invariant.carried stepped
  have standing := invariant.standing
  obtain ⟨routines, remembers, armed⟩ := invariant.remembers
  dsimp only at standing remembers armed
  cases event with
  | clone source target =>
      obtain ⟨sourceIdle, targetIdle, rfl⟩ := step_clone stepped
      exact
        ⟨carried, standing, routines,
          remembers.clone sourceIdle targetIdle, armed⟩
  | call wrapper cancel =>
      obtain ⟨idle, rfl⟩ := step_call stepped
      exact
        ⟨carried, standing.update_closed (by rw [idle]; rfl) rfl, routines,
          remembers.call idle cancel, armed⟩
  | setContext wrapper box =>
      obtain ⟨pfn, prev, current, _, fresh, rfl⟩ := step_setContext stepped
      obtain ⟨nothing, own, alone, uncalled, running⟩ := inTurn
      have cached := invariant.carried wrapper _ current
      obtain rfl := invariant.prev_eq_none current own
      dsimp only at nothing
      rw [nothing] at armed
      have routine := standing.routine_eq_false armed
      refine
        ⟨carried, standing.stage cached fresh routine alone uncalled running,
          routines,
          remembers.advance current Stage.noConfusion fun settled => ?_, ?_⟩
      · cases settled
      · have stays :
            (history.record (.setContext wrapper box)).standing = none :=
          nothing
        rw [stays]
        exact armed_of_routine routine
  | storeRoutine wrapper =>
      obtain ⟨pfn, prev, current, rfl⟩ := step_storeRoutine stepped
      have cached := invariant.carried wrapper _ current
      obtain ⟨armedAfter, routine⟩ := standing.arm current
      refine ⟨carried, armedAfter, _, remembers.arm rfl cached, ?_⟩
      have stands :
          (history.record (.storeRoutine wrapper)).standing =
            some history.count := rfl
      rw [stands, Option.map_some, Function.update_self]
      exact routine
  | clearRoutine wrapper =>
      obtain ⟨prev, current, rfl⟩ := step_clearRoutine stepped
      obtain ⟨own, unstaged, uncalled⟩ := inTurn
      have cached := invariant.carried wrapper _ current
      have returned := invariant.prev_eq_armed current own
      exact
        ⟨carried, standing.disarm returned unstaged uncalled rfl, routines,
          remembers.disarm rfl cached, armed_of_routine rfl⟩
  | fromContext wrapper =>
      obtain ⟨prev, current, rfl⟩ := step_fromContext stepped
      exact
        ⟨carried,
          standing.disarming current rfl Stage.noConfusion
            Stage.noConfusion rfl,
          routines,
          remembers.advance current Stage.noConfusion fun _ => rfl, armed⟩
  | dropBox wrapper =>
      obtain ⟨prev, context, current, rfl⟩ := step_dropBox stepped
      exact
        ⟨carried,
          standing.disarming current rfl Stage.noConfusion
            Stage.noConfusion rfl,
          routines,
          remembers.advance current Stage.noConfusion fun _ => rfl, armed⟩
  | clearContext wrapper =>
      obtain ⟨prev, current, rfl⟩ := step_clearContext stepped
      obtain ⟨_, routine, _⟩ :=
        standing.of_disarming current rfl Stage.noConfusion
      refine
        ⟨carried,
          standing.disarming current rfl Stage.noConfusion
            Stage.noConfusion rfl,
          routines,
          remembers.advance current Stage.noConfusion fun _ => rfl, ?_⟩
      have cleared : system.fields.clearContext.armed = none :=
        armed_of_routine routine
      rw [armed_of_routine routine] at armed
      exact cleared.trans armed
  | ret wrapper =>
      obtain ⟨call, current, returning, rfl⟩ := step_ret stepped
      have closed : callIsOpen (system.calls wrapper) = false := by
        rw [current, callIsOpen, returning]
        rfl
      exact
        ⟨carried, standing.update_closed closed rfl, routines,
          remembers.ret current returning, armed⟩
  | kernelCancel cancellation =>
      obtain ⟨_, ⟨missing, rfl⟩ | ⟨installed, rfl⟩⟩ :=
        step_kernelCancel stepped
      · exact
          ⟨carried, standing, routines,
            ⟨remembers.numbered, remembers.cached, remembers.returned⟩,
            armed_of_routine missing⟩
      · exact
          ⟨carried, standing.take installed, routines,
            ⟨remembers.numbered, remembers.cached, remembers.returned⟩,
            armed_of_routine rfl⟩
  | fetchContext cancellation =>
      obtain ⟨untouched, rfl⟩ := step_fetchContext stepped
      exact
        ⟨carried, standing.fetch untouched, routines, remembers, armed⟩
  | runRoutine cancellation garbage =>
      obtain ⟨context, fetched, rfl⟩ := step_runRoutine stepped
      exact ⟨carried, standing.call fetched, routines, remembers, armed⟩
  | dropFetched cancellation =>
      obtain ⟨context, running, rfl⟩ := step_dropFetched stepped
      exact ⟨carried, standing.drop running, routines, remembers, armed⟩

theorem claimInvariant_start (mj : MajorFunction) :
    ClaimInvariant (start mj, History.start) where
  carried := by
    intro wrapper call called
    cases called
  standing := by
    refine .unarmed Ledger.heldBy_empty rfl ?_ ?_
    · intro wrapper call called
      cases called
    · intro cancellation uncalled
      cases uncalled
  remembers := by
    refine ⟨fun _ => 0, ⟨?_, fun _ _ => rfl, ?_⟩, rfl⟩
    · intro wrapper arming own
      cases own
    · intro wrapper call called
      cases called

theorem ClaimInvariant.claimedOnce
    {run : System × History} (invariant : ClaimInvariant run) :
    run.1.ClaimedOnce := by
  refine ⟨?_, fun quiet => invariant.standing.armed_eq quiet.2⟩
  cases invariant.standing with
  | unarmed held _ _ _ => exact held.1
  | staging _ _ held _ _ _ _ _ => exact held.1
  | armed _ held _ _ _ _ => exact held.1
  | taken _ _ held _ _ _ _ _ => exact held.1

/-- Along every run in turn, whatever is armed is claimed by exactly one
party. -/
theorem armings_claimedOnce
    {mj : MajorFunction} {events : List Event}
    (inTurn :
      Guarded (recorded step History.record) ClaimInTurn
        (start mj, History.start) events) :
    Always step ClaimedOnce (start mj) events :=
  always_of_recorded
    ((always_of_guarded claimInvariant_step (claimInvariant_start mj)
      inTurn).mono fun _ invariant => invariant.claimedOnce)

/-- A routine is armed and disarmed through a clone; the clone arms another
one, which the kernel takes and runs. -/
theorem armThenDisarm_claimedOnce :
    Always step ClaimedOnce (start .read)
      (accesses 0 (some 7) 16 ++ [.ret 0, .clone 0 1] ++
        accesses 1 none nullPtr ++ [.ret 1] ++ accesses 1 (some 9) 32 ++
        [.ret 1, .kernelCancel 0, .fetchContext 0, .runRoutine 0 none,
          .dropFetched 0]) := by
  apply armings_claimedOnce
  refine .cons rfl trivial (.cons rfl ⟨rfl, rfl, ?_, ?_, ?_⟩ ?_)
  · rintro (_ | wrapper) busy <;> cases busy
  · intro cancellation busy
    cases busy
  · intro cancellation context running
    cases running
  refine .cons rfl trivial (.cons rfl trivial (.cons rfl trivial ?_))
  refine .cons rfl trivial (.cons rfl ⟨rfl, ?_, ?_⟩ ?_)
  · rintro (_ | _ | wrapper) call called staged <;> cases called
    cases staged
  · intro cancellation busy
    cases busy
  refine .cons rfl trivial (.cons rfl trivial (.cons rfl trivial ?_))
  refine .cons rfl trivial (.cons rfl trivial ?_)
  refine .cons rfl ⟨rfl, rfl, ?_, ?_, ?_⟩ ?_
  · rintro (_ | _ | wrapper) busy <;> cases busy
  · intro cancellation busy
    cases busy
  · intro cancellation context running
    cases running
  refine .cons rfl trivial (.cons rfl trivial (.cons rfl trivial ?_))
  exact .cons rfl trivial (.cons rfl trivial (.cons rfl trivial trivial))

/-- The routine is armed and runs, and the wrapper that armed it, which still
has it cached, gets it back as well. -/
theorem cancelThenDisarm_claimsTwice :
    ¬ Always step ClaimedOnce (start .read)
      (accesses 0 (some 7) 16 ++
        [.ret 0, .kernelCancel 0, .fetchContext 0, .runRoutine 0 none,
          .dropFetched 0] ++
        accesses 0 none nullPtr ++ [.ret 0]) := by
  apply not_always_of_run rfl
  intro claimed
  exact List.cons_ne_nil _ _ claimed.1

end System

end Cancel

end WinDrvUtils

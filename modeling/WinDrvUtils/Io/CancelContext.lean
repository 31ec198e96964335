import WinDrvUtils.Io.CancelClaims

/-!
# The boxes of the cancel context

`set_context` puts a box into `DriverContext[3]`, and two parties take it out:
`set_cancel_rtn(None)`, which also clears the field, and `cancel_routine`,
which does not. Neither looks whether there is a box.

`Owner` follows the box of the field from `set_context` to the party that
drops it. Every box is dropped once along the runs in which a routine is armed
over a packet that is not armed, and disarmed while it is.
-/

namespace WinDrvUtils

namespace Cancel

open StepSystem Parties

def Cancellation.box : Cancellation → Option Address
  | .fetched context => some context
  | .running context => some context
  | _ => none

def Cancellation.isTaken : Cancellation → Bool
  | .taken => true
  | _ => false

namespace System

def Still (system : System) : Prop :=
  (∀ wrapper, system.calls wrapper = none) ∧
    ∀ cancellation, system.cancellations cancellation = .idle

def keptBox (fields : CancelFields) : List Address :=
  if fields.cancelRoutine then [fields.driverContext] else []

/-- No box is dropped that is not live, and in a still packet every box has
been dropped but the one of a routine that is armed. -/
def ContextsReclaimed (system : System) : Prop :=
  system.fields.boxes.stray = [] ∧
    (system.Still → system.fields.boxes.HeldBy (keptBox system.fields))

/-- A routine is armed while none is, with no other call between its stores
and no cancellation about to read the context; it is disarmed while it is
armed. -/
def ContextInTurn (system : System) : Event → Prop
  | .setContext _ _ =>
      system.fields.cancelRoutine = false ∧
        OnlyBusy callIsOpen system.calls none ∧
        OnlyBusy Cancellation.isTaken system.cancellations none
  | .clearRoutine _ => system.fields.cancelRoutine = true
  | _ => True

/-- Who is to drop the box of the context. The last argument lists the box, or
is empty when there is none. -/
inductive Owner (routine : Bool) (context : Address)
    (calls : Nat → Option Call) (cancellations : Nat → Cancellation) :
    List Address → Prop where
  | nobody
      (disarmed : routine = false)
      (alone : OnlyBusy callIsOpen calls none)
      (untaken : OnlyBusy Cancellation.isTaken cancellations none) :
      Owner routine context calls cancellations []
  | arming (wrapper : Nat) (call : Call)
      (disarmed : routine = false)
      (current : calls wrapper = some call)
      (staged : call.stage = .staged)
      (alone : OnlyBusy callIsOpen calls (some wrapper))
      (untaken : OnlyBusy Cancellation.isTaken cancellations none) :
      Owner routine context calls cancellations [context]
  | armed
      (installed : routine = true)
      (alone : OnlyBusy callIsOpen calls none)
      (untaken : OnlyBusy Cancellation.isTaken cancellations none) :
      Owner routine context calls cancellations [context]
  | taken (cancellation : Nat)
      (disarmed : routine = false)
      (alone : OnlyBusy callIsOpen calls none)
      (under : cancellations cancellation = .taken)
      (untaken :
        OnlyBusy Cancellation.isTaken cancellations (some cancellation)) :
      Owner routine context calls cancellations [context]
  | disarming (wrapper : Nat) (call : Call)
      (disarmed : routine = false)
      (current : calls wrapper = some call)
      (cleared : call.stage = .cleared ∨ call.stage = .fetched context)
      (alone : OnlyBusy callIsOpen calls (some wrapper))
      (untaken : OnlyBusy Cancellation.isTaken cancellations none) :
      Owner routine context calls cancellations [context]
  | dropped (wrapper : Nat) (call : Call)
      (disarmed : routine = false)
      (current : calls wrapper = some call)
      (dropped : call.stage = .dropped)
      (alone : OnlyBusy callIsOpen calls (some wrapper))
      (untaken : OnlyBusy Cancellation.isTaken cancellations none) :
      Owner routine context calls cancellations []

/-- The live boxes are the context's and those of the cancellations. -/
def ContextInvariant (system : System) : Prop :=
  ∃ own holdings,
    Owner system.fields.cancelRoutine system.fields.driverContext
      system.calls system.cancellations own ∧
    Holdings Cancellation.box system.cancellations holdings ∧
    system.fields.boxes.HeldBy (own ++ holdings.map Prod.snd)

section

variable {routine : Bool} {context : Address} {calls : Nat → Option Call}
    {cancellations : Nat → Cancellation} {own : List Address}
    {wrapper cancellation : Nat} {call : Call}

theorem callIsOpen_of_stage
    (current : calls wrapper = some call)
    (opened : call.stage.isOpen = true) :
    callIsOpen (calls wrapper) = true := by
  rw [current]
  exact opened

theorem isOpen_of_cleared
    (cleared : call.stage = .cleared ∨ call.stage = .fetched context) :
    call.stage.isOpen = true := by
  rcases cleared with cleared | fetched
  · rw [cleared]
    rfl
  · rw [fetched]
    rfl

theorem isOpen_of_staged (staged : call.stage = .staged) :
    call.stage.isOpen = true := by
  rw [staged]
  rfl

theorem isOpen_of_dropped (dropped : call.stage = .dropped) :
    call.stage.isOpen = true := by
  rw [dropped]
  rfl

theorem isTaken_of_taken (under : cancellations cancellation = .taken) :
    (cancellations cancellation).isTaken = true := by
  rw [under]
  rfl

/-! ## Steps of a call -/

theorem Owner.update_closed
    {after : Option Call}
    (owner : Owner routine context calls cancellations own)
    (closedBefore : callIsOpen (calls wrapper) = false)
    (closed : callIsOpen after = false) :
    Owner routine context (Function.update calls wrapper after) cancellations
      own := by
  -- An open call is another's.
  have kept :
      ∀ other call, calls other = some call → call.stage.isOpen = true →
        Function.update calls wrapper after other = some call := by
    intro other call current opened
    have different : other ≠ wrapper := by
      intro same
      subst same
      rw [callIsOpen_of_stage current opened] at closedBefore
      cases closedBefore
    rw [Function.update_of_ne different]
    exact current
  cases owner with
  | nobody disarmed alone untaken =>
      exact .nobody disarmed (alone.update_idle closed) untaken
  | arming stager call disarmed current staged alone untaken =>
      exact
        .arming stager call disarmed
          (kept stager call current (isOpen_of_staged staged)) staged
          (alone.update_idle closed) untaken
  | armed installed alone untaken =>
      exact .armed installed (alone.update_idle closed) untaken
  | taken other disarmed alone under untaken =>
      exact .taken other disarmed (alone.update_idle closed) under untaken
  | disarming clearer call disarmed current cleared alone untaken =>
      exact
        .disarming clearer call disarmed
          (kept clearer call current (isOpen_of_cleared cleared)) cleared
          (alone.update_idle closed) untaken
  | dropped dropper call disarmed current dropped alone untaken =>
      exact
        .dropped dropper call disarmed
          (kept dropper call current (isOpen_of_dropped dropped)) dropped
          (alone.update_idle closed) untaken

theorem Owner.eq_kept
    (owner : Owner routine context calls cancellations own)
    (alone : OnlyBusy callIsOpen calls none)
    (untaken : OnlyBusy Cancellation.isTaken cancellations none) :
    own = if routine then [context] else [] := by
  cases owner with
  | nobody disarmed _ _ =>
      simp [disarmed]
  | arming stager call _ current staged _ _ =>
      have busy := callIsOpen_of_stage current (isOpen_of_staged staged)
      exact absurd alone (OnlyBusy.not_none busy)
  | armed installed _ _ =>
      simp [installed]
  | taken other _ _ under _ =>
      exact absurd untaken (OnlyBusy.not_none (isTaken_of_taken under))
  | disarming clearer call _ current cleared _ _ =>
      have busy := callIsOpen_of_stage current (isOpen_of_cleared cleared)
      exact absurd alone (OnlyBusy.not_none busy)
  | dropped dropper call _ current dropped _ _ =>
      have busy := callIsOpen_of_stage current (isOpen_of_dropped dropped)
      exact absurd alone (OnlyBusy.not_none busy)

theorem Owner.of_open
    (owner : Owner routine context calls cancellations own)
    (current : calls wrapper = some call)
    (opened : call.stage.isOpen = true) :
    routine = false ∧
      OnlyBusy callIsOpen calls (some wrapper) ∧
      OnlyBusy Cancellation.isTaken cancellations none ∧
      ((call.stage = .staged ∧ own = [context]) ∨
        ((call.stage = .cleared ∨ call.stage = .fetched context) ∧
          own = [context]) ∨
        (call.stage = .dropped ∧ own = [])) := by
  have busy := callIsOpen_of_stage current opened
  cases owner with
  | nobody _ alone _ =>
      exact absurd alone (OnlyBusy.not_none busy)
  | arming stager other disarmed otherCurrent staged alone untaken =>
      obtain rfl := alone.eq busy
      obtain rfl : other = call :=
        Option.some.inj (otherCurrent.symm.trans current)
      exact ⟨disarmed, alone, untaken, Or.inl ⟨staged, rfl⟩⟩
  | armed _ alone _ =>
      exact absurd alone (OnlyBusy.not_none busy)
  | taken _ _ alone _ _ =>
      exact absurd alone (OnlyBusy.not_none busy)
  | disarming clearer other disarmed otherCurrent cleared alone untaken =>
      obtain rfl := alone.eq busy
      obtain rfl : other = call :=
        Option.some.inj (otherCurrent.symm.trans current)
      exact ⟨disarmed, alone, untaken, Or.inr (Or.inl ⟨cleared, rfl⟩)⟩
  | dropped dropper other disarmed otherCurrent dropped alone untaken =>
      obtain rfl := alone.eq busy
      obtain rfl : other = call :=
        Option.some.inj (otherCurrent.symm.trans current)
      exact ⟨disarmed, alone, untaken, Or.inr (Or.inr ⟨dropped, rfl⟩)⟩

theorem Owner.of_staged
    (owner : Owner routine context calls cancellations own)
    (current : calls wrapper = some call) (staged : call.stage = .staged) :
    own = [context] ∧ OnlyBusy callIsOpen calls (some wrapper) ∧
      OnlyBusy Cancellation.isTaken cancellations none := by
  obtain ⟨_, alone, untaken, stage⟩ :=
    owner.of_open current (isOpen_of_staged staged)
  rw [staged] at stage
  rcases stage with ⟨_, same⟩ | ⟨cleared | fetched, _⟩ | ⟨dropped, _⟩
  · exact ⟨same, alone, untaken⟩
  · cases cleared
  · cases fetched
  · cases dropped

theorem Owner.of_cleared
    (owner : Owner routine context calls cancellations own)
    (current : calls wrapper = some call) (cleared : call.stage = .cleared) :
    own = [context] ∧ routine = false ∧
      OnlyBusy callIsOpen calls (some wrapper) ∧
      OnlyBusy Cancellation.isTaken cancellations none := by
  have opened : call.stage.isOpen = true := by
    rw [cleared]
    rfl
  obtain ⟨disarmed, alone, untaken, stage⟩ := owner.of_open current opened
  rw [cleared] at stage
  rcases stage with ⟨staged, _⟩ | ⟨_, same⟩ | ⟨dropped, _⟩
  · cases staged
  · exact ⟨same, disarmed, alone, untaken⟩
  · cases dropped

/-- The box that a call has fetched is the one that is owned. -/
theorem Owner.of_fetched
    (owner : Owner routine context calls cancellations own)
    (current : calls wrapper = some call) {box : Address}
    (fetched : call.stage = .fetched box) :
    box = context ∧ own = [context] ∧ routine = false ∧
      OnlyBusy callIsOpen calls (some wrapper) ∧
      OnlyBusy Cancellation.isTaken cancellations none := by
  have opened : call.stage.isOpen = true := by
    rw [fetched]
    rfl
  obtain ⟨disarmed, alone, untaken, stage⟩ := owner.of_open current opened
  rw [fetched] at stage
  rcases stage with ⟨staged, _⟩ | ⟨cleared | own, same⟩ | ⟨dropped, _⟩
  · cases staged
  · cases cleared
  · exact ⟨Stage.fetched.inj own, same, disarmed, alone, untaken⟩
  · cases dropped

theorem Owner.of_dropped
    (owner : Owner routine context calls cancellations own)
    (current : calls wrapper = some call) (dropped : call.stage = .dropped) :
    own = [] ∧ routine = false ∧
      OnlyBusy callIsOpen calls (some wrapper) ∧
      OnlyBusy Cancellation.isTaken cancellations none := by
  obtain ⟨disarmed, alone, untaken, stage⟩ :=
    owner.of_open current (isOpen_of_dropped dropped)
  rw [dropped] at stage
  rcases stage with ⟨staged, _⟩ | ⟨cleared | fetched, _⟩ | ⟨_, same⟩
  · cases staged
  · cases cleared
  · cases fetched
  · exact ⟨same, disarmed, alone, untaken⟩

/-! ## Steps of a cancellation -/

/-- An armed packet owns the box of its context, and nobody is about
anything. -/
theorem Owner.of_armed
    (owner : Owner routine context calls cancellations own)
    (installed : routine = true) :
    own = [context] ∧ OnlyBusy callIsOpen calls none ∧
      OnlyBusy Cancellation.isTaken cancellations none := by
  cases owner with
  | armed _ alone untaken =>
      exact ⟨rfl, alone, untaken⟩
  | nobody disarmed _ _ | arming _ _ disarmed _ _ _ _
  | taken _ disarmed _ _ _ | disarming _ _ disarmed _ _ _ _
  | dropped _ _ disarmed _ _ _ _ =>
      rw [installed] at disarmed
      cases disarmed

theorem Owner.of_taken
    (owner : Owner routine context calls cancellations own)
    (under : cancellations cancellation = .taken) :
    own = [context] ∧ routine = false ∧ OnlyBusy callIsOpen calls none ∧
      OnlyBusy Cancellation.isTaken cancellations (some cancellation) := by
  have busy := isTaken_of_taken under
  cases owner with
  | taken other disarmed alone otherUnder untaken =>
      obtain rfl := untaken.eq busy
      exact ⟨rfl, disarmed, alone, untaken⟩
  | nobody _ _ untaken | arming _ _ _ _ _ _ untaken
  | armed _ _ untaken | disarming _ _ _ _ _ _ untaken
  | dropped _ _ _ _ _ _ untaken =>
      exact absurd untaken (OnlyBusy.not_none busy)

/-- A cancellation that is not about to read the context before nor after its
step does not change who owns the box. -/
theorem Owner.update_untaken
    {after : Cancellation}
    (owner : Owner routine context calls cancellations own)
    (before : (cancellations cancellation).isTaken = false)
    (calm : after.isTaken = false) :
    Owner routine context calls
      (Function.update cancellations cancellation after) own := by
  cases owner with
  | nobody disarmed alone untaken =>
      exact .nobody disarmed alone (untaken.update_idle calm)
  | arming stager call disarmed current staged alone untaken =>
      exact
        .arming stager call disarmed current staged alone
          (untaken.update_idle calm)
  | armed installed alone untaken =>
      exact .armed installed alone (untaken.update_idle calm)
  | taken other disarmed alone under untaken =>
      have different : other ≠ cancellation := by
        intro same
        subst same
        rw [isTaken_of_taken under] at before
        cases before
      refine
        .taken other disarmed alone ?_ (untaken.update_idle calm)
      rw [Function.update_of_ne different]
      exact under
  | disarming clearer call disarmed current cleared alone untaken =>
      exact
        .disarming clearer call disarmed current cleared alone
          (untaken.update_idle calm)
  | dropped dropper call disarmed current dropped alone untaken =>
      exact
        .dropped dropper call disarmed current dropped alone
          (untaken.update_idle calm)

end

/-! ## Runs -/

theorem contextInvariant_step
    (system : System) (event : Event) (next : System)
    (invariant : system.ContextInvariant)
    (inTurn : system.ContextInTurn event)
    (stepped : step system event = some next) :
    next.ContextInvariant := by
  obtain ⟨own, holdings, owner, listed, held⟩ := invariant
  cases event with
  | clone source target =>
      obtain ⟨_, _, rfl⟩ := step_clone stepped
      exact ⟨own, holdings, owner, listed, held⟩
  | call wrapper cancel =>
      obtain ⟨idle, rfl⟩ := step_call stepped
      exact
        ⟨own, holdings, owner.update_closed (by rw [idle]; rfl) rfl, listed,
          held⟩
  | setContext wrapper box =>
      obtain ⟨pfn, prev, _, _, _, rfl⟩ := step_setContext stepped
      obtain ⟨disarmed, alone, untaken⟩ := inTurn
      obtain rfl : own = [] := by
        simpa [disarmed] using owner.eq_kept alone untaken
      refine ⟨[box], holdings, ?_, listed, held.issue box⟩
      exact
        .arming wrapper _ disarmed (Function.update_self _ _ _) rfl
          (alone.weaken (some wrapper)).update untaken
  | storeRoutine wrapper =>
      obtain ⟨pfn, prev, current, rfl⟩ := step_storeRoutine stepped
      obtain ⟨rfl, alone, untaken⟩ := owner.of_staged current rfl
      exact
        ⟨_, holdings, .armed rfl (alone.leave rfl) untaken, listed, held⟩
  | clearRoutine wrapper =>
      obtain ⟨prev, current, rfl⟩ := step_clearRoutine stepped
      obtain ⟨rfl, alone, untaken⟩ := owner.of_armed inTurn
      refine ⟨_, holdings, ?_, listed, held⟩
      exact
        .disarming wrapper _ rfl (Function.update_self _ _ _) (Or.inl rfl)
          (alone.weaken (some wrapper)).update untaken
  | fromContext wrapper =>
      obtain ⟨prev, current, rfl⟩ := step_fromContext stepped
      obtain ⟨rfl, disarmed, alone, untaken⟩ := owner.of_cleared current rfl
      refine ⟨_, holdings, ?_, listed, held⟩
      exact
        .disarming wrapper _ disarmed (Function.update_self _ _ _)
          (Or.inr rfl) alone.update untaken
  | dropBox wrapper =>
      obtain ⟨prev, context, current, rfl⟩ := step_dropBox stepped
      obtain ⟨rfl, rfl, disarmed, alone, untaken⟩ :=
        owner.of_fetched current rfl
      refine ⟨[], holdings, ?_, listed, held.release_of_perm (.refl _)⟩
      exact
        .dropped wrapper _ disarmed (Function.update_self _ _ _) rfl
          alone.update untaken
  | clearContext wrapper =>
      obtain ⟨prev, current, rfl⟩ := step_clearContext stepped
      obtain ⟨rfl, disarmed, alone, untaken⟩ := owner.of_dropped current rfl
      exact
        ⟨[], holdings, .nobody disarmed (alone.leave rfl) untaken, listed,
          held⟩
  | ret wrapper =>
      obtain ⟨call, current, returning, rfl⟩ := step_ret stepped
      have closed : callIsOpen (system.calls wrapper) = false := by
        rw [current, callIsOpen, returning]
        rfl
      exact ⟨own, holdings, owner.update_closed closed rfl, listed, held⟩
  | kernelCancel cancellation =>
      obtain ⟨idle, ⟨_, rfl⟩ | ⟨installed, rfl⟩⟩ := step_kernelCancel stepped
      · exact ⟨own, holdings, owner, listed, held⟩
      · obtain ⟨rfl, alone, untaken⟩ := owner.of_armed installed
        refine ⟨_, holdings, ?_, listed.keep (by rw [idle]; rfl), held⟩
        exact
          .taken cancellation rfl alone (Function.update_self _ _ _)
            (untaken.weaken (some cancellation)).update
  | fetchContext cancellation =>
      obtain ⟨taken, rfl⟩ := step_fetchContext stepped
      obtain ⟨rfl, disarmed, alone, untaken⟩ := owner.of_taken taken
      exact
        ⟨[], _, .nobody disarmed alone (untaken.leave rfl),
          listed.gain (by rw [taken]; rfl) rfl, held⟩
  | runRoutine cancellation garbage =>
      obtain ⟨context, fetched, rfl⟩ := step_runRoutine stepped
      refine
        ⟨own, holdings, owner.update_untaken (by rw [fetched]; rfl) rfl,
          listed.keep (by rw [fetched]; rfl), held⟩
  | dropFetched cancellation =>
      obtain ⟨context, running, rfl⟩ := step_dropFetched stepped
      have member : (cancellation, context) ∈ holdings := by
        rw [listed.mem_iff, running]
        rfl
      have split :
          (own ++ holdings.map Prod.snd).Perm
            (context ::
              (own ++
                (holdings.erase (cancellation, context)).map Prod.snd)) :=
        (((List.perm_cons_erase member).map Prod.snd).append_left own).trans
          List.perm_middle
      exact
        ⟨own, _, owner.update_untaken (by rw [running]; rfl) rfl,
          listed.lose (by rw [running]; rfl) rfl, held.release_of_perm split⟩

theorem contextInvariant_start (mj : MajorFunction) :
    (start mj).ContextInvariant := by
  refine ⟨[], [], .nobody rfl ?_ ?_, Holdings.nil fun _ => rfl,
    Ledger.heldBy_empty⟩
  · intro wrapper busy
    cases busy
  · intro cancellation busy
    cases busy

theorem ContextInvariant.contextsReclaimed
    {system : System} (invariant : system.ContextInvariant) :
    system.ContextsReclaimed := by
  obtain ⟨own, holdings, owner, listed, held⟩ := invariant
  refine ⟨held.1, fun still => ?_⟩
  obtain rfl : holdings = [] := by
    refine listed.eq_nil fun cancellation => ?_
    rw [still.2 cancellation]
    rfl
  have alone : OnlyBusy callIsOpen system.calls none := by
    intro wrapper busy
    rw [still.1 wrapper] at busy
    cases busy
  have untaken : OnlyBusy Cancellation.isTaken system.cancellations none := by
    intro cancellation busy
    rw [still.2 cancellation] at busy
    cases busy
  rw [List.map_nil, List.append_nil, owner.eq_kept alone untaken] at held
  exact held

/-- Along every run in turn, every box of the context is dropped exactly
once. -/
theorem contexts_reclaimedOnce
    {mj : MajorFunction} {events : List Event}
    (inTurn : Guarded step ContextInTurn (start mj) events) :
    Always step ContextsReclaimed (start mj) events :=
  (always_of_guarded contextInvariant_step (contextInvariant_start mj)
    inTurn).mono fun _ invariant => invariant.contextsReclaimed

theorem armThenDisarm_reclaimed :
    Always step ContextsReclaimed (start .read)
      (accesses 0 (some 7) 16 ++ [.ret 0] ++ accesses 0 none nullPtr ++
        [.ret 0]) := by
  apply contexts_reclaimedOnce
  intro next stepped
  cases stepped
  refine ⟨trivial, ?_⟩
  intro next stepped
  cases stepped
  refine ⟨⟨rfl, ?_, ?_⟩, ?_⟩
  · intro wrapper busy
    by_cases same : wrapper = 0
    · subst same
      cases busy
    · simp [start, same, callIsOpen] at busy
  · intro cancellation stepped
    cases stepped
  · intro next stepped
    cases stepped
    refine ⟨trivial, ?_⟩
    intro next stepped
    cases stepped
    refine ⟨trivial, ?_⟩
    intro next stepped
    cases stepped
    refine ⟨trivial, ?_⟩
    intro next stepped
    cases stepped
    refine ⟨rfl, ?_⟩
    intro next stepped
    cases stepped
    refine ⟨trivial, ?_⟩
    intro next stepped
    cases stepped
    refine ⟨trivial, ?_⟩
    intro next stepped
    cases stepped
    refine ⟨trivial, ?_⟩
    intro next stepped
    cases stepped
    exact ⟨trivial, trivial⟩

/-- A packet that the kernel has cancelled is disarmed: the box that the
cancellation dropped is still in the context, and is dropped again. -/
theorem cancelThenDisarm_dropsTwice :
    ¬ Always step ContextsReclaimed (start .read)
      (accesses 0 (some 7) 16 ++
        [.ret 0, .kernelCancel 0, .fetchContext 0, .runRoutine 0 none,
          .dropFetched 0] ++
        accesses 0 none nullPtr ++ [.ret 0]) := by
  apply not_always_of_run rfl
  intro reclaimed
  exact List.cons_ne_nil _ _ reclaimed.1

end System

end Cancel

end WinDrvUtils

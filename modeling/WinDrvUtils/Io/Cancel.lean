import WinDrvUtils.Io.Irp
import WinDrvUtils.Library.Ledger
import WinDrvUtils.Library.StepSystem

/-!
# Cancel routines

`set_cancel_rtn` arms or disarms a packet through two of its fields:
`CancelRoutine`, which the kernel takes atomically when it cancels, and
`DriverContext[3]`, which holds a box with a clone of the wrapper.
`cancel_routine`, which the kernel then calls, finds the user's routine in
that box.

The first section has the functions as they run undisturbed. `System` lets
any number of wrappers of one packet and any number of kernel cancellations
take turns between two accesses to the packet, and `setCancelRtn_undisturbed`
says that a call that is not disturbed computes the function.

Two ledgers account for the runs. In `boxes` a token is a box of
`DriverContext[3]`. In `arms` a token is a routine that was armed; it is
released by whoever claims it, `set_cancel_rtn` with the routine that it is
going to return, or the user's routine that runs.
-/

namespace WinDrvUtils

open StepSystem

/-- What cancelling uses of a packet, and the heap behind it. The only routine
that is ever stored in `CancelRoutine` is `cancel_routine`. `contents` is the
`cancel` field of the wrapper in each box. -/
structure CancelFields where
  cancelRoutine : Bool
  driverContext : Address
  boxes : Ledger Address
  contents : Address → Option CodePtr

namespace CancelFields

def unarmed : CancelFields :=
  ⟨false, nullPtr, Ledger.empty, fun _ => none⟩

def clearContext (fields : CancelFields) : CancelFields :=
  { fields with driverContext := nullPtr }

/-- `from_context` makes a box of the pointer; `dropBox` drops it. -/
def fromContext (fields : CancelFields) : Address :=
  fields.driverContext

def dropBox (fields : CancelFields) (context : Address) : CancelFields :=
  { fields with boxes := fields.boxes.release context }

def storeRoutine (fields : CancelFields) (routine : Bool) : CancelFields :=
  { fields with cancelRoutine := routine }

def armed (fields : CancelFields) : Option CodePtr :=
  if fields.cancelRoutine then fields.contents fields.driverContext
  else none

end CancelFields

namespace WduIrp

/-- `box` is the block that the allocator returns. -/
def setContext (irp : WduIrp) (box : Address) (fields : CancelFields) :
    CancelFields :=
  { fields with
    driverContext := box
    boxes := fields.boxes.issue box
    contents := Function.update fields.contents box irp.cancel }

def setCancelRtn (irp : WduIrp) (cancel : Option CodePtr) (box : Address)
    (fields : CancelFields) : Option CodePtr × WduIrp × CancelFields :=
  let prev := irp.cancel
  let irp := { irp with cancel := cancel }
  let fields :=
    match cancel with
    | some _ => (irp.setContext box fields).storeRoutine true
    | none =>
        let fields := fields.storeRoutine false
        (fields.dropBox fields.fromContext).clearContext
  (prev, irp, fields)

end WduIrp

namespace Cancel

/-! ## Interleavings -/

/-- Where a call of `set_cancel_rtn` stands. `entered` has exchanged the
cached routine; `staged` has run `set_context`; `cleared` has stored `None`
in `CancelRoutine`; `fetched` has read `DriverContext[3]`, `dropped` has
dropped the box, and `returning` has made its last store. -/
inductive Stage where
  | entered
  | staged
  | cleared
  | fetched (context : Address)
  | dropped
  | returning
  deriving DecidableEq, Repr

/-- The call is between two stores that belong together. -/
def Stage.isOpen : Stage → Bool
  | .entered => false
  | .returning => false
  | _ => true

structure Call where
  cancel : Option CodePtr
  prev : Option CodePtr
  stage : Stage
  deriving DecidableEq, Repr

/-- Where a call of `cancel_routine` stands. `running` has started the user's
routine, if it found one; the box is dropped after that returns. -/
inductive Cancellation where
  | idle
  | taken
  | fetched (context : Address)
  | running (context : Address)
  deriving DecidableEq, Repr

def Cancellation.isUncalled : Cancellation → Bool
  | .taken => true
  | .fetched _ => true
  | _ => false

structure System where
  fields : CancelFields
  irps : Nat → WduIrp
  calls : Nat → Option Call
  cancellations : Nat → Cancellation
  arms : Ledger CodePtr

/-- Every wrapper that is not a clone is made by `wrap`. -/
def System.start (mj : MajorFunction) : System where
  fields := CancelFields.unarmed
  irps := fun _ => ⟨mj, none⟩
  calls := fun _ => none
  cancellations := fun _ => .idle
  arms := Ledger.empty

inductive Event where
  | clone (source target : Nat)
  | call (wrapper : Nat) (cancel : Option CodePtr)
  | setContext (wrapper : Nat) (box : Address)
  | storeRoutine (wrapper : Nat)
  | clearRoutine (wrapper : Nat)
  | fromContext (wrapper : Nat)
  | dropBox (wrapper : Nat)
  | clearContext (wrapper : Nat)
  | ret (wrapper : Nat)
  | kernelCancel (cancellation : Nat)
  | fetchContext (cancellation : Nat)
  | runRoutine (cancellation : Nat) (garbage : Option CodePtr)
  | dropFetched (cancellation : Nat)
  deriving DecidableEq, Repr

namespace System

def claim (arms : Ledger CodePtr) : Option CodePtr → Ledger CodePtr
  | none => arms
  | some pfn => arms.release pfn

/-- What a read of a box finds: its contents while it is live, and anything
afterwards. -/
def readBox (fields : CancelFields) (context : Address)
    (garbage : Option CodePtr) : Option CodePtr :=
  if context ∈ fields.boxes.live then fields.contents context else garbage

def advance (system : System) (wrapper : Nat) (call : Call) (stage : Stage) :
    System :=
  { system with
    calls :=
      Function.update system.calls wrapper
        (some { call with stage := stage }) }

def advanceCancellation (system : System) (cancellation : Nat)
    (stage : Cancellation) : System :=
  { system with
    cancellations :=
      Function.update system.cancellations cancellation stage }

/-- `clone` needs the source and overwrites the target, so neither can have a
call in progress; `set_cancel_rtn` borrows its wrapper mutably. -/
def clone (system : System) (source target : Nat) : Option System :=
  if system.calls source = none ∧ system.calls target = none then
    some { system with
      irps := Function.update system.irps target (system.irps source) }
  else none

def enter (system : System) (wrapper : Nat) (cancel : Option CodePtr) :
    Option System :=
  match system.calls wrapper with
  | some _ => none
  | none =>
      let irp := system.irps wrapper
      some { system with
        irps :=
          Function.update system.irps wrapper { irp with cancel := cancel }
        calls :=
          Function.update system.calls wrapper
            (some ⟨cancel, irp.cancel, .entered⟩) }

def setContext (system : System) (wrapper : Nat) (box : Address) :
    Option System :=
  match system.calls wrapper with
  | some ⟨some pfn, prev, .entered⟩ =>
      if box ≠ nullPtr ∧ box ∉ system.fields.boxes.live then
        some (advance
          { system with
            fields := (system.irps wrapper).setContext box system.fields }
          wrapper ⟨some pfn, prev, .entered⟩ .staged)
      else none
  | _ => none

/-- The only access of `set_cancel_rtn(Some)` to `CancelRoutine`: what it is
going to return is claimed here. -/
def storeRoutine (system : System) (wrapper : Nat) : Option System :=
  match system.calls wrapper with
  | some ⟨some pfn, prev, .staged⟩ =>
      some (advance
        { system with
          fields := system.fields.storeRoutine true
          arms := (claim system.arms prev).issue pfn }
        wrapper ⟨some pfn, prev, .staged⟩ .returning)
  | _ => none

/-- The only access of `set_cancel_rtn(None)` to `CancelRoutine`, where its
claim is. -/
def clearRoutine (system : System) (wrapper : Nat) : Option System :=
  match system.calls wrapper with
  | some ⟨none, prev, .entered⟩ =>
      some (advance
        { system with
          fields := system.fields.storeRoutine false
          arms := claim system.arms prev }
        wrapper ⟨none, prev, .entered⟩ .cleared)
  | _ => none

def fromContext (system : System) (wrapper : Nat) : Option System :=
  match system.calls wrapper with
  | some ⟨none, prev, .cleared⟩ =>
      some (system.advance wrapper ⟨none, prev, .cleared⟩
        (.fetched system.fields.fromContext))
  | _ => none

def dropBox (system : System) (wrapper : Nat) : Option System :=
  match system.calls wrapper with
  | some ⟨none, prev, .fetched context⟩ =>
      some (advance
        { system with fields := system.fields.dropBox context }
        wrapper ⟨none, prev, .fetched context⟩ .dropped)
  | _ => none

def clearContext (system : System) (wrapper : Nat) : Option System :=
  match system.calls wrapper with
  | some ⟨none, prev, .dropped⟩ =>
      some (advance
        { system with fields := system.fields.clearContext }
        wrapper ⟨none, prev, .dropped⟩ .returning)
  | _ => none

def ret (system : System) (wrapper : Nat) : Option System :=
  match system.calls wrapper with
  | some ⟨_, _, .returning⟩ =>
      some { system with calls := Function.update system.calls wrapper none }
  | _ => none

/-- The kernel takes `CancelRoutine`, leaves null, and calls what it took. -/
def kernelCancel (system : System) (cancellation : Nat) : Option System :=
  if system.cancellations cancellation = .idle then
    if system.fields.cancelRoutine then
      some (advanceCancellation
        { system with fields := system.fields.storeRoutine false }
        cancellation .taken)
    else some system
  else none

def fetchContext (system : System) (cancellation : Nat) : Option System :=
  match system.cancellations cancellation with
  | .taken =>
      some (system.advanceCancellation cancellation
        (.fetched system.fields.fromContext))
  | _ => none

def runRoutine (system : System) (cancellation : Nat)
    (garbage : Option CodePtr) : Option System :=
  match system.cancellations cancellation with
  | .fetched context =>
      some (advanceCancellation
        { system with
          arms := claim system.arms (readBox system.fields context garbage) }
        cancellation (.running context))
  | _ => none

def dropFetched (system : System) (cancellation : Nat) : Option System :=
  match system.cancellations cancellation with
  | .running context =>
      some (advanceCancellation
        { system with fields := system.fields.dropBox context }
        cancellation .idle)
  | _ => none

def step (system : System) : Event → Option System
  | .clone source target => system.clone source target
  | .call wrapper cancel => system.enter wrapper cancel
  | .setContext wrapper box => system.setContext wrapper box
  | .storeRoutine wrapper => system.storeRoutine wrapper
  | .clearRoutine wrapper => system.clearRoutine wrapper
  | .fromContext wrapper => system.fromContext wrapper
  | .dropBox wrapper => system.dropBox wrapper
  | .clearContext wrapper => system.clearContext wrapper
  | .ret wrapper => system.ret wrapper
  | .kernelCancel cancellation => system.kernelCancel cancellation
  | .fetchContext cancellation => system.fetchContext cancellation
  | .runRoutine cancellation garbage =>
      system.runRoutine cancellation garbage
  | .dropFetched cancellation => system.dropFetched cancellation

/-! ## What one access does -/

variable {system next : System}

theorem step_clone
    {source target : Nat}
    (stepped : step system (.clone source target) = some next) :
    system.calls source = none ∧ system.calls target = none ∧
      next = { system with
        irps := Function.update system.irps target (system.irps source) } := by
  simp only [step, clone] at stepped
  split at stepped
  case isTrue idle => exact ⟨idle.1, idle.2, (Option.some.inj stepped).symm⟩
  case isFalse => cases stepped

theorem step_call
    {wrapper : Nat} {cancel : Option CodePtr}
    (stepped : step system (.call wrapper cancel) = some next) :
    system.calls wrapper = none ∧
      next = { system with
        irps :=
          Function.update system.irps wrapper
            { system.irps wrapper with cancel := cancel }
        calls :=
          Function.update system.calls wrapper
            (some ⟨cancel, (system.irps wrapper).cancel, .entered⟩) } := by
  simp only [step, enter] at stepped
  split at stepped
  case h_1 => cases stepped
  case h_2 idle => exact ⟨idle, (Option.some.inj stepped).symm⟩

theorem step_setContext
    {wrapper : Nat} {box : Address}
    (stepped : step system (.setContext wrapper box) = some next) :
    ∃ pfn prev,
      system.calls wrapper = some ⟨some pfn, prev, .entered⟩ ∧
      box ≠ nullPtr ∧ box ∉ system.fields.boxes.live ∧
      next = advance
        { system with
          fields := (system.irps wrapper).setContext box system.fields }
        wrapper ⟨some pfn, prev, .entered⟩ .staged := by
  simp only [step, setContext] at stepped
  split at stepped
  case h_1 pfn prev entered =>
      split at stepped
      case isTrue fresh =>
          exact
            ⟨pfn, prev, entered, fresh.1, fresh.2,
              (Option.some.inj stepped).symm⟩
      case isFalse => cases stepped
  case h_2 => cases stepped

theorem step_storeRoutine
    {wrapper : Nat}
    (stepped : step system (.storeRoutine wrapper) = some next) :
    ∃ pfn prev,
      system.calls wrapper = some ⟨some pfn, prev, .staged⟩ ∧
      next = advance
        { system with
          fields := system.fields.storeRoutine true
          arms := (claim system.arms prev).issue pfn }
        wrapper ⟨some pfn, prev, .staged⟩ .returning := by
  simp only [step, storeRoutine] at stepped
  split at stepped
  case h_1 pfn prev staged =>
      exact ⟨pfn, prev, staged, (Option.some.inj stepped).symm⟩
  case h_2 => cases stepped

theorem step_clearRoutine
    {wrapper : Nat}
    (stepped : step system (.clearRoutine wrapper) = some next) :
    ∃ prev,
      system.calls wrapper = some ⟨none, prev, .entered⟩ ∧
      next = advance
        { system with
          fields := system.fields.storeRoutine false
          arms := claim system.arms prev }
        wrapper ⟨none, prev, .entered⟩ .cleared := by
  simp only [step, clearRoutine] at stepped
  split at stepped
  case h_1 prev entered =>
      exact ⟨prev, entered, (Option.some.inj stepped).symm⟩
  case h_2 => cases stepped

theorem step_fromContext
    {wrapper : Nat}
    (stepped : step system (.fromContext wrapper) = some next) :
    ∃ prev,
      system.calls wrapper = some ⟨none, prev, .cleared⟩ ∧
      next = system.advance wrapper ⟨none, prev, .cleared⟩
        (.fetched system.fields.fromContext) := by
  simp only [step, fromContext] at stepped
  split at stepped
  case h_1 prev cleared =>
      exact ⟨prev, cleared, (Option.some.inj stepped).symm⟩
  case h_2 => cases stepped

theorem step_dropBox
    {wrapper : Nat}
    (stepped : step system (.dropBox wrapper) = some next) :
    ∃ prev context,
      system.calls wrapper = some ⟨none, prev, .fetched context⟩ ∧
      next = advance
        { system with fields := system.fields.dropBox context }
        wrapper ⟨none, prev, .fetched context⟩ .dropped := by
  simp only [step, dropBox] at stepped
  split at stepped
  case h_1 prev context fetched =>
      exact ⟨prev, context, fetched, (Option.some.inj stepped).symm⟩
  case h_2 => cases stepped

theorem step_clearContext
    {wrapper : Nat}
    (stepped : step system (.clearContext wrapper) = some next) :
    ∃ prev,
      system.calls wrapper = some ⟨none, prev, .dropped⟩ ∧
      next = advance
        { system with fields := system.fields.clearContext }
        wrapper ⟨none, prev, .dropped⟩ .returning := by
  simp only [step, clearContext] at stepped
  split at stepped
  case h_1 prev dropped =>
      exact ⟨prev, dropped, (Option.some.inj stepped).symm⟩
  case h_2 => cases stepped

theorem step_ret
    {wrapper : Nat}
    (stepped : step system (.ret wrapper) = some next) :
    ∃ call,
      system.calls wrapper = some call ∧ call.stage = .returning ∧
      next = { system with
        calls := Function.update system.calls wrapper none } := by
  simp only [step, ret] at stepped
  split at stepped
  case h_1 cancel prev returning =>
      exact ⟨_, returning, rfl, (Option.some.inj stepped).symm⟩
  case h_2 => cases stepped

/-- A cancellation finds nothing to take and changes nothing, or it takes the
routine. -/
theorem step_kernelCancel
    {cancellation : Nat}
    (stepped : step system (.kernelCancel cancellation) = some next) :
    system.cancellations cancellation = .idle ∧
      ((system.fields.cancelRoutine = false ∧ next = system) ∨
        (system.fields.cancelRoutine = true ∧
          next = advanceCancellation
            { system with fields := system.fields.storeRoutine false }
            cancellation .taken)) := by
  simp only [step, kernelCancel] at stepped
  split at stepped
  case isTrue idle =>
      split at stepped
      case isTrue installed =>
          exact
            ⟨idle, Or.inr ⟨installed, (Option.some.inj stepped).symm⟩⟩
      case isFalse missing =>
          exact
            ⟨idle, Or.inl
              ⟨by simpa using missing, (Option.some.inj stepped).symm⟩⟩
  case isFalse => cases stepped

theorem step_fetchContext
    {cancellation : Nat}
    (stepped : step system (.fetchContext cancellation) = some next) :
    system.cancellations cancellation = .taken ∧
      next = system.advanceCancellation cancellation
        (.fetched system.fields.fromContext) := by
  simp only [step, fetchContext] at stepped
  split at stepped
  case h_1 taken => exact ⟨taken, (Option.some.inj stepped).symm⟩
  case h_2 => cases stepped

theorem step_runRoutine
    {cancellation : Nat} {garbage : Option CodePtr}
    (stepped : step system (.runRoutine cancellation garbage) = some next) :
    ∃ context,
      system.cancellations cancellation = .fetched context ∧
      next = advanceCancellation
        { system with
          arms := claim system.arms (readBox system.fields context garbage) }
        cancellation (.running context) := by
  simp only [step, runRoutine] at stepped
  split at stepped
  case h_1 context fetched =>
      exact ⟨context, fetched, (Option.some.inj stepped).symm⟩
  case h_2 => cases stepped

theorem step_dropFetched
    {cancellation : Nat}
    (stepped : step system (.dropFetched cancellation) = some next) :
    ∃ context,
      system.cancellations cancellation = .running context ∧
      next = advanceCancellation
        { system with fields := system.fields.dropBox context }
        cancellation .idle := by
  simp only [step, dropFetched] at stepped
  split at stepped
  case h_1 context running =>
      exact ⟨context, running, (Option.some.inj stepped).symm⟩
  case h_2 => cases stepped

/-! ## Calls that are not disturbed -/

def accesses (wrapper : Nat) (cancel : Option CodePtr) (box : Address) :
    List Event :=
  .call wrapper cancel ::
    match cancel with
    | some _ => [.setContext wrapper box, .storeRoutine wrapper]
    | none =>
        [.clearRoutine wrapper, .fromContext wrapper, .dropBox wrapper,
          .clearContext wrapper]

/-- A call whose accesses are not interleaved with others computes
`set_cancel_rtn`. -/
theorem setCancelRtn_undisturbed
    (system : System) (wrapper : Nat) (cancel : Option CodePtr)
    (box : Address)
    (idle : system.calls wrapper = none)
    (fresh : box ≠ nullPtr ∧ box ∉ system.fields.boxes.live) :
    ∃ last prev,
      run step system (accesses wrapper cancel box) = some last ∧
      last.calls wrapper = some ⟨cancel, prev, .returning⟩ ∧
      (system.irps wrapper).setCancelRtn cancel box system.fields =
        (prev, last.irps wrapper, last.fields) := by
  cases cancel with
  | some pfn =>
      simp [accesses, run, step, enter, setContext, storeRoutine, advance,
        idle, fresh, WduIrp.setCancelRtn, WduIrp.setContext,
        CancelFields.storeRoutine]
  | none =>
      simp [accesses, run, step, enter, clearRoutine, fromContext, dropBox,
        clearContext, advance, idle, WduIrp.setCancelRtn,
        CancelFields.storeRoutine, CancelFields.fromContext,
        CancelFields.dropBox, CancelFields.clearContext]

end System

end Cancel

end WinDrvUtils

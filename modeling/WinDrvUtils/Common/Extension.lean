import Mathlib.Tactic.SplitIfs
import WinDrvUtils.Common.Dispatch

/-!
# The driver extension and the driver object

The builder keeps handlers in its own value, `build` copies that value once
into the driver extension, and the slots of the driver object are written by
every call at once. The trampolines work from the copy, so a call that comes
after `build` installs a slot and leaves the copy without the handler.
-/

namespace WinDrvUtils

open StepSystem

/-- A place of the `DRIVER_OBJECT` that a trampoline can be put in. -/
inductive DriverSlot where
  | major (index : Nat)
  | driverUnload
  | addDevice
  deriving DecidableEq, Repr

namespace DriverSlot

def trampoline : DriverSlot → DriverTrampoline
  | .major _ => .dispatchHandler
  | .driverUnload => .driverUnload
  | .addDevice => .addDevice

end DriverSlot

namespace DriverObject

def slot (object : DriverObject) : DriverSlot → Option DriverTrampoline
  | .major index => object.majorFunction index
  | .driverUnload => object.driverUnload
  | .addDevice => object.addDevice

theorem majorFunction_installAll
    (object : DriverObject) (majors : List Nat) (index : Nat) :
    (majors.foldl install object).majorFunction index =
      if index ∈ majors then some .dispatchHandler
      else object.majorFunction index := by
  induction majors generalizing object with
  | nil => simp
  | cons major rest inductionHypothesis =>
      rw [List.foldl_cons, inductionHypothesis]
      by_cases same : index = major
      · simp [install, same]
      · simp [install, same]

/-- Installing a slot touches no other field. -/
theorem installAll_eq (object : DriverObject) (majors : List Nat) :
    majors.foldl install object =
      { object with
        majorFunction := (majors.foldl install object).majorFunction } := by
  induction majors generalizing object with
  | nil => rfl
  | cons major rest inductionHypothesis =>
      rw [List.foldl_cons, inductionHypothesis]
      rfl

end DriverObject

/-- The handler that a value of the builder, or its copy, has for a slot. -/
def WduDriver.handlerOf (driver : WduDriver) :
    DriverSlot → Option CodePtr
  | .major index =>
      match MajorFunction.fromU32 index with
      | .ok major => driver.handler major
      | .error _ => none
  | .driverUnload => driver.unload
  | .addDevice => driver.addDevice

theorem WduDriver.handlerOf_major (driver : WduDriver) (index : Nat) :
    driver.handlerOf (.major index) =
      if index = irpMjCreate then driver.fileobj.create
      else if index = irpMjClose then driver.fileobj.close
      else if index = irpMjCleanup then driver.fileobj.cleanup
      else if index = irpMjRead then driver.io.read
      else if index = irpMjWrite then driver.io.write
      else if index = irpMjDeviceControl then driver.io.ioctl
      else none := by
  simp only [handlerOf, MajorFunction.fromU32]
  split_ifs <;> rfl

theorem WduDriver.handlerOf_init
    (driver : WduDriver) (init : Bool) (slot : DriverSlot) :
    handlerOf { driver with init := init } slot = driver.handlerOf slot := by
  cases slot <;> rfl

namespace DriverEntry

/-! ## One call -/

/-- The handler that a call passes for a slot, if the call is about it. A
table of dispatch routines may pass none. -/
def Event.passes : Event → DriverSlot → Option (Option CodePtr)
  | .deviceAdd pfn, .addDevice => some (some pfn)
  | .unload pfn, .driverUnload => some (some pfn)
  | .fileObject dispatchRtns, .major index =>
      if index = irpMjCreate then some dispatchRtns.create
      else if index = irpMjClose then some dispatchRtns.close
      else if index = irpMjCleanup then some dispatchRtns.cleanup
      else none
  | .io dispatchRtns, .major index =>
      if index = irpMjRead then some dispatchRtns.read
      else if index = irpMjWrite then some dispatchRtns.write
      else if index = irpMjDeviceControl then some dispatchRtns.ioctl
      else none
  | _, _ => none

/-- The slots that a call puts a trampoline in. `device_add` needs a
`DriverExtension` for it. -/
def Installs (entry : DriverEntry) (event : Event) (slot : DriverSlot) :
    Prop :=
  (event.passes slot).isSome ∧
    (slot = .addDevice → entry.object.driverExtension = true)

instance (entry : DriverEntry) (event : Event) (slot : DriverSlot) :
    Decidable (entry.Installs event slot) :=
  inferInstanceAs (Decidable (_ ∧ _))

theorem installs_major
    (entry : DriverEntry) (event : Event) (index : Nat) :
    entry.Installs event (.major index) ↔
      (event.passes (.major index)).isSome := by
  simp [Installs]

/-- A table of three dispatch routines is about its three codes. -/
theorem isSome_table
    (index first second third : Nat) (one two three : Option CodePtr) :
    (if index = first then some one
      else if index = second then some two
      else if index = third then some three
      else none).isSome ↔
      index ∈ [first, second, third] := by
  split_ifs with isFirst isSecond isThird
  · simp [isFirst]
  · simp [isSecond]
  · simp [isThird]
  · simp [isFirst, isSecond, isThird]

theorem isSome_passes_fileObject
    (dispatchRtns : FileObjDispatch) (index : Nat) :
    ((Event.fileObject dispatchRtns).passes (.major index)).isSome ↔
      index ∈ [irpMjCreate, irpMjClose, irpMjCleanup] :=
  isSome_table index _ _ _ _ _ _

theorem isSome_passes_io (dispatchRtns : IoDispath) (index : Nat) :
    ((Event.io dispatchRtns).passes (.major index)).isSome ↔
      index ∈ [irpMjRead, irpMjWrite, irpMjDeviceControl] :=
  isSome_table index _ _ _ _ _ _

/-- The handlers that the calls passed last. -/
def mostRecent (events : List Event) : DriverSlot → Option CodePtr :=
  events.foldl
    (fun passed event slot => (event.passes slot).getD (passed slot))
    fun _ => none

theorem build_cases
    (driver : WduDriver) (status : NTSTATUS) (object : DriverObject) :
    (driver.init = true ∧
        driver.build status object = (.error .alreadyInit, object)) ∨
      (driver.init = false ∧
        ∃ extension,
          driver.build status object =
            (.error .driverExtAllocFailed,
              { object with wduExtension := extension })) ∨
      (driver.init = false ∧
        driver.build status object =
          (.ok { driver with init := true },
            { object with
              wduExtension := some { driver with init := true } })) := by
  cases init : driver.init with
  | true =>
      left
      simp [WduDriver.build, init]
  | false =>
      right
      by_cases success : status = statusSuccess
      · right
        simp [WduDriver.build, WduDriver.allocExt, init, success]
      · left
        refine ⟨rfl, ?_⟩
        by_cases carried : ntSuccess status
        · exact ⟨some {}, by
            simp [WduDriver.build, WduDriver.allocExt, init, success, carried]⟩
        · exact ⟨object.wduExtension, by
            simp [WduDriver.build, WduDriver.allocExt, init, success, carried]⟩

theorem step_owned
    {entry next : DriverEntry} {event : Event}
    (stepped : step entry event = some next) :
    entry.owned = true := by
  by_contra consumed
  simp [step, consumed] at stepped

/-- A setter does to the entry what it returns. A `build` leaves the slots and
the handlers as they are. -/
theorem step_effect
    {entry next : DriverEntry} {event : Event}
    (stepped : step entry event = some next) :
    match event with
    | .deviceAdd pfn =>
        next = ofPair (entry.driver.deviceAdd pfn entry.object)
    | .unload pfn =>
        next = ofPair (entry.driver.setUnload pfn entry.object)
    | .fileObject dispatchRtns =>
        next = ofPair (entry.driver.fileObject dispatchRtns entry.object)
    | .io dispatchRtns =>
        next = ofPair (entry.driver.setIo dispatchRtns entry.object)
    | .build _ =>
        (entry.driver.init = true ∧ next.driver = entry.driver ∧
            next.object = entry.object) ∨
          (entry.driver.init = false ∧ next.driver = entry.driver ∧
            ∃ extension,
              next.object = { entry.object with wduExtension := extension }) ∨
          (entry.driver.init = false ∧
            next.driver = { entry.driver with init := true } ∧
            next.object =
              { entry.object with
                wduExtension := some { entry.driver with init := true } }) := by
  have owned := step_owned stepped
  unfold step at stepped
  rw [if_pos owned] at stepped
  cases event with
  | deviceAdd | unload | fileObject | io =>
      exact (Option.some.inj stepped).symm
  | build status =>
      rcases build_cases entry.driver status entry.object with
        ⟨init, built⟩ | ⟨init, extension, built⟩ | ⟨init, built⟩
      · simp only [built, Option.some.injEq] at stepped
        subst stepped
        exact .inl ⟨init, rfl, rfl⟩
      · simp only [built, Option.some.injEq] at stepped
        subst stepped
        exact .inr (.inl ⟨init, rfl, extension, rfl⟩)
      · simp only [built, Option.some.injEq] at stepped
        subst stepped
        exact .inr (.inr ⟨init, rfl, rfl⟩)

theorem step_handlerOf
    {entry next : DriverEntry} {event : Event}
    (stepped : step entry event = some next) (slot : DriverSlot) :
    next.driver.handlerOf slot =
      (event.passes slot).getD (entry.driver.handlerOf slot) := by
  replace stepped := step_effect stepped
  cases event with
  | deviceAdd pfn =>
      obtain rfl : next = _ := stepped
      cases slot <;> rfl
  | unload pfn =>
      obtain rfl : next = _ := stepped
      cases slot <;> rfl
  | fileObject dispatchRtns =>
      obtain rfl : next = _ := stepped
      cases slot with
      | driverUnload | addDevice => rfl
      | major index =>
          simp only [ofPair, WduDriver.fileObject, Event.passes,
            WduDriver.handlerOf_major]
          split_ifs <;> rfl
  | io dispatchRtns =>
      obtain rfl : next = _ := stepped
      cases slot with
      | driverUnload | addDevice => rfl
      | major index =>
          by_cases read : index = irpMjRead
          · subst read
            rfl
          by_cases write : index = irpMjWrite
          · subst write
            rfl
          by_cases control : index = irpMjDeviceControl
          · subst control
            rfl
          -- `io` passes nothing for the other codes, and sets only `io`
          have nothing :
              (Event.io dispatchRtns).passes (.major index) = none := by
            simp [Event.passes, read, write, control]
          rw [nothing, WduDriver.handlerOf_major, WduDriver.handlerOf_major]
          simp only [if_neg read, if_neg write, if_neg control]
          rfl
  | build status =>
      have kept : (Event.build status).passes slot = none := by
        cases slot <;> rfl
      rw [kept, Option.getD_none]
      rcases stepped with
        ⟨_, driver, _⟩ | ⟨_, driver, _⟩ | ⟨_, driver, _⟩
      · rw [driver]
      · rw [driver]
      · rw [driver, WduDriver.handlerOf_init]

theorem step_slot
    {entry next : DriverEntry} {event : Event}
    (stepped : step entry event = some next) (slot : DriverSlot) :
    next.object.slot slot =
      if entry.Installs event slot then some slot.trampoline
      else entry.object.slot slot := by
  replace stepped := step_effect stepped
  cases event with
  | deviceAdd pfn =>
      obtain rfl : next = _ := stepped
      cases extended : entry.object.driverExtension <;> cases slot <;>
        simp [ofPair, WduDriver.deviceAdd, DriverObject.slot, Installs,
          Event.passes, DriverSlot.trampoline, extended]
  | unload pfn =>
      obtain rfl : next = _ := stepped
      cases slot <;>
        simp [ofPair, WduDriver.setUnload, DriverObject.slot, Installs,
          Event.passes, DriverSlot.trampoline]
  | fileObject dispatchRtns | io dispatchRtns =>
      obtain rfl : next = _ := stepped
      simp only [ofPair, WduDriver.fileObject, WduDriver.setIo]
      rw [DriverObject.installAll_eq]
      cases slot with
      | driverUnload | addDevice =>
          simp [Installs, Event.passes, DriverObject.slot]
      | major index =>
          simp only [installs_major, isSome_passes_fileObject,
            isSome_passes_io]
          exact DriverObject.majorFunction_installAll entry.object _ index
  | build status =>
      have kept : ¬entry.Installs (.build status) slot := by
        cases slot <;> simp [Installs, Event.passes]
      rw [if_neg kept]
      rcases stepped with
        ⟨_, _, object⟩ | ⟨_, _, _, object⟩ | ⟨_, _, object⟩
      · rw [object]
      · rw [object]
        cases slot <;> rfl
      · rw [object]
        cases slot <;> rfl

theorem step_driverExtension
    {entry next : DriverEntry} {event : Event}
    (stepped : step entry event = some next) :
    next.object.driverExtension = entry.object.driverExtension := by
  replace stepped := step_effect stepped
  cases event with
  | deviceAdd pfn =>
      obtain rfl : next = _ := stepped
      simp only [ofPair, WduDriver.deviceAdd]
      split <;> rfl
  | unload pfn =>
      obtain rfl : next = _ := stepped
      rfl
  | fileObject | io =>
      obtain rfl : next = _ := stepped
      simp only [ofPair, WduDriver.fileObject, WduDriver.setIo]
      rw [DriverObject.installAll_eq]
  | build status =>
      rcases stepped with
        ⟨_, _, object⟩ | ⟨_, _, _, object⟩ | ⟨_, _, object⟩ <;>
        rw [object]

/-- Either the call was the successful `build`, or the value and the copy stay
as initialised as they are. -/
theorem step_copy
    {entry next : DriverEntry} {event : Event}
    (stepped : step entry event = some next) :
    (entry.driver.init = false ∧
        next.object.wduExtension = some next.driver) ∨
      (next.driver.init = entry.driver.init ∧
        (entry.driver.init = true →
          next.object.wduExtension = entry.object.wduExtension)) := by
  replace stepped := step_effect stepped
  cases event with
  | deviceAdd pfn =>
      obtain rfl : next = _ := stepped
      right
      simp only [ofPair, WduDriver.deviceAdd, true_and]
      split <;> simp
  | unload pfn =>
      obtain rfl : next = _ := stepped
      exact .inr ⟨rfl, fun _ => rfl⟩
  | fileObject | io =>
      obtain rfl : next = _ := stepped
      simp only [ofPair, WduDriver.fileObject, WduDriver.setIo]
      rw [DriverObject.installAll_eq]
      exact .inr ⟨trivial, fun _ => rfl⟩
  | build status =>
      rcases stepped with
        ⟨init, driver, object⟩ | ⟨init, driver, _, object⟩ |
          ⟨init, driver, object⟩
      · exact .inr ⟨by rw [driver], fun _ => by rw [object]⟩
      · exact .inr ⟨by rw [driver], fun built => by simp [init] at built⟩
      · exact .inl ⟨init, by rw [object, driver]⟩

/-! ## The invariant -/

/-- Once a `build` has succeeded, the copy has the handler of every slot that
points to a trampoline. -/
def InStep (entry : DriverEntry) : Prop :=
  entry.driver.init = true →
    ∃ copy,
      entry.object.wduExtension = some copy ∧
        ∀ slot, (entry.object.slot slot).isSome →
          copy.handlerOf slot = entry.driver.handlerOf slot

/-- After a `build` that succeeded, a call passes for the slots that it writes
what the copy has already. -/
def KeepsCopy (entry : DriverEntry) (event : Event) : Prop :=
  entry.driver.init = true →
    ∀ slot handler,
      event.passes slot = some handler →
        (slot = .addDevice → entry.object.driverExtension = true) →
        ∀ copy, entry.object.wduExtension = some copy →
          copy.handlerOf slot = handler

structure Consistent (entry : DriverEntry) : Prop where
  inStep : entry.InStep
  noAddDevice :
    entry.object.driverExtension = false →
      entry.object.slot .addDevice = none

theorem consistent_start (driverExtension : Bool) :
    (start driverExtension).Consistent := by
  constructor
  · intro built
    cases built
  · intro _
    rfl

theorem consistent_step
    (entry : DriverEntry) (event : Event) (next : DriverEntry)
    (consistent : entry.Consistent) (keeps : entry.KeepsCopy event)
    (stepped : step entry event = some next) :
    next.Consistent := by
  constructor
  · intro built
    rcases step_copy stepped with ⟨_, copied⟩ | ⟨init, extension⟩
    · exact ⟨next.driver, copied, fun _ _ => rfl⟩
    · rw [init] at built
      obtain ⟨copy, held, equal⟩ := consistent.inStep built
      refine ⟨copy, (extension built).trans held, fun slot installed => ?_⟩
      rw [step_handlerOf stepped slot]
      rw [step_slot stepped slot] at installed
      cases passed : event.passes slot with
      | some handler =>
          -- The call is about this slot, so the guard speaks about it unless
          -- there is no place to install it.
          apply keeps built slot handler passed
          · rintro rfl
            by_contra missing
            have absent :=
              consistent.noAddDevice (Bool.eq_false_iff.mpr missing)
            simp [Installs, missing, absent] at installed
          · exact held
      | none =>
          have other : ¬entry.Installs event slot := by
            simp [Installs, passed]
          rw [if_neg other] at installed
          exact equal slot installed
  · intro missing
    rw [step_driverExtension stepped] at missing
    have other : ¬entry.Installs event .addDevice := by
      simp [Installs, missing]
    rw [step_slot stepped, if_neg other]
    exact consistent.noAddDevice missing

theorem keepsCopy_of_inStep
    (entry : DriverEntry) (event : Event) (next : DriverEntry)
    (stepped : step entry event = some next) (inStep : next.InStep) :
    entry.KeepsCopy event := by
  intro built slot handler passed reachable copy held
  rcases step_copy stepped with ⟨fresh, _⟩ | ⟨init, extension⟩
  · rw [built] at fresh
    cases fresh
  · obtain ⟨other, found, equal⟩ := inStep (init.trans built)
    rw [extension built, held] at found
    cases found
    have installs : entry.Installs event slot := by
      simp only [Installs, passed, Option.isSome_some, true_and]
      exact reachable
    have installed : (next.object.slot slot).isSome := by
      rw [step_slot stepped slot, if_pos installs]
      rfl
    rw [equal slot installed, step_handlerOf stepped slot, passed]
    rfl

/-! ## Runs -/

theorem handlerOf_run
    {entry last : DriverEntry} {events : List Event}
    (reached : run step entry events = some last) :
    last.driver.handlerOf =
      events.foldl
        (fun passed event slot => (event.passes slot).getD (passed slot))
        entry.driver.handlerOf := by
  induction events generalizing entry with
  | nil =>
      cases reached
      rfl
  | cons event rest inductionHypothesis =>
      obtain ⟨next, stepped, later⟩ := exists_of_run_cons reached
      rw [inductionHypothesis later, List.foldl_cons]
      congr 1
      funext slot
      exact step_handlerOf stepped slot

theorem handlerOf_mostRecent
    {driverExtension : Bool} {entry : DriverEntry} {events : List Event}
    (reached : run step (start driverExtension) events = some entry) :
    entry.driver.handlerOf = mostRecent events := by
  rw [handlerOf_run reached, mostRecent]
  congr 1
  funext slot
  cases slot with
  | major index =>
      simp [start, WduDriver.new, WduDriver.handlerOf_major]
  | driverUnload | addDevice => rfl

/-- The copy follows the slots along exactly the runs whose calls after a
successful `build` pass nothing new. The value of the builder holds what was
passed last, and a further `build` is refused and changes nothing. -/
theorem copy_in_step_iff
    (driverExtension : Bool) (events : List Event) :
    (Always step InStep (start driverExtension) events ↔
        Guarded step KeepsCopy (start driverExtension) events) ∧
      ∀ entry, run step (start driverExtension) events = some entry →
        entry.driver.handlerOf = mostRecent events ∧
          (entry.driver.init = true →
            ∀ status,
              entry.driver.build status entry.object =
                (.error .alreadyInit, entry.object)) := by
  constructor
  · exact
      always_iff_guarded
        (fun _ consistent => consistent.inStep)
        consistent_step
        (fun entry event next _ => keepsCopy_of_inStep entry event next)
        (consistent_start driverExtension)
  · intro entry reached
    refine ⟨handlerOf_mostRecent reached, fun built status => ?_⟩
    simp [WduDriver.build, built]

/-- The read handler is passed after `build`: its slot is installed and the
copy has no handler for it. -/
theorem late_io_out_of_step :
    ∃ entry,
      run step (start true)
          [.build statusSuccess, .io { read := some 1 }] = some entry ∧
        entry.driver.init = true ∧
        ¬entry.InStep := by
  refine ⟨_, rfl, rfl, ?_⟩
  intro inStep
  obtain ⟨copy, held, equal⟩ := inStep rfl
  cases held
  have read := equal (.major irpMjRead) rfl
  cases read

end DriverEntry

end WinDrvUtils

import WinDrvUtils.Samples.ObCallback

/-!
# What obcallback leaves behind

One life of the driver, from its entry to the end of `driver_unload`. It takes
three things from the kernel besides its driver object: the device with its
link, the process notify routine, and the handle of the object callback. The
static that holds the handle is never dropped, so `driver_unload` has to give
all of them back, and it looks at `callback_installed` for the handle.
-/

namespace WinDrvUtils

open StepSystem Lifecycle

namespace ObCallbackDriver

def Phase.isLoaded : Phase → Bool
  | .loaded _ => true
  | _ => false

/-- Nothing was given back that the driver did not have, the handle that is
live is the one in the wrapper, and a driver that is not loaded has neither a
device nor a link, a notify routine or a handle. -/
structure Tidy (system : System) : Prop where
  clean : system.devices.devices.stray = []
  reached : system.devices.astray = []
  calm : system.panicked = none
  handles :
    system.ob.handles.TrackedBy (slotOf system.protect.callback.handle)
      (!system.phase.isLoaded)
  left :
    system.phase.isLoaded = false →
      system.devices.devices.live = [] ∧ system.devices.links = [] ∧
        system.notify.kernel = []

/-- A device is reported plainly and gets its link or its notify routine, a
registration is taken only while the wrapper has no handle, and the driver is
unloaded when it knows what the kernel has: a handle only with the mark that
it is installed, a notify routine only in its slot and to be removed, and a
link only to be deleted. -/
def InOrder (system : System) : Event → Prop
  | .load _ answers =>
      answers.driver = statusSuccess →
        PlainStatus answers.device.status ∧
          (answers.device.status = statusSuccess →
            answers.link = statusSuccess ∨ answers.notify = statusSuccess)
  | .deviceControl ioctl inputSize answers =>
      Attempts system ioctl inputSize answers →
        Accepted answers.register →
          system.protect.callback.handle = nullPtr
  | .protectMatch _ _ _ | .rejectMatch _ _ _ => True
  | .unload answers =>
      (system.protect.callback.handle ≠ nullPtr →
          system.protect.callbackInstalled = true) ∧
        (system.notify.kernel ≠ [] →
          system.notify.callback ≠ none ∧ ntSuccess answers.notify) ∧
        Unlinks system.devices win32Name answers.link

/-- The slot of the notify routine and the kernel: the kernel has at most the
one routine, and the one in the slot. -/
structure Routine
    (notify : Notify.NotifyState Notify.PsCallbackVersion Notify.PsRoutine) :
    Prop where
  one : notify.kernel.length ≤ 1
  known :
    ∀ version, notify.callback = some version →
      notify.kernel = [Notify.wduPsCallback.routine version]

structure Invariant (system : System) : Prop where
  calm : system.panicked = none
  pushed : ∃ count, Pushed system.protect.callback count
  devices : OneDevice 0 win32Name system.devices
  handles :
    system.ob.handles.HeldBy
      (slotOf system.protect.callback.handle).toList
  installed :
    system.protect.callbackInstalled = true →
      system.protect.callback.handle ≠ nullPtr
  loaded :
    ∀ object, system.phase = .loaded object →
      Unloads object ∧ Routine system.notify
  entered :
    system.phase = .entry → system.notify.callback = none
  left :
    system.phase.isLoaded = false →
      NoDevice system.devices ∧
        system.protect.callback.handle = nullPtr ∧
        system.notify.kernel = []

theorem Invariant.tidy
    {system : System} (invariant : Invariant system) :
    Tidy system := by
  have sound := invariant.devices.sound
  refine
    ⟨sound.clean, sound.reached, invariant.calm, ?_, fun unloaded => ?_⟩
  · refine Ledger.TrackedBy.of_heldBy invariant.handles ?_ fun gone => ?_
    · intro token member
      simpa using member
    · have unloaded : system.phase.isLoaded = false := by simpa using gone
      simp [(invariant.left unloaded).2.1]
  · obtain ⟨none, _, notify⟩ := invariant.left unloaded
    exact ⟨none.live, none.links, notify⟩

theorem noDevice_oneDevice
    {kernel : DeviceKernel} (none : NoDevice kernel) :
    OneDevice 0 win32Name kernel := by
  refine ⟨none.sound, .inl none.live, fun entry member => ?_⟩
  rw [none.links] at member
  cases member

theorem invariant_start : Invariant System.start where
  calm := rfl
  pushed := ⟨0, rfl, rfl⟩
  devices := noDevice_oneDevice ⟨Device.sound_new, rfl, rfl⟩
  handles := Ledger.heldBy_empty
  installed installed := nomatch installed
  loaded _ loaded := nomatch loaded
  entered _ := rfl
  left _ := ⟨⟨Device.sound_new, rfl, rfl⟩, rfl, rfl⟩

/-! ## The notify routine -/

section Routine

variable {notify :
  Notify.NotifyState Notify.PsCallbackVersion Notify.PsRoutine}

/-- `register` on a wrapper that has nothing. -/
theorem register_routine
    (empty : notify.kernel = []) (free : notify.callback = none)
    (version : Notify.PsCallbackVersion) (status : NTSTATUS) :
    let returned := Notify.WduPsCallback.register version status notify
    Routine returned.2 ∧
      ((status = statusSuccess ∧ returned.1 = .ok ()) ∨
        (status ≠ statusSuccess ∧ ∃ error, returned.1 = .error error)) := by
  have lawful :
      Notify.WduPsCallback.register version status notify =
        Notify.registerNotify
          (Notify.kernelSet (Notify.wduPsCallback.routine version) status)
          version status notify := by
    cases version <;> rfl
  rw [lawful]
  rcases Notify.registerNotify_cases
      (Notify.wduPsCallback.routine version) version status notify with
    ⟨refused, same⟩ | ⟨plain, same⟩ | ⟨unplain, same⟩
  · rw [same]
    refine
      ⟨⟨by simp [empty], fun other set => ?_⟩,
        .inr ⟨ne_statusSuccess_of_refused refused, _, rfl⟩⟩
    rw [free] at set
    cases set
  · rw [same]
    refine ⟨⟨by simp [empty], fun other set => ?_⟩, .inl ⟨plain, rfl⟩⟩
    cases set
    simp [empty]
  · rw [same]
    refine
      ⟨⟨by simp [empty], fun other set => ?_⟩,
        .inr ⟨fun plain => unplain fun _ => plain, _, rfl⟩⟩
    rw [free] at set
    cases set

/-- `unregister` removes the routine exactly when it is in the slot and the
kernel complies. -/
theorem unregister_routine_iff
    (routine : Routine notify) (status : NTSTATUS) :
    (Notify.WduPsCallback.unregister status notify).2.kernel = [] ↔
      (notify.kernel ≠ [] →
        notify.callback ≠ none ∧ ntSuccess status) := by
  cases held : notify.callback with
  | none =>
      have same :
          (Notify.WduPsCallback.unregister status notify).2 = notify := by
        simp [Notify.WduPsCallback.unregister, Notify.unregisterNotify,
          held]
      rw [same]
      simp
  | some version =>
      have kernel := routine.known version held
      have removed :
          (Notify.WduPsCallback.unregister status notify).2.kernel =
            Notify.controlCallbacks version true status notify.kernel := by
        unfold Notify.WduPsCallback.unregister Notify.unregisterNotify
        rw [held]
        dsimp only
        split <;> rfl
      rw [removed, kernel]
      by_cases accepted : ntSuccess status
      · cases version <;>
          simp [Notify.controlCallbacks, Notify.psSetProcessRoutine,
            Notify.kernelRemove, Notify.wduPsCallback, accepted]
      · cases version <;>
          simp [Notify.controlCallbacks, Notify.psSetProcessRoutine,
            Notify.kernelRemove, accepted]

end Routine

/-! ## Loading -/

theorem unloads_built (driverExtension : Bool) :
    Unloads (buildDriver driverExtension statusSuccess).2 :=
  ⟨rfl, driverUnloadPfn, rfl⟩

theorem buildDriver_of_failure
    {status : NTSTATUS} (failure : status ≠ statusSuccess)
    (driverExtension : Bool) :
    ∃ object,
      buildDriver driverExtension status =
        (.error .driverExtAllocFailed, object) :=
  ⟨_, if_pos failure⟩

/-- A loaded driver has all of its invariant if it has the part that loading
is about. -/
theorem invariant_loaded
    {system next : System} {driverExtension : Bool}
    (invariant : Invariant system)
    (phase :
      next.phase =
        .loaded (buildDriver driverExtension statusSuccess).2)
    (ob : next.ob = system.ob) (protect : next.protect = system.protect)
    (calm : next.panicked = system.panicked)
    (devices : OneDevice 0 win32Name next.devices)
    (routine : Routine next.notify) :
    Invariant next where
  calm := calm.trans invariant.calm
  pushed := by
    rw [protect]
    exact invariant.pushed
  devices := devices
  handles := by
    rw [ob, protect]
    exact invariant.handles
  installed := by
    rw [protect]
    exact invariant.installed
  loaded object same := by
    rw [phase] at same
    cases same
    exact ⟨unloads_built driverExtension, routine⟩
  entered same := by
    rw [phase] at same
    cases same
  left unloaded := by
    rw [phase] at unloaded
    cases unloaded

/-- The driver is gone before it was loaded, with nothing in its hands. -/
theorem invariant_refused
    {system : System} (invariant : Invariant system)
    (entered : system.phase = .entry) :
    Invariant { system with phase := .gone } where
  calm := invariant.calm
  pushed := invariant.pushed
  devices := invariant.devices
  handles := invariant.handles
  installed := invariant.installed
  loaded _ same := nomatch same
  entered same := nomatch same
  left _ := invariant.left (by rw [entered]; rfl)

theorem registerNotify_eq
    {system : System} (empty : system.notify.kernel = [])
    (free : system.notify.callback = none) (answers : LoadAnswers)
    (device : WduDevice) :
    ∃ notify,
      Routine notify ∧
        ((answers.notify = statusSuccess ∧
            registerNotify answers device system =
              { system with notify := notify }) ∨
          (answers.notify ≠ statusSuccess ∧
            registerNotify answers device system =
              { system with
                notify := notify
                devices :=
                  device.delete
                    (system.devices.ioDeleteSymbolicLink win32Name
                      answers.unlink) })) := by
  have registered :=
    register_routine empty free (.notifyRoutineEx2 processNotifyPfn)
      answers.notify
  cases returned :
      Notify.WduPsCallback.register (.notifyRoutineEx2 processNotifyPfn)
        answers.notify system.notify with
  | mk result notify =>
      rw [returned] at registered
      refine ⟨notify, registered.1, ?_⟩
      unfold registerNotify
      rw [returned, ← WduDevice.deleteSymbolicName_snd]
      rcases registered.2 with ⟨plain, rfl⟩ | ⟨failed, error, rfl⟩
      · exact .inl ⟨plain, rfl⟩
      · exact .inr ⟨failed, rfl⟩

/-- The device that a wrapper reaches is the one that the driver has. -/
theorem deviceObject_of_reaches
    {kernel : DeviceKernel} {device : WduDevice} {size : Nat}
    (kept : OneDevice 0 win32Name kernel)
    (reaches : kernel.Reaches device.device size) :
    device.device = kernel.deviceObject := by
  have member := reaches.1
  rcases kept.one with none | ⟨only, _, live, _⟩
  · rw [none] at member
    cases member
  · rw [DeviceKernel.deviceObject, live]
    rw [live] at member
    exact List.mem_singleton.mp member

theorem stray_of_delete
    {kernel : DeviceKernel} {device : WduDevice}
    (set : device.device ≠ nullPtr)
    (live : kernel.devices.live = []) :
    (device.delete kernel).devices.stray ≠ [] := by
  have absent : device.device ∉ kernel.devices.live := by
    rw [live]
    exact List.not_mem_nil
  rw [WduDevice.delete, if_pos set]
  intro none
  have stray := Ledger.release_stray_of_not_mem absent
  exact List.cons_ne_nil _ _ (stray.symm.trans none)

theorem load_step
    {system : System} {driverExtension : Bool} {answers : LoadAnswers}
    (invariant : Invariant system) (entered : system.phase = .entry)
    (possible : system.devices.CanCreate answers.device)
    {succeeded : Bool} {object : DriverObject} {after : System}
    (ended :
      init driverExtension answers system = (succeeded, object, after)) :
    let next : System :=
      if succeeded then { after with phase := .loaded object }
      else { after with phase := .gone }
    (InOrder system (.load driverExtension answers) ∧ Invariant next) ∨
      (¬ InOrder system (.load driverExtension answers) ∧ ¬ Tidy next) := by
  obtain ⟨none, _, empty⟩ := invariant.left (by rw [entered]; rfl)
  have free := invariant.entered entered
  unfold init at ended
  by_cases driver : answers.driver = statusSuccess
  · rw [driver] at ended
    have created :=
      @createDevice_created system.devices 0 deviceName win32Name
        answers.toInitAnswers none possible (by decide)
    have built :
        buildDriver driverExtension statusSuccess =
          (.ok
            { init := true
              unload := some driverUnloadPfn
              io := { ioctl := some deviceControlPfn }
              fileobj :=
                { create := some createPfn
                  close := some closePfn
                  cleanup := some cleanupPfn } },
            (buildDriver driverExtension statusSuccess).2) :=
      rfl
    rw [built] at ended
    cases outcome :
        createDevice 0 deviceName win32Name answers.toInitAnswers
          system.devices with
    | mk result devices =>
        rw [outcome] at created
        simp only [outcome] at ended
        cases created with
        | refused refused =>
            cases ended
            refine .inl ⟨fun _ => ⟨?_, ?_⟩, ?_⟩
            · exact fun accepted => absurd accepted refused
            · exact fun success =>
                absurd success (ne_statusSuccess_of_refused refused)
            · exact invariant_refused invariant entered
        | unreported unplain live =>
            cases ended
            refine .inr ⟨fun inOrder => unplain (inOrder driver).1, ?_⟩
            intro tidy
            exact live (tidy.left rfl).1
        | @linked device _ success link kept reaches =>
            obtain ⟨notify, routine, outcome⟩ :=
              @registerNotify_eq { system with devices := devices } empty
                free answers device
            cases ended
            refine
              .inl ⟨fun _ => ⟨fun _ => success, fun _ => .inl link⟩, ?_⟩
            rcases outcome with ⟨_, same⟩ | ⟨_, same⟩
            · rw [same]
              exact
                invariant_loaded invariant rfl rfl rfl rfl kept
                  routine
            · rw [same]
              have found := deviceObject_of_reaches kept reaches
              -- The link may stay here, for `driver_unload` to delete.
              exact
                invariant_loaded invariant rfl rfl rfl rfl
                  (delete_unlinked kept found answers.unlink).1 routine
        | @unlinked device _ success link set kept live =>
            obtain ⟨notify, routine, outcome⟩ :=
              @registerNotify_eq { system with devices := devices } empty
                free answers device
            cases ended
            rcases outcome with ⟨plain, same⟩ | ⟨failed, same⟩
            · rw [same]
              exact
                .inl
                  ⟨fun _ => ⟨fun _ => success, fun _ => .inr plain⟩,
                    invariant_loaded invariant rfl rfl rfl rfl kept
                      routine⟩
            · rw [same]
              refine .inr ⟨fun inOrder => ?_, fun tidy => ?_⟩
              · rcases (inOrder driver).2 success with linked | plain
                · exact link linked
                · exact failed plain
              · have unlinked :
                    (devices.ioDeleteSymbolicLink win32Name
                      answers.unlink).devices.live = [] := by
                  rw [DeviceKernel.ioDeleteSymbolicLink_devices, live]
                exact stray_of_delete set unlinked tidy.clean
  · obtain ⟨failed, same⟩ := buildDriver_of_failure driver driverExtension
    rw [same] at ended
    cases ended
    exact
      .inl
        ⟨fun success => absurd success driver,
          invariant_refused invariant entered⟩

/-! ## Requests -/

theorem deleteProtectNameCb_eq
    {protect : Protect} (set : protect.callback.handle ≠ nullPtr)
    (kernel : ObKernel) :
    protect.deleteProtectNameCb kernel =
      (.ok (),
        { protect with
          callback := { protect.callback with handle := nullPtr }
          callbackInstalled := false },
        obUnRegisterCallbacks protect.callback.handle kernel) := by
  unfold Protect.deleteProtectNameCb WduObCallback.unregister
  rw [if_neg set]

/-- The handle is given back. -/
theorem heldBy_released
    {system : System} (invariant : Invariant system)
    (set : system.protect.callback.handle ≠ nullPtr) :
    (system.ob.handles.release system.protect.callback.handle).HeldBy [] := by
  have held := invariant.handles
  rw [slotOf_of_ne set] at held
  exact held.release_of_perm (List.Perm.refl _)

/-- A step of a loaded driver that is about the callback alone. -/
theorem invariant_framed
    {system next : System} {object : DriverObject} {count : Nat}
    (invariant : Invariant system) (loaded : system.phase = .loaded object)
    (framed : Framed system next)
    (pushed : Pushed next.protect.callback count)
    (handles :
      next.ob.handles.HeldBy
        (slotOf next.protect.callback.handle).toList)
    (installed :
      next.protect.callbackInstalled = true →
        next.protect.callback.handle ≠ nullPtr) :
    Invariant next where
  calm := framed.panicked.trans invariant.calm
  pushed := ⟨count, pushed⟩
  devices := by
    rw [framed.devices]
    exact invariant.devices
  handles := handles
  installed := installed
  loaded other same := by
    rw [framed.phase] at same
    rw [framed.notify]
    exact invariant.loaded other same
  entered same := by
    rw [framed.phase, loaded] at same
    cases same
  left unloaded := by
    rw [framed.phase, loaded] at unloaded
    cases unloaded

theorem request_step
    {system next : System} {object : DriverObject} {count : Nat}
    {ioctl : UInt32} {inputSize : Nat} {answers : RequestAnswers}
    (invariant : Invariant system) (loaded : system.phase = .loaded object)
    (pushed : Pushed system.protect.callback count)
    (possible : WduObCallback.possible system.ob answers.register)
    (requested : Requested system ioctl inputSize answers count next) :
    (InOrder system (.deviceControl ioctl inputSize answers) ∧
        Invariant next) ∨
      (¬ InOrder system (.deviceControl ioctl inputSize answers) ∧
        ¬ Tidy next) := by
  cases requested with
  | quiet other => exact .inl ⟨fun attempts => absurd attempts other, invariant⟩
  | released other installed =>
      have set := invariant.installed installed
      refine .inl ⟨fun attempts => absurd attempts other, ?_⟩
      rw [deleteProtectNameCb_eq set]
      exact
        @invariant_framed system
          { system with
            protect :=
              { system.protect with
                callback :=
                  { system.protect.callback with handle := nullPtr }
                callbackInstalled := false }
            ob :=
              obUnRegisterCallbacks system.protect.callback.handle
                system.ob }
          object count invariant loaded
          ⟨rfl, rfl, rfl, rfl, rfl, rfl, rfl⟩
          ⟨pushed.address, pushed.operations⟩
          (heldBy_released invariant set) (fun installed => nomatch installed)
  | refused attempts refused framed grown handle ob free name flags =>
      refine .inl ⟨fun _ accepted => absurd accepted refused, ?_⟩
      refine invariant_framed invariant loaded framed grown ?_ ?_
      · rw [ob, handle]
        exact invariant.handles
      · rw [free]
        intro installed
        cases installed
  | registered attempts accepted framed grown handle ob installed name =>
      obtain ⟨known, fresh⟩ := possible accepted.2
      by_cases empty : system.protect.callback.handle = nullPtr
      · refine .inl ⟨fun _ _ => empty, ?_⟩
        refine invariant_framed invariant loaded framed grown ?_ ?_
        · have held := invariant.handles
          rw [empty, slotOf_nullPtr] at held
          rw [ob, handle, slotOf_of_ne known]
          exact held.issue answers.register.handle
        · intro _
          rw [handle]
          exact known
      · refine
          .inr ⟨fun inOrder => empty (inOrder attempts accepted), ?_⟩
        intro tidy
        have tracked := tidy.handles
        rw [ob, handle, slotOf_of_ne known] at tracked
        have none := tracked.live_nil_of_issue fresh
        have live :
            system.protect.callback.handle ∈ system.ob.handles.live := by
          rw [invariant.handles.mem_iff, slotOf_of_ne empty]
          exact List.mem_singleton_self _
        rw [none] at live
        cases live

/-! ## New processes -/

theorem checkProcessMatch_callback
    (toLowercase : String → String) (protect : Protect) (process : Address)
    (pid : Nat) (filename : List UInt16) :
    (protect.checkProcessMatch toLowercase process pid filename).2.callback =
        protect.callback ∧
      (protect.checkProcessMatch toLowercase process pid
        filename).2.callbackInstalled = protect.callbackInstalled := by
  unfold Protect.checkProcessMatch
  split
  · exact ⟨rfl, rfl⟩
  · exact ⟨rfl, rfl⟩

/-- Looking for the name changes neither the callback nor what the driver has
from the kernel. -/
theorem invariant_match
    {system next : System} {object : DriverObject}
    (invariant : Invariant system) (loaded : system.phase = .loaded object)
    (phase : next.phase = system.phase)
    (devices : next.devices = system.devices)
    (notify : next.notify = system.notify)
    (panicked : next.panicked = system.panicked)
    (ob : next.ob = system.ob)
    (protect :
      next.protect.callback = system.protect.callback ∧
        next.protect.callbackInstalled =
          system.protect.callbackInstalled) :
    Invariant next where
  calm := panicked.trans invariant.calm
  pushed := by
    rw [protect.1]
    exact invariant.pushed
  devices := by
    rw [devices]
    exact invariant.devices
  handles := by
    rw [ob, protect.1]
    exact invariant.handles
  installed := by
    rw [protect.1, protect.2]
    exact invariant.installed
  loaded other same := by
    rw [phase] at same
    rw [notify]
    exact invariant.loaded other same
  entered same := by
    rw [phase, loaded] at same
    cases same
  left unloaded := by
    rw [phase, loaded] at unloaded
    cases unloaded

/-! ## Unloading -/

/-- The protection as `driver_unload` leaves it. -/
def leave (system : System) : Protect × ObKernel :=
  if system.protect.callbackInstalled then
    (system.protect.deleteProtectNameCb system.ob).2
  else (system.protect, system.ob)

theorem driverUnload_eq (answers : LeaveAnswers) (system : System) :
    driverUnload answers system =
      { system with
        notify :=
          (Notify.WduPsCallback.unregister answers.notify system.notify).2
        protect := (leave system).1
        ob := (leave system).2
        devices :=
          (WduDriver.device system.devices).delete
            (system.devices.ioDeleteSymbolicLink win32Name
              answers.link) } := by
  rw [← WduDevice.deleteSymbolicName_snd]
  rfl

/-- The handle is given back unless the mark is missing. -/
theorem leave_cases
    {system : System} (invariant : Invariant system) :
    ((system.protect.callback.handle ≠ nullPtr →
          system.protect.callbackInstalled = true) ∧
        (leave system).1.callback.handle = nullPtr ∧
        (leave system).2.handles.HeldBy [] ∧
        (leave system).1.callbackInstalled = false ∧
        (leave system).1.callback.operations =
          system.protect.callback.operations ∧
        (leave system).1.callback.address =
          system.protect.callback.address) ∨
      (¬ (system.protect.callback.handle ≠ nullPtr →
          system.protect.callbackInstalled = true) ∧
        (leave system).2.handles.live ≠ []) := by
  by_cases installed : system.protect.callbackInstalled = true
  · have set := invariant.installed installed
    have same :
        leave system =
          (system.protect.deleteProtectNameCb system.ob).2 :=
      if_pos installed
    rw [same, deleteProtectNameCb_eq set]
    exact
      .inl
        ⟨fun _ => installed, rfl, heldBy_released invariant set, rfl, rfl,
          rfl⟩
  · have same : leave system = (system.protect, system.ob) :=
      if_neg installed
    rw [same]
    have held := invariant.handles
    by_cases empty : system.protect.callback.handle = nullPtr
    · rw [empty, slotOf_nullPtr] at held
      exact
        .inl
          ⟨fun set => absurd empty set, empty, held,
            Bool.eq_false_iff.mpr installed, rfl, rfl⟩
    · refine .inr ⟨fun known => installed (known empty), fun none => ?_⟩
      have live :
          system.protect.callback.handle ∈ system.ob.handles.live := by
        rw [held.mem_iff, slotOf_of_ne empty]
        exact List.mem_singleton_self _
      dsimp only at none
      rw [none] at live
      cases live

theorem unload_step
    {system : System} {object : DriverObject} {answers : LeaveAnswers}
    (invariant : Invariant system)
    (loaded : system.phase = .loaded object) :
    let next : System := { driverUnload answers system with phase := .gone }
    (InOrder system (.unload answers) ∧ Invariant next) ∨
      (¬ InOrder system (.unload answers) ∧ ¬ Tidy next) := by
  intro next
  obtain ⟨count, pushed⟩ := invariant.pushed
  have same : next = { driverUnload answers system with phase := .gone } :=
    rfl
  rw [driverUnload_eq] at same
  have routine := (invariant.loaded object loaded).2
  have removed := unregister_routine_iff routine answers.notify
  have device :=
    @delete_cases system.devices 0 win32Name
      (WduDriver.device system.devices) invariant.devices rfl answers.link
  rw [same]
  rcases leave_cases invariant with
    ⟨known, handle, held, free, operations, address⟩ | ⟨unknown, live⟩
  · by_cases notify :
        system.notify.kernel ≠ [] →
          system.notify.callback ≠ none ∧ ntSuccess answers.notify
    · rcases device with ⟨unlinks, none⟩ | ⟨refused, links⟩
      · refine
          .inl
            ⟨⟨known, notify, unlinks⟩,
              { calm := invariant.calm
                pushed :=
                  ⟨count, address.trans pushed.address,
                    operations.trans pushed.operations⟩
                devices := noDevice_oneDevice none
                handles := ?_
                installed := fun installed => ?_
                loaded := fun _ same => nomatch same
                entered := fun same => nomatch same
                left := fun _ => ⟨none, handle, removed.mpr notify⟩ }⟩
        · show
            (leave system).2.handles.HeldBy
              (slotOf (leave system).1.callback.handle).toList
          rw [handle, slotOf_nullPtr]
          exact held
        · have none : (leave system).1.callbackInstalled = true := installed
          rw [free] at none
          cases none
      · refine .inr ⟨fun inOrder => refused inOrder.2.2, fun tidy => ?_⟩
        exact links (tidy.left rfl).2.1
    · refine .inr ⟨fun inOrder => notify inOrder.2.1, fun tidy => ?_⟩
      exact notify (removed.mp (tidy.left rfl).2.2)
  · refine .inr ⟨fun inOrder => unknown inOrder.1, fun tidy => ?_⟩
    exact live (tidy.handles.settled rfl).1

/-! ## One life of the driver -/

variable {toLowercase : String → String}

/-- One step: in order it keeps the invariant, and out of order it leaves
something untidy. -/
theorem invariant_step
    {system next : System} {event : Event} (invariant : Invariant system)
    (stepped : step toLowercase system event = some next) :
    (InOrder system event ∧ Invariant next) ∨
      (¬ InOrder system event ∧ ¬ Tidy next) := by
  obtain ⟨count, pushed⟩ := invariant.pushed
  cases change_of_step pushed stepped with
  | notLoaded entered possible ended =>
      exact load_step invariant entered possible ended
  | loaded entered possible ended =>
      exact load_step invariant entered possible ended
  | deviceControl loaded possible requested =>
      exact request_step invariant loaded pushed possible requested
  | @protectMatch process pid filename object loaded =>
      refine .inl ⟨trivial, ?_⟩
      unfold protectMatch
      split
      · exact
          invariant_match invariant loaded rfl rfl rfl rfl rfl
            (checkProcessMatch_callback toLowercase system.protect process
              pid filename)
      · exact invariant
  | @rejectMatch process pid filename object loaded =>
      refine .inl ⟨trivial, ?_⟩
      unfold rejectMatch
      split
      · exact
          invariant_match invariant loaded rfl rfl rfl rfl rfl
            (checkProcessMatch_callback toLowercase system.protect process
              pid filename)
      · exact invariant
  | unloaded loaded called => exact unload_step invariant loaded
  | left loaded called =>
      obtain ⟨_, pfn, unloads⟩ := (invariant.loaded _ loaded).1
      rw [unloads] at called
      cases called
  | panicked loaded called =>
      obtain ⟨_, pfn, unloads⟩ := (invariant.loaded _ loaded).1
      rw [unloads] at called
      cases called

/-- For every life of the driver, whatever the kernel refuses: everything is
given back once and nothing is left exactly when a device that is made is
reported plainly and, without its link, has at least the notify routine, no
registration is taken while the wrapper has a handle, and the driver is
unloaded with its mark set for each handle, a notify routine that it knows and
the kernel removes, and a link, if it is there, that the kernel deletes. Such
a link may be there without the device: `init` goes on when the deletions
after a refused notify routine fail. -/
theorem obcallback_tidy_iff
    (toLowercase : String → String) (events : List Event) :
    Always (step toLowercase) Tidy System.start events ↔
      Guarded (step toLowercase) InOrder System.start events := by
  refine
    always_iff_guarded (fun _ invariant => invariant.tidy)
      (fun system event next invariant met stepped => ?_)
      (fun system event next invariant stepped tidy => ?_)
      invariant_start
  · rcases invariant_step invariant stepped with ⟨_, kept⟩ | ⟨unmet, _⟩
    · exact kept
    · exact absurd met unmet
  · rcases invariant_step invariant stepped with ⟨met, _⟩ | ⟨_, untidy⟩
    · exact met
    · exact absurd tidy untidy

end ObCallbackDriver

end WinDrvUtils

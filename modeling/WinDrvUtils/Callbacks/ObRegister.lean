import WinDrvUtils.Callbacks.ObDispatch

/-!
# What `register` leaves behind

The builder of a registration checks nothing. `register` converts every
registration before it calls the kernel, and the conversion of a type that was
never set is `unreachable!`; the number of registrations is cast to 16 bits.
-/

namespace WinDrvUtils

/-! ## The builder -/

namespace WduObOpRegistration

/-- The setter `ob_type`. -/
def setObType (registration : WduObOpRegistration) (obType : ObjectType) :
    WduObOpRegistration :=
  { registration with obType := obType }

/-- The setter `operations`. -/
def setOperations (registration : WduObOpRegistration)
    (operations : UInt32) : WduObOpRegistration :=
  { registration with operations := operations }

/-- The setter `pre`. -/
def setPre (registration : WduObOpRegistration) (pre : CodePtr) :
    WduObOpRegistration :=
  { registration with pre := some pre }

/-- The setter `post`. -/
def setPost (registration : WduObOpRegistration) (post : CodePtr) :
    WduObOpRegistration :=
  { registration with post := some post }

def setContext (registration : WduObOpRegistration) (context : Address) :
    WduObOpRegistration :=
  { registration with context := context }

def build (registration : WduObOpRegistration) : WduObOpRegistration :=
  registration

/-- The values that the builder makes. -/
inductive Built : WduObOpRegistration → Prop where
  | default : Built WduObOpRegistration.default
  | obType {registration : WduObOpRegistration} (obType : ObjectType) :
      Built registration → Built (registration.setObType obType)
  | operations {registration : WduObOpRegistration} (operations : UInt32) :
      Built registration → Built (registration.setOperations operations)
  | pre {registration : WduObOpRegistration} (pre : CodePtr) :
      Built registration → Built (registration.setPre pre)
  | post {registration : WduObOpRegistration} (post : CodePtr) :
      Built registration → Built (registration.setPost post)
  | context {registration : WduObOpRegistration} (context : Address) :
      Built registration → Built (registration.setContext context)

/-- The builder makes every value. -/
theorem built (registration : WduObOpRegistration) : Built registration := by
  obtain ⟨obType, operations, pre, post, context⟩ := registration
  have base :=
    Built.context context (Built.operations operations
      (Built.obType obType Built.default))
  cases pre with
  | none =>
      cases post with
      | none => exact base
      | some post => exact Built.post post base
  | some pre =>
      cases post with
      | none => exact Built.pre pre base
      | some post => exact Built.post post (Built.pre pre base)

theorem exists_intoNative_iff (registration : WduObOpRegistration) :
    (∃ entry, registration.intoNative = .ok entry) ↔
      registration.obType ≠ .unknown := by
  unfold intoNative ObjectType.intoNative
  cases registration.obType <;> simp

end WduObOpRegistration

theorem exists_mapM_intoNative_iff
    (registrations : List WduObOpRegistration) :
    (∃ entries,
        registrations.mapM WduObOpRegistration.intoNative = .ok entries) ↔
      ∀ registration ∈ registrations, registration.obType ≠ .unknown := by
  induction registrations with
  | nil =>
      exact
        iff_of_true ⟨[], rfl⟩ fun _ member => absurd member List.not_mem_nil
  | cons first rest inductionHypothesis =>
      rw [List.forall_mem_cons, ← first.exists_intoNative_iff,
        ← inductionHypothesis, List.mapM_cons]
      cases made : first.intoNative with
      | error panic =>
          apply iff_of_false
          · rintro ⟨entries, native⟩
            cases native
          · rintro ⟨⟨entry, native⟩, _⟩
            cases native
      | ok entry =>
          cases later : rest.mapM WduObOpRegistration.intoNative with
          | error panic =>
              apply iff_of_false
              · rintro ⟨entries, native⟩
                cases native
              · rintro ⟨_, entries, native⟩
                cases native
          | ok entries =>
              exact
                iff_of_true ⟨entry :: entries, rfl⟩
                  ⟨⟨entry, rfl⟩, ⟨entries, rfl⟩⟩

namespace WduObCallback

/-- What `ObRegisterCallbacks` gets, if `register` comes that far. -/
def kernelCall (callback : WduObCallback) (altitude : List UInt16)
    (reserved : Bool) : Except Panic (Option ObCallbackRegistration) :=
  if callback.operations.isEmpty then .ok none
  else if reserved = false then .ok none
  else
    match callback.nativeRegistration altitude with
    | .error panic => .error panic
    | .ok registration => .ok (some registration)

theorem kernelCall_of_empty
    {callback : WduObCallback} (empty : callback.operations = [])
    (altitude : List UInt16) (reserved : Bool) :
    callback.kernelCall altitude reserved = .ok none := by
  simp [kernelCall, empty]

theorem kernelCall_of_unreserved
    (callback : WduObCallback) (altitude : List UInt16) :
    callback.kernelCall altitude false = .ok none := by
  simp [kernelCall]

theorem kernelCall_of_reserved
    {callback : WduObCallback} (some : callback.operations ≠ [])
    (altitude : List UInt16) :
    callback.kernelCall altitude true =
      (callback.nativeRegistration altitude).map Option.some := by
  simp only [kernelCall, List.isEmpty_iff, some, if_false,
    Bool.true_eq_false]
  cases callback.nativeRegistration altitude <;> rfl

/-- What `register` does with the outcome of its conversions. -/
theorem register_eq_kernelCall
    (callback : WduObCallback) (altitude : List UInt16) (answer : ObAnswer)
    (kernel : ObKernel) :
    (∀ panic, callback.kernelCall altitude answer.reserved = .error panic →
        callback.register altitude answer kernel = .error panic) ∧
      (callback.kernelCall altitude answer.reserved = .ok none →
        ∃ error,
          callback.register altitude answer kernel =
            .ok (.error error, callback, kernel)) ∧
      ∀ registration,
        callback.kernelCall altitude answer.reserved =
            .ok (some registration) →
          callback.register altitude answer kernel =
            .ok
              (if answer.status = statusSuccess then .ok ()
                else .error (.registerError answer.status),
                { callback with
                  handle :=
                    (obRegisterCallbacks registration answer callback.handle
                      kernel).1 },
                (obRegisterCallbacks registration answer callback.handle
                  kernel).2) := by
  unfold kernelCall register
  by_cases empty : callback.operations.isEmpty
  · simp [empty]
  · by_cases reserved : answer.reserved = false
    · simp [empty, reserved]
    · cases native : callback.nativeRegistration altitude with
      | error panic => simp [empty, reserved]
      | ok registration =>
          by_cases success : answer.status = statusSuccess
          · simp [empty, reserved, success]
          · simp [empty, reserved, success]

theorem nativeRegistration_ok
    {callback : WduObCallback} {altitude : List UInt16}
    {registration : ObCallbackRegistration}
    (native : callback.nativeRegistration altitude = .ok registration) :
    List.Forall₂ (fun source entry => source.intoNative = .ok entry)
        callback.operations registration.operationRegistration ∧
      registration.operationRegistrationCount =
        UInt16.ofNat callback.operations.length := by
  unfold nativeRegistration at native
  split at native
  · cases native
  · next entries made =>
      cases native
      exact ⟨mapM_ok_forall₂ made, rfl⟩

theorem exists_nativeRegistration_iff
    (callback : WduObCallback) (altitude : List UInt16) :
    (∃ registration, callback.nativeRegistration altitude = .ok registration) ↔
      ∀ registration ∈ callback.operations,
        registration.obType ≠ .unknown := by
  rw [← exists_mapM_intoNative_iff]
  unfold nativeRegistration
  cases callback.operations.mapM WduObOpRegistration.intoNative <;> simp

/-! ## Total and atomic -/

/-- The native registration has one entry for each registration, in their
order, and says how many there are. -/
def Faithful (callback : WduObCallback)
    (registration : ObCallbackRegistration) : Prop :=
  List.Forall₂ (fun source entry => source.intoNative = .ok entry)
      callback.operations registration.operationRegistration ∧
    registration.operationRegistrationCount.toNat =
      callback.operations.length

/-- `register` returns, what it tells the kernel is true, and an error leaves
the wrapper as it was. -/
def RegistersCleanly (callback : WduObCallback) (altitude : List UInt16)
    (answer : ObAnswer) (kernel : ObKernel) : Prop :=
  ∃ result after kernelAfter,
    callback.register altitude answer kernel =
        .ok (result, after, kernelAfter) ∧
      (∀ registration,
        callback.kernelCall altitude answer.reserved =
            .ok (some registration) →
          callback.Faithful registration) ∧
      ∀ error, result = .error error →
        after.handle = callback.handle ∧
          after.operations = callback.operations

/-- All types are set, the number fits in 16 bits, and the kernel does not
accept with a status that `register` takes for a failure, or with the handle
that was there before. -/
def Registrable (callback : WduObCallback) (answer : ObAnswer) : Prop :=
  (∀ registration ∈ callback.operations,
      registration.obType ≠ .unknown) ∧
    callback.operations.length < 0x10000 ∧
    (PlainStatus answer.status ∨ answer.handle = callback.handle)

theorem count_toNat_iff (length : Nat) :
    (UInt16.ofNat length).toNat = length ↔ length < 0x10000 := by
  rw [UInt16.toNat_ofNat']
  constructor
  · intro same
    omega
  · intro small
    exact Nat.mod_eq_of_lt small

/-- A failed call leaves the handle unless the kernel has accepted. -/
theorem handle_kept_iff
    (callback : WduObCallback) (registration : ObCallbackRegistration)
    (answer : ObAnswer) (kernel : ObKernel) :
    (answer.status ≠ statusSuccess →
        (obRegisterCallbacks registration answer callback.handle kernel).1 =
          callback.handle) ↔
      PlainStatus answer.status ∨ answer.handle = callback.handle := by
  unfold PlainStatus obRegisterCallbacks
  by_cases accepted : ntSuccess answer.status
  · simp only [accepted, if_true, true_implies]
    tauto
  · simp [accepted]

theorem registersCleanly_of_unreached
    {callback : WduObCallback} {altitude : List UInt16} {answer : ObAnswer}
    (kernel : ObKernel)
    (called : callback.kernelCall altitude answer.reserved = .ok none) :
    callback.RegistersCleanly altitude answer kernel := by
  obtain ⟨error, returned⟩ :=
    (callback.register_eq_kernelCall altitude answer kernel).2.1 called
  refine ⟨_, callback, kernel, returned, ?_, fun _ _ => ⟨rfl, rfl⟩⟩
  intro registration reached
  rw [called] at reached
  cases reached

/-- A conversion that panics does so before the kernel is called. -/
theorem not_registersCleanly_of_panic
    {callback : WduObCallback} {altitude : List UInt16} {answer : ObAnswer}
    (kernel : ObKernel) {panic : Panic}
    (called :
      callback.kernelCall altitude answer.reserved = .error panic) :
    ¬callback.RegistersCleanly altitude answer kernel := by
  rintro ⟨_, _, _, returned, _⟩
  have effect := callback.register_eq_kernelCall altitude answer kernel
  rw [effect.1 panic called] at returned
  cases returned

/-- A call that reaches the kernel. -/
theorem registersCleanly_iff_of_reached
    {callback : WduObCallback} {altitude : List UInt16} {answer : ObAnswer}
    (kernel : ObKernel) {registration : ObCallbackRegistration}
    (native : callback.nativeRegistration altitude = .ok registration)
    (reached :
      callback.kernelCall altitude answer.reserved =
        .ok (some registration)) :
    callback.RegistersCleanly altitude answer kernel ↔
      callback.Registrable answer := by
  have returned :=
    (callback.register_eq_kernelCall altitude answer kernel).2.2
      registration reached
  obtain ⟨entries, count⟩ := nativeRegistration_ok native
  have handle := callback.handle_kept_iff registration answer kernel
  constructor
  · rintro ⟨_, _, _, same, faithful, atomic⟩
    rw [returned] at same
    cases same
    have known :=
      (callback.exists_nativeRegistration_iff altitude).mp ⟨_, native⟩
    have fits := (faithful registration reached).2
    rw [count, count_toNat_iff] at fits
    refine ⟨known, fits, handle.mp fun failed => ?_⟩
    exact (atomic _ (if_neg failed)).1
  · rintro ⟨_, fits, kept⟩
    refine ⟨_, _, _, returned, ?_, ?_⟩
    · intro other reachedOther
      rw [reached] at reachedOther
      cases reachedOther
      refine ⟨entries, ?_⟩
      rw [count, count_toNat_iff]
      exact fits
    · intro error failed
      have status : answer.status ≠ statusSuccess := by
        intro success
        rw [if_pos success] at failed
        cases failed
      exact ⟨handle.mpr kept status, rfl⟩

/-- Registrations that are to be converted. -/
theorem registersCleanly_iff_of_reserved
    {callback : WduObCallback} (some : callback.operations ≠ [])
    (altitude : List UInt16) {answer : ObAnswer}
    (reserved : answer.reserved = true) (kernel : ObKernel) :
    callback.RegistersCleanly altitude answer kernel ↔
      callback.Registrable answer := by
  have called := kernelCall_of_reserved some altitude
  rw [← reserved] at called
  cases native : callback.nativeRegistration altitude with
  | error panic =>
      rw [native] at called
      apply iff_of_false (not_registersCleanly_of_panic kernel called)
      intro registrable
      obtain ⟨registration, made⟩ :=
        (callback.exists_nativeRegistration_iff altitude).mpr registrable.1
      rw [native] at made
      cases made
  | ok registration =>
      rw [native] at called
      exact registersCleanly_iff_of_reached kernel native called

/-- `register` is total and atomic exactly when it gives up early or the
registrations can be told to the kernel as they are. -/
theorem registersCleanly_iff
    (callback : WduObCallback) (altitude : List UInt16) (answer : ObAnswer)
    (kernel : ObKernel) :
    callback.RegistersCleanly altitude answer kernel ↔
      callback.operations = [] ∨ answer.reserved = false ∨
        callback.Registrable answer := by
  by_cases empty : callback.operations = []
  · have called := kernelCall_of_empty empty altitude answer.reserved
    exact
      iff_of_true (registersCleanly_of_unreached kernel called) (.inl empty)
  · cases reserved : answer.reserved with
    | false =>
        have called := callback.kernelCall_of_unreserved altitude
        rw [← reserved] at called
        exact
          iff_of_true (registersCleanly_of_unreached kernel called)
            (.inr (.inl rfl))
    | true =>
        rw [registersCleanly_iff_of_reserved empty altitude reserved]
        simp [empty]

end WduObCallback

/-- A wrapper with so many copies of one registration. -/
def WduObCallback.copies (registration : WduObOpRegistration)
    (length : Nat) : WduObCallback where
  address := 0x100
  handle := nullPtr
  operations := List.replicate length registration

/-- What is wrong with them before the kernel answers. -/
theorem copies_not_registersCleanly
    {registration : WduObOpRegistration} {length : Nat} (some : length ≠ 0)
    (wrong : registration.obType = .unknown ∨ 0x10000 ≤ length)
    (altitude : List UInt16) {answer : ObAnswer}
    (reserved : answer.reserved = true) (kernel : ObKernel) :
    ¬(WduObCallback.copies registration length).RegistersCleanly altitude
      answer kernel := by
  rw [WduObCallback.registersCleanly_iff]
  rintro (empty | unreserved | ⟨known, fits, _⟩)
  · exact some (by simpa [WduObCallback.copies] using empty)
  · rw [reserved] at unreserved
    cases unreserved
  · rcases wrong with unknown | many
    · have member : registration ∈ List.replicate length registration :=
        List.mem_replicate.mpr ⟨some, rfl⟩
      exact known registration member unknown
    · have count : length < 0x10000 := by
        simpa [WduObCallback.copies] using fits
      omega

/-- A registration whose type was never set, and 65536 registrations, whose
number is zero in 16 bits. -/
theorem untyped_registration_panics :
    ¬(WduObCallback.copies WduObOpRegistration.default 1).RegistersCleanly
        [] ⟨true, statusSuccess, 0x9000⟩ ⟨Ledger.empty, []⟩ ∧
      ¬(WduObCallback.copies
            (WduObOpRegistration.default.setObType .process)
            0x10000).RegistersCleanly
          [] ⟨true, statusSuccess, 0x9000⟩ ⟨Ledger.empty, []⟩ :=
  ⟨copies_not_registersCleanly (by decide) (.inl rfl) _ rfl _,
    copies_not_registersCleanly (by decide) (.inr (by decide)) _ rfl _⟩

end WinDrvUtils

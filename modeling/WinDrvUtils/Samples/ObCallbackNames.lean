import WinDrvUtils.Samples.ObCallbackAccess
import WinDrvUtils.Strings.FoldCase

/-!
# Which processes obcallback finds

The name that a request protects is an array of 201 units, and all of them
become the string that `check_process_match` looks for: what is behind the end
of a shorter name is a part of it. So the string is never found in a file name
that is shorter than the array, and one with a nul is never found in a file
name without one.
-/

namespace WinDrvUtils

open StepSystem Utf16

/-! ## Nul in lower case -/

/-- A table in which nul is its own lower case, and of nothing else. -/
structure NulTable extends LowercaseTable where
  keepsNul : ∀ char, nul ∈ mapping char ↔ char = nul

namespace NulTable

variable (table : NulTable)

theorem nul_mem_lowercaseChar_iff
    (before : List Char) (char : Char) (behind : List Char) :
    nul ∈ table.lowercaseChar before char behind ↔ char = nul := by
  unfold LowercaseTable.lowercaseChar
  by_cases sigma : char = 'Σ'
  · rw [if_pos sigma, sigma]
    refine iff_of_false (fun member => ?_) (by decide)
    split at member
    · exact absurd member (by decide)
    · exact absurd member (by decide)
  · rw [if_neg sigma]
    exact table.keepsNul char

theorem nul_mem_lowercaseFrom_iff (before text : List Char) :
    nul ∈ table.lowercaseFrom before text ↔ nul ∈ text := by
  induction text generalizing before with
  | nil => exact Iff.rfl
  | cons char behind inductionHypothesis =>
      rw [LowercaseTable.lowercaseFrom, List.mem_append,
        table.nul_mem_lowercaseChar_iff, inductionHypothesis, List.mem_cons,
        eq_comm]

end NulTable

theorem lowerLetter_eq_nul_iff (char : Char) :
    WduUnicodeString.lowerLetter char = nul ↔ char = nul := by
  by_cases isAlpha : char = 'Α'
  · rw [isAlpha]
    decide
  · by_cases isSigma : char = 'Σ'
    · rw [isSigma]
      decide
    · have value := WduUnicodeString.toNat_toLower char
      have zero : nul.toNat = 0 := rfl
      rw [WduUnicodeString.lowerLetter_of_ne isAlpha isSigma,
        ← Char.toNat_inj, ← Char.toNat_inj, value, zero]
      split <;> omega

/-- `dottedTable` is one. -/
def dottedNulTable : NulTable where
  toLowercaseTable := WduUnicodeString.dottedTable
  keepsNul := by
    intro char
    by_cases dotted : char = 'İ'
    · rw [dotted]
      decide
    · have own :
          WduUnicodeString.dottedTable.mapping char =
            [WduUnicodeString.lowerLetter char] :=
        if_neg dotted
      rw [own, List.mem_singleton, eq_comm, lowerLetter_eq_nul_iff]

namespace ObCallbackDriver

/-! ## What is found -/

/-- For a needle of whole units, `contains` is the same on the units. -/
theorem contains_eq_containsUnits
    (toLowercase : String → String) (string needle : WduUnicodeString)
    (memory : Memory) (whole : needle.bytes % 2 = 0) :
    string.contains toLowercase needle true memory =
      containsUnits toLowercase (string.asSlice memory)
        (needle.asSlice memory) := by
  have stringHalves := two_mul_half_le string.bytes
  have needleHalves := two_mul_half_of_even whole
  have shortcut :
      string.bytes < needle.bytes ↔
        (string.asSlice memory).length < (needle.asSlice memory).length := by
    rw [WduUnicodeString.length_asSlice, WduUnicodeString.length_asSlice,
      UInt16.lt_iff_toNat_lt, UInt16.toNat_div, UInt16.toNat_div]
    rw [UInt16.toNat_div] at needleHalves
    change _ ↔ string.bytes.toNat / 2 < needle.bytes.toNat / 2
    change 2 * (needle.bytes.toNat / 2) = _ at needleHalves
    omega
  unfold WduUnicodeString.contains containsUnits
  by_cases shorter : string.bytes < needle.bytes
  · rw [if_pos shorter, if_pos (shortcut.mp shorter)]
  · rw [if_neg shorter, if_neg (fun less => shorter (shortcut.mpr less))]
    rfl

theorem length_le_of_containsUnits
    {toLowercase : String → String} {units needle : List UInt16}
    (found : containsUnits toLowercase units needle = true) :
    needle.length ≤ units.length := by
  unfold containsUnits at found
  split at found
  · cases found
  · omega

/-- Whatever the lower case, a string is found in itself. -/
theorem containsUnits_self
    (toLowercase : String → String) (units : List UInt16) :
    containsUnits toLowercase units units = true := by
  unfold containsUnits
  rw [if_neg (Nat.lt_irrefl _)]
  exact (strContains_iff _ _).mpr List.infix_rfl

theorem zero_mem_of_containsUnits
    (table : NulTable) {units needle : List UInt16}
    (found : containsUnits table.toLowercase units needle = true)
    (zero : 0 ∈ needle) :
    0 ∈ units := by
  unfold containsUnits at found
  split at found
  · cases found
  · have occurs := (strContains_iff _ _).mp found
    unfold LowercaseTable.toLowercase at occurs
    simp only [String.toList_ofList] at occurs
    rw [← nul_mem_decode_iff, ← table.nul_mem_lowercaseFrom_iff []] at zero ⊢
    exact occurs.subset zero

theorem checkProcessMatch_of_found
    {toLowercase : String → String} {protect : Protect} {process : Address}
    {pid : Nat} {filename : List UInt16}
    (found :
      containsUnits toLowercase filename protect.protectData.name = true) :
    protect.checkProcessMatch toLowercase process pid filename =
      (statusSuccess,
        { protect with
          protectData :=
            { protect.protectData with
              targetProcess := some process
              targetProcessId := some pid } }) := by
  unfold Protect.checkProcessMatch
  rw [found]
  exact if_neg (by decide)

/-! ## Over a life of the driver -/

/-- While a flag is set, the name is the whole array of a request. -/
def Named (system : System) : Prop :=
  system.protectNameFlag = true ∨ system.rejectNameFlag = true →
    system.protect.protectData.name.length = nameSize + 1

/-- Neither the target nor the refusals change. -/
structure Untouched (system next : System) : Prop where
  process :
    next.protect.protectData.targetProcess =
      system.protect.protectData.targetProcess
  processId :
    next.protect.protectData.targetProcessId =
      system.protect.protectData.targetProcessId
  denied : next.denied = system.denied

/-- A new process is found by its file name: it becomes the target, and is
refused if that was asked for. -/
inductive Found (system : System) (process : Address) (pid : Nat) :
    Event → System → Prop
  | toProtect {filename} {next : System}
      (denied : next.denied = system.denied) :
      Found system process pid (.protectMatch process pid filename) next
  | toReject {filename} {next : System}
      (denied : next.denied = pid :: system.denied) :
      Found system process pid (.rejectMatch process pid filename) next

/-- The target and the refusals change only when a process is found, and then
its file name has more units than the name of a request may have, and a nul if
the name has one. -/
def FoundOrUntouched (system : System) (event : Event)
    (next : System) : Prop :=
  Untouched system next ∨
    ∃ process pid filename,
      (event = .protectMatch process pid filename ∨
          event = .rejectMatch process pid filename) ∧
        Found system process pid event next ∧
        next.protect.protectData.targetProcess = some process ∧
        next.protect.protectData.targetProcessId = some pid ∧
        nameSize < filename.length ∧
        (0 ∈ system.protect.protectData.name → 0 ∈ filename)

/-- Neither the flags nor the name changes. -/
structure Unnamed (system next : System) : Prop where
  protects : next.protectNameFlag = system.protectNameFlag
  rejects : next.rejectNameFlag = system.rejectNameFlag
  name :
    next.protect.protectData.name = system.protect.protectData.name

theorem Named.of_unnamed
    {system next : System} (named : Named system)
    (unnamed : Unnamed system next) :
    Named next := by
  intro flags
  rw [unnamed.name]
  rw [unnamed.protects, unnamed.rejects] at flags
  exact named flags

theorem deleteProtectNameCb_data (protect : Protect) (kernel : ObKernel) :
    (protect.deleteProtectNameCb kernel).2.1.protectData =
      protect.protectData := by
  unfold Protect.deleteProtectNameCb
  split <;> rfl

/-- A step that is about the device, the notify routine or the callback. -/
theorem aside_of_data
    {system next : System}
    (data : next.protect.protectData = system.protect.protectData)
    (protects : next.protectNameFlag = system.protectNameFlag)
    (rejects : next.rejectNameFlag = system.rejectNameFlag)
    (denied : next.denied = system.denied) :
    Unnamed system next ∧ Untouched system next :=
  ⟨⟨protects, rejects, by rw [data]⟩, ⟨by rw [data], by rw [data], denied⟩⟩

theorem aside_init
    (driverExtension : Bool) (answers : LoadAnswers) (system : System) :
    Unnamed system (init driverExtension answers system).2.2 ∧
      Untouched system (init driverExtension answers system).2.2 := by
  unfold init
  split
  · exact aside_of_data rfl rfl rfl rfl
  · split
    · exact aside_of_data rfl rfl rfl rfl
    · dsimp only
      unfold registerNotify
      split
      · exact aside_of_data rfl rfl rfl rfl
      · exact aside_of_data rfl rfl rfl rfl

theorem aside_driverUnload (answers : LeaveAnswers) (system : System) :
    Unnamed system (driverUnload answers system) ∧
      Untouched system (driverUnload answers system) := by
  rw [driverUnload_eq]
  unfold leave
  split
  · have data := deleteProtectNameCb_data system.protect system.ob
    exact aside_of_data data rfl rfl rfl
  · exact aside_of_data rfl rfl rfl rfl

/-- A request that sets the name sets all of it. -/
theorem named_request
    {system next : System} {ioctl : UInt32} {inputSize : Nat}
    {answers : RequestAnswers} {count : Nat} (named : Named system)
    (requested : Requested system ioctl inputSize answers count next) :
    Named next ∧ Untouched system next := by
  have whole :
      (∃ input ∈ answers.input,
          next.protect.protectData.name = input.name) →
        Named next := by
    rintro ⟨input, _, same⟩ _
    rw [same]
    exact input.sized
  cases requested with
  | quiet other => exact ⟨named, rfl, rfl, rfl⟩
  | released other installed =>
      have data := deleteProtectNameCb_data system.protect system.ob
      have aside :=
        @aside_of_data system
          { system with
            protect := (system.protect.deleteProtectNameCb system.ob).2.1
            ob := (system.protect.deleteProtectNameCb system.ob).2.2 }
          data rfl rfl rfl
      exact ⟨named.of_unnamed aside.1, aside.2⟩
  | refused attempts refused framed grown handle ob free name flags =>
      exact ⟨whole name, framed.target.1, framed.target.2, framed.denied⟩
  | registered attempts accepted framed grown handle ob installed name =>
      exact ⟨whole name, framed.target.1, framed.target.2, framed.denied⟩

/-! ## The wrapper -/

theorem pushed_of_settled
    {system next : System}
    (pushed : ∃ count, Pushed system.protect.callback count)
    (settled : Settled system next) :
    ∃ count, Pushed next.protect.callback count := by
  obtain ⟨count, address, operations⟩ := pushed
  exact
    ⟨count, settled.address.trans address,
      settled.operations.trans operations⟩

theorem pushed_request
    {system next : System} {ioctl : UInt32} {inputSize : Nat}
    {answers : RequestAnswers} {count : Nat}
    (pushed : Pushed system.protect.callback count)
    (requested : Requested system ioctl inputSize answers count next) :
    ∃ count, Pushed next.protect.callback count := by
  cases requested with
  | quiet other => exact ⟨count, pushed⟩
  | released other installed =>
      obtain ⟨address, operations, _⟩ :=
        settled_deleteProtectNameCb system.protect system.ob
      exact
        ⟨count, address.trans pushed.address,
          operations.trans pushed.operations⟩
  | refused attempts refused framed grown handle ob free name flags =>
      exact ⟨count + 1, grown⟩
  | registered attempts accepted framed grown handle ob installed name =>
      exact ⟨count + 1, grown⟩

/-! ## New processes -/

section Match

variable (table : NulTable) {process : Address} {pid : Nat}
  {filename : List UInt16} {system : System}

theorem checkProcessMatch_of_missed
    {toLowercase : String → String} {protect : Protect}
    (missed :
      ¬ containsUnits toLowercase filename protect.protectData.name =
          true) :
    protect.checkProcessMatch toLowercase process pid filename =
      (statusNotFound, protect) := by
  unfold Protect.checkProcessMatch
  exact if_pos (Bool.eq_false_iff.mpr missed)

/-- What is found has the length of the array, and its nul. -/
theorem found_ordinary
    (named : Named system)
    (flags :
      system.protectNameFlag = true ∨ system.rejectNameFlag = true)
    (found :
      containsUnits table.toLowercase filename
          system.protect.protectData.name =
        true) :
    nameSize < filename.length ∧
      (0 ∈ system.protect.protectData.name → 0 ∈ filename) := by
  have length := length_le_of_containsUnits found
  rw [named flags] at length
  exact ⟨length, zero_mem_of_containsUnits table found⟩

theorem protectMatch_found (named : Named system) :
    let next :=
      protectMatch table.toLowercase process pid filename system
    Named next ∧
      FoundOrUntouched system (.protectMatch process pid filename) next := by
  unfold protectMatch
  by_cases watched : system.protectNameFlag = true ∧ filename ≠ []
  · rw [if_pos watched]
    by_cases found :
        containsUnits table.toLowercase filename
            system.protect.protectData.name =
          true
    · rw [checkProcessMatch_of_found found]
      have ordinary := found_ordinary table named (.inl watched.1) found
      exact
        ⟨named,
          .inr
            ⟨process, pid, filename, .inl rfl, .toProtect rfl, rfl, rfl,
              ordinary⟩⟩
    · rw [checkProcessMatch_of_missed found]
      exact ⟨named, .inl ⟨rfl, rfl, rfl⟩⟩
  · rw [if_neg watched]
    exact ⟨named, .inl ⟨rfl, rfl, rfl⟩⟩

theorem rejectMatch_found (named : Named system) :
    let next := rejectMatch table.toLowercase process pid filename system
    Named next ∧
      FoundOrUntouched system (.rejectMatch process pid filename) next := by
  unfold rejectMatch
  by_cases watched : system.rejectNameFlag = true ∧ filename ≠ []
  · rw [if_pos watched]
    by_cases found :
        containsUnits table.toLowercase filename
            system.protect.protectData.name =
          true
    · rw [checkProcessMatch_of_found found]
      have ordinary := found_ordinary table named (.inr watched.1) found
      exact
        ⟨named,
          .inr
            ⟨process, pid, filename, .inr rfl, .toReject rfl, rfl, rfl,
              ordinary⟩⟩
    · rw [checkProcessMatch_of_missed found]
      exact ⟨named, .inl ⟨rfl, rfl, rfl⟩⟩
  · rw [if_neg watched]
    exact ⟨named, .inl ⟨rfl, rfl, rfl⟩⟩

end Match

/-! ## Every event -/

/-- What the flags say of the name, and how the wrapper came about. -/
structure Whole (system : System) : Prop where
  named : Named system
  pushed : ∃ count, Pushed system.protect.callback count

theorem whole_start : Whole System.start where
  named flags := by rcases flags with set | set <;> cases set
  pushed := ⟨0, rfl, rfl⟩

/-- One step keeps the invariant, and changes the target only for a process
that is found. -/
theorem whole_step
    (table : NulTable) {system next : System} {event : Event}
    (whole : Whole system)
    (stepped : step table.toLowercase system event = some next) :
    Whole next ∧ FoundOrUntouched system event next := by
  obtain ⟨count, pushed⟩ := whole.pushed
  have change := change_of_step pushed stepped
  have wrapper : ∃ count, Pushed next.protect.callback count := by
    rcases settled_of_change change with
      ⟨_, _, _, _, requested⟩ | ⟨_, settled⟩
    · exact pushed_request pushed requested
    · exact pushed_of_settled whole.pushed settled
  suffices rest : Named next ∧ FoundOrUntouched system event next from
    ⟨⟨rest.1, wrapper⟩, rest.2⟩
  have aside :
      Unnamed system next ∧ Untouched system next →
        Named next ∧ FoundOrUntouched system event next :=
    fun both => ⟨whole.named.of_unnamed both.1, .inl both.2⟩
  cases change with
  | @notLoaded driverExtension answers _ _ _ _ ended =>
      obtain ⟨unnamed, untouched⟩ :=
        aside_init driverExtension answers system
      rw [ended] at unnamed untouched
      exact
        aside
          ⟨⟨unnamed.protects, unnamed.rejects, unnamed.name⟩,
            untouched.process, untouched.processId, untouched.denied⟩
  | @loaded driverExtension answers _ _ _ _ ended =>
      obtain ⟨unnamed, untouched⟩ :=
        aside_init driverExtension answers system
      rw [ended] at unnamed untouched
      exact
        aside
          ⟨⟨unnamed.protects, unnamed.rejects, unnamed.name⟩,
            untouched.process, untouched.processId, untouched.denied⟩
  | deviceControl _ _ requested =>
      obtain ⟨named, untouched⟩ := named_request whole.named requested
      exact ⟨named, .inl untouched⟩
  | protectMatch _ => exact protectMatch_found table whole.named
  | rejectMatch _ => exact rejectMatch_found table whole.named
  | @unloaded answers _ _ _ _ =>
      obtain ⟨unnamed, untouched⟩ := aside_driverUnload answers system
      exact
        aside
          ⟨⟨unnamed.protects, unnamed.rejects, unnamed.name⟩,
            untouched.process, untouched.processId, untouched.denied⟩
  | left _ _ => exact aside (aside_of_data rfl rfl rfl rfl)
  | panicked _ _ => exact aside (aside_of_data rfl rfl rfl rfl)

/-- For every life of the driver and every order of requests and new
processes: a process becomes the target, or is refused, only by its own file
name, which then has more than the 200 units that the name of a request may
have, and a nul if the name has one. So a name that ends with a nul protects
nothing with an ordinary file name. -/
theorem targets_found
    (table : NulTable) (events : List Event) :
    EveryStep (step table.toLowercase) FoundOrUntouched System.start
      events := by
  refine
    everyStep_of_preserved
      (fun system event next whole stepped => ?_)
      (fun system event next whole stepped => ?_) whole_start events
  · exact (whole_step table whole stepped).1
  · exact (whole_step table whole stepped).2

/-- A name that fills the array of the request. -/
def longName : List UInt16 := List.replicate (nameSize + 1) 0x61

def loadDriver : Event :=
  .load true
    ⟨⟨statusSuccess, ⟨statusSuccess, 0x1000⟩, statusSuccess⟩,
      statusSuccess, statusSuccess⟩

def askForLongName : Event :=
  .deviceControl tdIoctlProtectNameCallback sizeOfProtectNameInput
    ⟨some ⟨protectNameProtect, longName, rfl⟩, true,
      ⟨true, statusSuccess, 0x9000⟩⟩

/-- The driver is asked to protect the long name, and told of a process whose
file name that is. -/
def protectLongName : List Event :=
  [loadDriver, askForLongName, .protectMatch 0x5000 7 longName]

/-- The process is found: its file name is as long as it has to be. -/
theorem longName_found :
    (∃ last,
        run (step dottedNulTable.toLowercase) System.start
            protectLongName =
          some last ∧
        last.protect.protectData.targetProcess = some 0x5000) ∧
      EveryStep (step dottedNulTable.toLowercase) FoundOrUntouched
        System.start protectLongName := by
  refine ⟨?_, targets_found dottedNulTable protectLongName⟩
  obtain ⟨loaded, asked, first, second, ⟨object, phase⟩, calm, notified,
      name, flag⟩ :
      ∃ loaded asked,
        step dottedNulTable.toLowercase System.start loadDriver =
            some loaded ∧
          step dottedNulTable.toLowercase loaded askForLongName =
            some asked ∧
          (∃ object, asked.phase = .loaded object) ∧
          asked.panicked = none ∧ asked.notify.kernel ≠ [] ∧
          asked.protect.protectData.name = longName ∧
          asked.protectNameFlag = true :=
    ⟨_, _, rfl, rfl, ⟨_, rfl⟩, rfl, List.cons_ne_nil _ _, rfl, rfl⟩
  have third :
      step dottedNulTable.toLowercase asked
          (.protectMatch 0x5000 7 longName) =
        some
          (protectMatch dottedNulTable.toLowercase 0x5000 7 longName
            asked) := by
    simp [step, calm, phase, notified]
  have found :
      containsUnits dottedNulTable.toLowercase longName
          asked.protect.protectData.name =
        true := by
    rw [name]
    exact containsUnits_self _ _
  refine
    ⟨protectMatch dottedNulTable.toLowercase 0x5000 7 longName asked, ?_, ?_⟩
  · rw [protectLongName, run_cons_of_step _ first, run_cons_of_step _ second,
      run_cons_of_step _ third, run_nil]
  · rw [protectMatch, if_pos ⟨flag, List.cons_ne_nil _ _⟩,
      checkProcessMatch_of_found found]

end ObCallbackDriver

end WinDrvUtils

import WinDrvUtils.Callbacks.CallbackObject
import WinDrvUtils.Library.StepSystem

/-!
# Notifications of a callback object

`register` gives the kernel the address of its own local `self`, which holds
the address of the object. `cb_internal` takes what it gets for the address of
the object. So it reads `cb` and `ctx` off the words at and above the local,
in a frame that is gone when `register` has returned.

An object and a local have addresses here, and memory is a function from the
addresses of words. Whatever runs in between may write to every word that is
not the object's own.
-/

namespace WinDrvUtils

abbrev WordMemory := Address → Nat

/-- The fields of `WduCallbackObject`, of one word each. -/
inductive CallbackField where
  | object
  | handle
  | ctx
  | cb
  deriving DecidableEq, Repr

/-- Where the compiler puts the fields. -/
structure CallbackLayout where
  offset : CallbackField → Nat
  offset_lt : ∀ field, offset field < 32
  aligned : ∀ field, 8 ∣ offset field
  injective : Function.Injective offset

namespace CallbackLayout

def addressOf (layout : CallbackLayout) (base : Address)
    (field : CallbackField) : Address :=
  base + layout.offset field

/-- The word at `address` belongs to the object at `base`. -/
def Covers (layout : CallbackLayout) (base address : Address) : Prop :=
  ∃ field, address = layout.addressOf base field

instance (layout : CallbackLayout) (base address : Address) :
    Decidable (layout.Covers base address) :=
  decidable_of_iff
    (address = layout.addressOf base .object ∨
      address = layout.addressOf base .handle ∨
      address = layout.addressOf base .ctx ∨
      address = layout.addressOf base .cb) <| by
    constructor
    · rintro (equal | equal | equal | equal)
      · exact ⟨.object, equal⟩
      · exact ⟨.handle, equal⟩
      · exact ⟨.ctx, equal⟩
      · exact ⟨.cb, equal⟩
    · rintro ⟨field, equal⟩
      cases field <;> simp [equal]

theorem addressOf_inj
    (layout : CallbackLayout) (base : Address)
    {first second : CallbackField} :
    layout.addressOf base first = layout.addressOf base second ↔
      first = second := by
  constructor
  · intro same
    exact layout.injective (Nat.add_left_cancel same)
  · rintro rfl
    rfl

/-- The object that the words at `base` make. `None` is the null word. -/
def readObject (layout : CallbackLayout) (base : Address)
    (memory : WordMemory) : WduCallbackObject where
  object := memory (layout.addressOf base .object)
  handle := memory (layout.addressOf base .handle)
  ctx := memory (layout.addressOf base .ctx)
  cb :=
    if memory (layout.addressOf base .cb) = nullPtr then none
    else some (memory (layout.addressOf base .cb))

end CallbackLayout

/-- A call of a registered function. -/
structure CallbackCall where
  pfn : CodePtr
  ctx : Address
  arg1 : Address
  arg2 : Address
  deriving DecidableEq, Repr

namespace WduCallbackObject

/-- `register` on the object at `base`, with its local `self` at `slot`. The
second component is the context that `ExRegisterCallback` gets, and `answer`
is what it returns. -/
def registerAt (layout : CallbackLayout) (base slot : Address)
    (cb : CodePtr) (answer : Address) (memory : WordMemory) :
    WduCallbackResult Unit × Address × WordMemory :=
  let memory := Function.update memory slot base
  let ptr := slot
  if answer = nullPtr then
    (.error (.registerError statusUnsuccessful), ptr, memory)
  else
    let memory := Function.update memory (layout.addressOf base .cb) cb
    let memory :=
      Function.update memory (layout.addressOf base .handle) answer
    (.ok (), ptr, memory)

/-- `cb_internal`, whose `ptr` is the context that the kernel got. -/
def cbInternal (layout : CallbackLayout) (ctx arg1 arg2 : Address)
    (memory : WordMemory) : List CallbackCall :=
  let ptr := layout.readObject ctx memory
  match ptr.cb with
  | none => []
  | some pfn => [⟨pfn, ptr.ctx, arg1, arg2⟩]

theorem cbInternal_eq_iff
    (layout : CallbackLayout) (ctx arg1 arg2 : Address)
    (memory : WordMemory) {cb : CodePtr} {context : Address}
    (some : cb ≠ nullPtr) :
    cbInternal layout ctx arg1 arg2 memory = [⟨cb, context, arg1, arg2⟩] ↔
      memory (layout.addressOf ctx .cb) = cb ∧
        memory (layout.addressOf ctx .ctx) = context := by
  by_cases null : memory (layout.addressOf ctx .cb) = nullPtr
  · simp [cbInternal, CallbackLayout.readObject, null, some.symm]
  · simp [cbInternal, CallbackLayout.readObject, null]

/-- On the words of the object, `register` does what it does on the object
itself. -/
theorem registerAt_readObject
    {layout : CallbackLayout} {base slot : Address}
    (outside : ¬layout.Covers base slot) {cb : CodePtr}
    (some : cb ≠ nullPtr) (answer : Address) (memory : WordMemory)
    (kernel : Ledger Address) :
    layout.readObject base
        (registerAt layout base slot cb answer memory).2.2 =
      ((layout.readObject base memory).register cb answer kernel).2.1 := by
  have apart : ∀ field, layout.addressOf base field ≠ slot :=
    fun field same => outside ⟨field, same.symm⟩
  by_cases null : answer = nullPtr
  · simp [registerAt, register, null, CallbackLayout.readObject, apart]
  · simp [registerAt, register, null, CallbackLayout.readObject, apart,
      layout.addressOf_inj, some]

end WduCallbackObject

namespace Notification

open StepSystem

/-- A wrapper on which `register(cb)` succeeds. The local `self` lies below or
above the object. -/
structure Registered where
  layout : CallbackLayout
  base : Address
  slot : Address
  memory : WordMemory
  cb : CodePtr
  answer : Address
  baseAligned : 8 ∣ base
  slotAligned : 8 ∣ slot
  apart : slot + 8 ≤ base ∨ base + 32 ≤ slot
  cb_ne : cb ≠ nullPtr
  answer_ne : answer ≠ nullPtr

/-- `calls` are those that `cb_internal` has made. -/
structure System where
  memory : WordMemory
  calls : List CallbackCall

/-- `write` is any store that does not go through the wrapper: a frame that is
pushed, a local of it, other data. `notify` is a call of `cb_internal` by the
kernel. -/
inductive Event where
  | write (address : Address) (value : Nat)
  | notify (arg1 arg2 : Address)
  deriving DecidableEq, Repr

namespace Registered

/-- What `register` leaves. -/
def registration (input : Registered) :
    WduCallbackResult Unit × Address × WordMemory :=
  WduCallbackObject.registerAt input.layout input.base input.slot input.cb
    input.answer input.memory

def context (input : Registered) : Address :=
  input.registration.2.1

def start (input : Registered) : System :=
  ⟨input.registration.2.2, []⟩

/-- What the fields hold from then on. -/
def value (input : Registered) : CallbackField → Nat
  | .object => input.memory (input.layout.addressOf input.base .object)
  | .handle => input.answer
  | .ctx => input.memory (input.layout.addressOf input.base .ctx)
  | .cb => input.cb

def step (input : Registered) (system : System) : Event → Option System
  | .write address value =>
      if input.layout.Covers input.base address then none
      else
        some
          { system with memory := Function.update system.memory address value }
  | .notify arg1 arg2 =>
      some
        { system with
          calls :=
            system.calls ++
              WduCallbackObject.cbInternal input.layout input.context arg1
                arg2 system.memory }

/-- A notification calls `cb` once, with the wrapper's own `ctx` and the two
arguments. -/
def Delivered (input : Registered) (system : System) (event : Event)
    (next : System) : Prop :=
  match event with
  | .write _ _ => True
  | .notify arg1 arg2 =>
      next.calls =
        system.calls ++ [⟨input.cb, input.value .ctx, arg1, arg2⟩]

/-- Every notification is delivered, whatever happens in between. -/
def Reaches (input : Registered) : Prop :=
  ∀ events, EveryStep input.step input.Delivered input.start events

/-- The word that `cb_internal` takes for `field` is one of the object's, and
holds what `field` holds. -/
def Served (input : Registered) (field : CallbackField) : Prop :=
  ∃ other,
    input.layout.addressOf input.slot field =
        input.layout.addressOf input.base other ∧
      input.value other = input.value field

/-- The words of the object are as `register` left them. -/
def Intact (input : Registered) (system : System) : Prop :=
  ∀ field,
    system.memory (input.layout.addressOf input.base field) =
      input.value field

/-- `cb_internal` finds the function and the context. -/
def Finds (input : Registered) (memory : WordMemory) : Prop :=
  memory (input.layout.addressOf input.slot .cb) = input.cb ∧
    memory (input.layout.addressOf input.slot .ctx) = input.value .ctx

private theorem offset_apart
    {base slot offset : Nat} (apart : slot + 8 ≤ base ∨ base + 32 ≤ slot)
    (bound : offset < 32) :
    base + offset ≠ slot := by
  omega

theorem slot_ne (input : Registered) (field : CallbackField) :
    input.layout.addressOf input.base field ≠ input.slot :=
  offset_apart input.apart (input.layout.offset_lt field)

theorem context_eq (input : Registered) : input.context = input.slot := by
  simp [context, registration, WduCallbackObject.registerAt,
    input.answer_ne]

theorem intact_start (input : Registered) : input.Intact input.start := by
  intro field
  cases field <;>
    simp [start, registration, WduCallbackObject.registerAt,
      input.answer_ne, input.slot_ne, input.layout.addressOf_inj, value]

theorem delivered_iff
    (input : Registered) (system : System) (arg1 arg2 : Address) :
    input.Delivered system (.notify arg1 arg2)
        { system with
          calls :=
            system.calls ++
              WduCallbackObject.cbInternal input.layout input.context arg1
                arg2 system.memory } ↔
      input.Finds system.memory := by
  simp only [Delivered, List.append_cancel_left_eq, Finds, context_eq]
  exact
    WduCallbackObject.cbInternal_eq_iff input.layout input.slot arg1 arg2
      system.memory input.cb_ne

theorem Intact.step
    {input : Registered} {system next : System} {event : Event}
    (intact : input.Intact system)
    (stepped : input.step system event = some next) :
    input.Intact next := by
  cases event with
  | write address value =>
      simp only [Registered.step] at stepped
      split at stepped
      case isTrue => cases stepped
      case isFalse other =>
        cases stepped
        intro field
        have apart :
            input.layout.addressOf input.base field ≠ address :=
          fun same => other ⟨field, same.symm⟩
        simp [apart, intact field]
  | notify arg1 arg2 =>
      cases stepped
      exact intact

theorem Intact.finds
    {input : Registered} {system : System} (intact : input.Intact system)
    (cb : input.Served .cb) (ctx : input.Served .ctx) :
    input.Finds system.memory := by
  obtain ⟨cbField, cbWord, cbValue⟩ := cb
  obtain ⟨ctxField, ctxWord, ctxValue⟩ := ctx
  constructor
  · rw [cbWord, intact cbField, cbValue]
    rfl
  · rw [ctxWord, intact ctxField, ctxValue]

/-- One step from a state with the object's words in place. -/
theorem Intact.delivered
    {input : Registered} {system next : System} {event : Event}
    (intact : input.Intact system)
    (cb : input.Served .cb) (ctx : input.Served .ctx)
    (stepped : input.step system event = some next) :
    input.Delivered system event next := by
  cases event with
  | write address value => trivial
  | notify arg1 arg2 =>
      cases stepped
      exact
        (input.delivered_iff system arg1 arg2).mpr (intact.finds cb ctx)

theorem reaches_of_served
    {input : Registered}
    (cb : input.Served .cb) (ctx : input.Served .ctx) :
    input.Reaches := by
  intro events
  have intact := input.intact_start
  generalize input.start = system at *
  induction events generalizing system with
  | nil => trivial
  | cons event rest inductionHypothesis =>
      intro next stepped
      exact
        ⟨intact.delivered cb ctx stepped,
          inductionHypothesis next (intact.step stepped)⟩

/-- A notification right after `register`. -/
theorem Reaches.finds_start
    {input : Registered} (reaches : input.Reaches) :
    input.Finds input.start.memory := by
  have delivered := (reaches [.notify 0 0] _ rfl).1
  exact (input.delivered_iff input.start 0 0).mp delivered

/-- A notification after one store outside the object. -/
theorem Reaches.finds_write
    {input : Registered} (reaches : input.Reaches) {address : Address}
    (outside : ¬input.layout.Covers input.base address) (value : Nat) :
    input.Finds (Function.update input.start.memory address value) := by
  have stepped :
      input.step input.start (.write address value) =
        some
          { input.start with
            memory :=
              Function.update input.start.memory address value } := by
    rw [Registered.step, if_neg outside]
  have later := (reaches [.write address value, .notify 0 0] _ stepped).2
  exact (input.delivered_iff _ 0 0).mp (later _ rfl).1

/-- A value that a word can take instead of `value`. -/
def spoiled (value : Nat) : Nat :=
  if value = 1 then 2 else 1

theorem spoiled_ne (value : Nat) : spoiled value ≠ value := by
  unfold spoiled
  split <;> omega

/-- A word that always has the value of `field` is a word of the object. -/
theorem served_of_kept
    {input : Registered} {field : CallbackField}
    (first :
      input.start.memory (input.layout.addressOf input.slot field) =
        input.value field)
    (kept :
      ∀ address value, ¬input.layout.Covers input.base address →
        Function.update input.start.memory address value
            (input.layout.addressOf input.slot field) =
          input.value field) :
    input.Served field := by
  by_cases covered :
      input.layout.Covers input.base
        (input.layout.addressOf input.slot field)
  · obtain ⟨other, same⟩ := covered
    refine ⟨other, same, ?_⟩
    rw [← first, same, input.intact_start other]
  · have changed := kept _ (spoiled (input.value field)) covered
    rw [Function.update_self] at changed
    exact absurd changed (spoiled_ne _)

/-- The local is not at the object, so a field is read off another one. -/
theorem field_ne
    (input : Registered) {field other : CallbackField}
    (same :
      input.layout.addressOf input.slot field =
        input.layout.addressOf input.base other) :
    other ≠ field := by
  rintro rfl
  have bases : input.slot = input.base := Nat.add_right_cancel same
  exact offset_apart input.apart (by decide : 0 < 32) bases.symm

theorem not_served_cb
    (input : Registered)
    (different : ∀ field, field ≠ .cb → input.value field ≠ input.cb) :
    ¬input.Served .cb := by
  rintro ⟨other, same, equal⟩
  exact different other (input.field_ne same) equal

theorem Reaches.served
    {input : Registered} (reaches : input.Reaches) :
    input.Served .cb ∧ input.Served .ctx := by
  constructor
  · exact
      served_of_kept reaches.finds_start.1 fun _ value outside =>
        (reaches.finds_write outside value).1
  · exact
      served_of_kept reaches.finds_start.2 fun _ value outside =>
        (reaches.finds_write outside value).2

/-- Notifications reach the function exactly when the words that `cb_internal`
reads happen to be other words of the object with the same contents. They do
not when no other field of the object holds the address of the function. -/
theorem reaches_iff (input : Registered) :
    (input.Reaches ↔ input.Served .cb ∧ input.Served .ctx) ∧
      ((∀ field, field ≠ .cb → input.value field ≠ input.cb) →
        ¬input.Reaches) := by
  constructor
  · exact
      ⟨fun reaches => reaches.served, fun served =>
        reaches_of_served served.1 served.2⟩
  · intro different reaches
    exact input.not_served_cb different reaches.served.1

end Registered

/-- The fields in the order of their declaration. -/
def declaredLayout : CallbackLayout where
  offset
    | .object => 0
    | .handle => 8
    | .ctx => 16
    | .cb => 24
  offset_lt field := by cases field <;> decide
  aligned field := by cases field <;> decide
  injective first second same := by
    cases first <;> cases second <;> first | rfl | cases same

/-- The object is at `0x1000`, and its context at `0x3000`; the frame of
`register` is at `0x800`. -/
def registeredSample : Registered where
  layout := declaredLayout
  base := 0x1000
  slot := 0x800
  memory := Function.update (fun _ => 0x2000) 0x1010 0x3000
  cb := 0x7000
  answer := 0x4400
  baseAligned := by decide
  slotAligned := by decide
  apart := by decide
  cb_ne := by decide
  answer_ne := by decide

/-- The next frame leaves a word of its own, and the kernel calls it. -/
theorem registeredSample_misses :
    ∃ system,
      run registeredSample.step registeredSample.start
          [.write 0x818 0x41414141, .notify 1 2] = some system ∧
        system.calls = [⟨0x41414141, 0x2000, 1, 2⟩] ∧
        ¬registeredSample.Reaches := by
  refine ⟨_, rfl, rfl, ?_⟩
  intro reaches
  have found := reaches.finds_start.1
  cases found

theorem registeredSample_never : ¬registeredSample.Reaches := by
  apply (registeredSample.reaches_iff).2
  intro field other
  cases field with
  | cb => contradiction
  | object | handle | ctx => decide

end Notification

end WinDrvUtils

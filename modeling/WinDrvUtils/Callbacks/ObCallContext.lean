import WinDrvUtils.Callbacks.ObDispatch

/-!
# The call context of an object operation

A pre callback may leave a context for the post callbacks of the same
operation: `set_context` moves it into a box and stores the pointer in
`CallContext`, and `call_context` makes a box of that pointer. There is one
`CallContext` for all registrations of a wrapper. `set_context` asserts that
it is null, and `call_context` does not reset it.

A `ObParticipant` is a registration with what its callbacks do in one
operation, so a list of them stands for any behaviour of the callbacks.
-/

namespace WinDrvUtils

/-- What `Box::into_raw` returns is never null. -/
structure BoxPtr where
  address : Address
  notNull : address ≠ nullPtr
  deriving DecidableEq, Repr

namespace ObPreOpInfo

def contextTaken : Panic :=
  .assertion "self.get().CallContext.is_null()"

def setContext (info : ObPreOperationInformation) (context : BoxPtr) :
    Except Panic ObPreOperationInformation :=
  if info.callContext = nullPtr then
    .ok { info with callContext := context.address }
  else .error contextTaken

end ObPreOpInfo

namespace ObPostOpInfo

/-- The pointer that `Box::from_raw` makes a box of. -/
def callContext (info : ObPostOperationInformation) : Option Address :=
  if info.callContext = nullPtr then none else some info.callContext

end ObPostOpInfo

/-- `sets` is the context that the pre callback sets, if it sets one, and
`asks` whether the post callback asks for it. -/
structure ObParticipant where
  registration : WduObOpRegistration
  sets : Option BoxPtr
  asks : Bool
  deriving DecidableEq, Repr

namespace ObParticipant

def selected (kind : ObTrampoline) (info : ObOperationInformation)
    (participant : ObParticipant) : Bool :=
  participant.registration.selected kind info

def runPre (info : ObPreOperationInformation) (participant : ObParticipant) :
    Except Panic ObPreOperationInformation :=
  if participant.selected .preOpInternal info.toObOperationInformation then
    match participant.sets with
    | some context => ObPreOpInfo.setContext info context
    | none => .ok info
  else .ok info

def runPost (info : ObPostOperationInformation)
    (participant : ObParticipant) : Option Address :=
  if participant.selected .postOpInternal info.toObOperationInformation then
    if participant.asks then ObPostOpInfo.callContext info else none
  else none

end ObParticipant

namespace ObCallContext

open ObParticipant

/-- `pre_op_internal` -/
def preOpInternal (participants : List ObParticipant)
    (info : ObPreOperationInformation) :
    Except Panic ObPreOperationInformation :=
  participants.foldlM runPre info

/-- `post_op_internal`: the boxes that it makes. -/
def postOpInternal (participants : List ObParticipant)
    (info : ObPostOperationInformation) : List Address :=
  participants.filterMap (runPost info)

/-- One operation. The kernel starts with a context of null, and hands on
what it finds after the pre callbacks. -/
def operate (participants : List ObParticipant)
    (operation : ObOperationInformation) : Except Panic (List Address) :=
  match preOpInternal participants ⟨operation, nullPtr⟩ with
  | .error panic => .error panic
  | .ok info =>
      .ok (postOpInternal participants ⟨operation, info.callContext⟩)

/-- The context that a matching pre callback sets, or tries to. -/
def contextOf (operation : ObOperationInformation)
    (participant : ObParticipant) : Option BoxPtr :=
  if participant.selected .preOpInternal operation then participant.sets
  else none

def contexts (participants : List ObParticipant)
    (operation : ObOperationInformation) : List BoxPtr :=
  participants.filterMap (contextOf operation)

/-- The matching post callbacks that ask for the context. -/
def askers (participants : List ObParticipant)
    (operation : ObOperationInformation) : List ObParticipant :=
  participants.filter fun participant =>
    participant.selected .postOpInternal operation && participant.asks

/-- No assertion fails, no context is boxed twice, and whoever asks gets every
context that was set. -/
def HandedOver (participants : List ObParticipant)
    (operation : ObOperationInformation) : Prop :=
  ∃ boxes,
    operate participants operation = .ok boxes ∧ boxes.Nodup ∧
      (askers participants operation ≠ [] →
        ∀ context ∈ contexts participants operation,
          context.address ∈ boxes)

/-! ## What the two routines do -/

section Pre

open ObPreOpInfo

variable {operation : ObOperationInformation}

theorem contexts_cons_none
    {participant : ObParticipant} (rest : List ObParticipant)
    (nothing : contextOf operation participant = none) :
    contexts (participant :: rest) operation = contexts rest operation :=
  List.filterMap_cons_none nothing

theorem contexts_cons_some
    {participant : ObParticipant} (rest : List ObParticipant)
    {context : BoxPtr}
    (something : contextOf operation participant = some context) :
    contexts (participant :: rest) operation =
      context :: contexts rest operation :=
  List.filterMap_cons_some something

theorem preOpInternal_cons_none
    {participant : ObParticipant} (rest : List ObParticipant)
    (context : Address)
    (nothing : contextOf operation participant = none) :
    preOpInternal (participant :: rest) ⟨operation, context⟩ =
      preOpInternal rest ⟨operation, context⟩ := by
  have same : runPre ⟨operation, context⟩ participant =
      .ok ⟨operation, context⟩ := by
    unfold contextOf at nothing
    unfold runPre
    by_cases selected : participant.selected .preOpInternal operation
    · rw [if_pos selected] at nothing
      rw [if_pos selected, nothing]
    · rw [if_neg selected]
  rw [preOpInternal, List.foldlM_cons, same]
  rfl

theorem preOpInternal_cons_some
    {participant : ObParticipant} (rest : List ObParticipant)
    (context : Address) {other : BoxPtr}
    (something : contextOf operation participant = some other) :
    preOpInternal (participant :: rest) ⟨operation, context⟩ =
      if context = nullPtr then
        preOpInternal rest ⟨operation, other.address⟩
      else .error contextTaken := by
  have same : runPre ⟨operation, context⟩ participant =
      setContext ⟨operation, context⟩ other := by
    unfold contextOf at something
    unfold runPre
    by_cases selected : participant.selected .preOpInternal operation
    · rw [if_pos selected] at something
      rw [if_pos selected, something]
    · rw [if_neg selected] at something
      cases something
  rw [preOpInternal, List.foldlM_cons, same, setContext]
  by_cases free : context = nullPtr
  · rw [if_pos free, if_pos free]
    rfl
  · rw [if_neg free, if_neg free]
    rfl

/-- With a context already there, the first callback that sets another one
fails. -/
theorem preOpInternal_of_ne
    (participants : List ObParticipant) {context : Address}
    (taken : context ≠ nullPtr) :
    preOpInternal participants ⟨operation, context⟩ =
      if contexts participants operation = [] then .ok ⟨operation, context⟩
      else .error contextTaken := by
  induction participants with
  | nil => rfl
  | cons participant rest inductionHypothesis =>
      cases found : contextOf operation participant with
      | none =>
          rw [preOpInternal_cons_none rest context found,
            contexts_cons_none rest found]
          exact inductionHypothesis
      | some other =>
          rw [preOpInternal_cons_some rest context found, if_neg taken,
            contexts_cons_some rest found, if_neg (List.cons_ne_nil _ _)]

theorem preOpInternal_of_null (participants : List ObParticipant) :
    preOpInternal participants ⟨operation, nullPtr⟩ =
      match contexts participants operation with
      | [] => .ok ⟨operation, nullPtr⟩
      | [context] => .ok ⟨operation, context.address⟩
      | _ => .error contextTaken := by
  induction participants with
  | nil => rfl
  | cons participant rest inductionHypothesis =>
      cases found : contextOf operation participant with
      | none =>
          rw [preOpInternal_cons_none rest nullPtr found,
            contexts_cons_none rest found]
          exact inductionHypothesis
      | some context =>
          rw [preOpInternal_cons_some rest nullPtr found, if_pos rfl,
            preOpInternal_of_ne rest context.notNull,
            contexts_cons_some rest found]
          cases contexts rest operation <;> rfl

end Pre

/-- Everybody who asks gets a box of the one context. -/
theorem postOpInternal_eq
    (participants : List ObParticipant) (operation : ObOperationInformation)
    (context : Address) :
    postOpInternal participants ⟨operation, context⟩ =
      if context = nullPtr then []
      else
        List.replicate (askers participants operation).length context := by
  have given : ∀ participant : ObParticipant,
      runPost ⟨operation, context⟩ participant =
        if participant.selected .postOpInternal operation &&
            participant.asks then
          if context = nullPtr then none else some context
        else none := by
    intro participant
    unfold runPost
    cases participant.selected .postOpInternal operation with
    | false => rfl
    | true => cases participant.asks <;> rfl
  unfold postOpInternal askers
  rw [List.filterMap_congr fun participant _ => given participant]
  by_cases null : context = nullPtr
  · simp [null]
  · simp only [if_neg null]
    induction participants with
    | nil => rfl
    | cons participant rest inductionHypothesis =>
        rw [List.filterMap_cons, List.filter_cons, inductionHypothesis]
        cases participant.selected .postOpInternal operation &&
            participant.asks <;> rfl

/-! ## Once -/

/-- For every list of registrations, every behaviour of their callbacks and
every operation: the call context is handed over exactly once if and only if
at most one matching pre callback sets a context and, if one does, at most one
matching post callback asks for it. -/
theorem handedOver_iff
    (participants : List ObParticipant)
    (operation : ObOperationInformation) :
    HandedOver participants operation ↔
      (contexts participants operation).length ≤ 1 ∧
        (contexts participants operation = [] ∨
          (askers participants operation).length ≤ 1) := by
  have before := @preOpInternal_of_null operation participants
  unfold HandedOver operate
  match contexts participants operation, before with
  | [], before =>
      rw [before]
      refine iff_of_true ?_ ⟨Nat.zero_le _, Or.inl rfl⟩
      refine ⟨_, rfl, ?_, fun _ _ member => nomatch member⟩
      rw [postOpInternal_eq, if_pos rfl]
      exact List.nodup_nil
  | [context], before =>
      rw [before]
      simp only [postOpInternal_eq, if_neg context.notNull]
      constructor
      · intro handed
        obtain ⟨boxes, made, once, _⟩ := handed
        rw [← Except.ok.inj made, List.nodup_replicate] at once
        exact ⟨Nat.le_refl _, Or.inr once⟩
      · intro few
        have once := few.2.resolve_left (List.cons_ne_nil _ _)
        refine ⟨_, rfl, List.nodup_replicate.mpr once, ?_⟩
        intro asked other member
        rw [List.mem_singleton.mp member, List.mem_replicate]
        exact ⟨fun none => asked (List.length_eq_zero_iff.mp none), rfl⟩
  | first :: second :: rest, before =>
      rw [before]
      refine iff_of_false (fun handed => ?_) (fun few => ?_)
      · obtain ⟨boxes, made, _⟩ := handed
        cases made
      · exact absurd few.1 (by simp)

/-- A registration for processes whose post callback asks for the context. -/
def asker (sets : Option BoxPtr) : ObParticipant :=
  ⟨⟨.process, 1, some 0x10, some 0x20, nullPtr⟩, sets, true⟩

def processCreate : ObOperationInformation :=
  ⟨ObOperation.handleCreate.code, some .psProcessType⟩

/-- Two askers get two boxes of one context, and with two setters the
assertion fails. -/
theorem twoAskers_boxTwice :
    (operate [asker (some ⟨0x1000, by decide⟩), asker none] processCreate =
          .ok [0x1000, 0x1000] ∧
        ¬ HandedOver [asker (some ⟨0x1000, by decide⟩), asker none]
            processCreate) ∧
      ¬ HandedOver
          [asker (some ⟨0x1000, by decide⟩),
            asker (some ⟨0x2000, by decide⟩)]
          processCreate := by
  refine ⟨⟨rfl, fun handed => ?_⟩, fun handed => ?_⟩
  · obtain ⟨boxes, made, once, _⟩ := handed
    cases made
    exact absurd once (by decide)
  · obtain ⟨boxes, made, _⟩ := handed
    cases made

end ObCallContext

end WinDrvUtils

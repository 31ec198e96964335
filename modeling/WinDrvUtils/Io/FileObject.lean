import WinDrvUtils.Nt
import WinDrvUtils.Library.Ledger
import WinDrvUtils.Library.StepSystem

/-!
# Contexts of a file object

A `FILE_OBJECT` has two fields for the driver, `FsContext` and `FsContext2`.
`set_context` moves the context into a box and leaves the box's pointer in the
field. `context` makes a box of that pointer again, but the pointer stays
where it is: the next call makes a second box of the same allocation, and a
reference taken later is to something that a box owns or has freed.

All wrappers of a file object hold the same pointer to it, so a run is about
the file object. A pointer carries the allocation that it was made from; an
allocator may use an address again, for another allocation.
-/

namespace WinDrvUtils

structure ContextPtr where
  address : Address
  allocation : Nat
  deriving DecidableEq, Repr

namespace ContextPtr

def null : ContextPtr := ⟨nullPtr, 0⟩

def IsNull (pointer : ContextPtr) : Prop :=
  pointer.address = nullPtr

instance (pointer : ContextPtr) : Decidable pointer.IsNull :=
  inferInstanceAs (Decidable (pointer.address = nullPtr))

end ContextPtr

structure FileObject where
  fsContext : ContextPtr
  fsContext2 : ContextPtr
  deriving DecidableEq, Repr

inductive ContextSlot where
  | fsContext
  | fsContext2
  deriving DecidableEq, Repr

namespace FileObject

def read (object : FileObject) : ContextSlot → ContextPtr
  | .fsContext => object.fsContext
  | .fsContext2 => object.fsContext2

def write (object : FileObject) (slot : ContextSlot)
    (pointer : ContextPtr) : FileObject :=
  match slot with
  | .fsContext => { object with fsContext := pointer }
  | .fsContext2 => { object with fsContext2 := pointer }

@[simp]
theorem read_write_self
    (object : FileObject) (slot : ContextSlot) (pointer : ContextPtr) :
    (object.write slot pointer).read slot = pointer := by
  cases slot <;> rfl

theorem read_write_of_ne
    (object : FileObject) {slot other : ContextSlot} (pointer : ContextPtr)
    (different : other ≠ slot) :
    (object.write slot pointer).read other = object.read other := by
  cases slot <;> cases other <;> first | rfl | exact absurd rfl different

end FileObject

namespace WduFileObject

/-! The methods come in pairs that differ in the field. -/

/-- `box` is what `Box::into_raw` returns for the new context. -/
def setContextAt (slot : ContextSlot) (box : ContextPtr)
    (object : FileObject) : FileObject :=
  object.write slot box

def setContext := setContextAt .fsContext

def setContext2 := setContextAt .fsContext2

/-- The pointer that `Box::from_raw` makes a box of. -/
def contextAt (slot : ContextSlot) (object : FileObject) :
    Option ContextPtr :=
  if (object.read slot).IsNull then none else some (object.read slot)

def context := contextAt .fsContext

def context2 := contextAt .fsContext2

/-- The pointer that is transmuted to a reference. -/
def contextAsRefAt (slot : ContextSlot) (object : FileObject) :
    Option ContextPtr :=
  if (object.read slot).IsNull then none else some (object.read slot)

def contextAsRef := contextAsRefAt .fsContext

def contextAsMutRef := contextAsRefAt .fsContext

def context2AsRef := contextAsRefAt .fsContext2

def context2AsMutRef := contextAsRefAt .fsContext2

end WduFileObject

namespace FileObject

open StepSystem

/-- `returned` are the boxes that the driver got and has not dropped, and
`dangling` the references that it got to a context that was no longer the
file object's. -/
structure System where
  object : FileObject
  boxes : Ledger ContextPtr
  returned : List ContextPtr
  dangling : List ContextPtr

/-- A call on some wrapper of the file object, or the drop of a box. `answer`
is the address of the new box. -/
inductive Event where
  | setContext (answer : Address)
  | setContext2 (answer : Address)
  | context
  | context2
  | contextAsRef
  | contextAsMutRef
  | context2AsRef
  | context2AsMutRef
  | dropBox (index : Nat)
  deriving DecidableEq, Repr

namespace System

def new : System :=
  ⟨⟨.null, .null⟩, Ledger.empty, [], []⟩

/-- A returned box owns the context that the slot points to, or has freed
it. -/
def Handed (system : System) (slot : ContextSlot) : Prop :=
  system.object.read slot ∈ system.returned ∨
    system.object.read slot ∉ system.boxes.live

/-- `Box::new` and what a method does with the new box. Without memory there
is no box, and no return. -/
def put (system : System) (answer : Address)
    (method : ContextPtr → FileObject → FileObject) : Option System :=
  if answer = nullPtr then none
  else
    let box : ContextPtr := ⟨answer, system.boxes.issued.length⟩
    some
      { system with
        object := method box system.object
        boxes := system.boxes.issue box }

def give (system : System) (box : Option ContextPtr) : System :=
  match box with
  | none => system
  | some box => { system with returned := box :: system.returned }

def lend (system : System) (reference : Option ContextPtr) : System :=
  match reference with
  | none => system
  | some pointer =>
      if pointer ∈ system.returned ∨ pointer ∉ system.boxes.live then
        { system with dangling := pointer :: system.dangling }
      else system

def dropBox (system : System) (index : Nat) : Option System :=
  system.returned[index]?.map fun box =>
    { system with
      boxes := system.boxes.release box
      returned := system.returned.eraseIdx index }

end System

def step (system : System) : Event → Option System
  | .setContext answer => system.put answer WduFileObject.setContext
  | .setContext2 answer => system.put answer WduFileObject.setContext2
  | .context => some (system.give (WduFileObject.context system.object))
  | .context2 => some (system.give (WduFileObject.context2 system.object))
  | .contextAsRef =>
      some (system.lend (WduFileObject.contextAsRef system.object))
  | .contextAsMutRef =>
      some (system.lend (WduFileObject.contextAsMutRef system.object))
  | .context2AsRef =>
      some (system.lend (WduFileObject.context2AsRef system.object))
  | .context2AsMutRef =>
      some (system.lend (WduFileObject.context2AsMutRef system.object))
  | .dropBox index => system.dropBox index

/-- The slot that a call is about. -/
def Event.slot : Event → Option ContextSlot
  | .setContext _ | .context | .contextAsRef | .contextAsMutRef =>
      some .fsContext
  | .setContext2 _ | .context2 | .context2AsRef | .context2AsMutRef =>
      some .fsContext2
  | .dropBox _ => none

/-! ## Ownership -/

/-- No box is freed twice, no two returned boxes are of one allocation and
each owns a live one, every live context can still be reached, and every
reference was to a context of the file object's own. -/
structure Owned (system : System) : Prop where
  clean : system.boxes.stray = []
  single : system.returned.Nodup
  alive : ∀ box ∈ system.returned, box ∈ system.boxes.live
  reached :
    ∀ box ∈ system.boxes.live,
      box ∈ system.returned ∨ ∃ slot, system.object.read slot = box
  sound : system.dangling = []

/-- A call about one slot leaves the other one alone: its pointer, and
whether its context is live and whether a returned box has it. -/
def SlotsApart (system : System) (event : Event) (next : System) : Prop :=
  ∀ slot, event.slot = some slot → ∀ other, other ≠ slot →
    next.object.read other = system.object.read other ∧
      (system.object.read other ∈ next.boxes.live ↔
        system.object.read other ∈ system.boxes.live) ∧
      (system.object.read other ∈ next.returned ↔
        system.object.read other ∈ system.returned)

/-- The slot is null, or its context has been handed out. -/
def Vacant (system : System) (slot : ContextSlot) : Prop :=
  (system.object.read slot).IsNull ∨ system.Handed slot

/-- The slot is null, or its context is still the file object's own. -/
def Unclaimed (system : System) (slot : ContextSlot) : Prop :=
  (system.object.read slot).IsNull ∨ ¬ system.Handed slot

def InOrder (system : System) : Event → Prop
  | .setContext _ => Vacant system .fsContext
  | .setContext2 _ => Vacant system .fsContext2
  | .context | .contextAsRef | .contextAsMutRef =>
      Unclaimed system .fsContext
  | .context2 | .context2AsRef | .context2AsMutRef =>
      Unclaimed system .fsContext2
  | .dropBox _ => True

/-- The invariant of runs in order. Boxes are numbered as they come, which
keeps them apart. -/
structure Sound (system : System) : Prop where
  owned : Owned system
  numbered :
    ∀ box ∈ system.boxes.issued,
      box.allocation < system.boxes.issued.length
  real : ∀ box ∈ system.boxes.issued, ¬ box.IsNull
  distinct : system.boxes.live.Nodup
  made :
    ∀ slot, (system.object.read slot).IsNull ∨
      system.object.read slot ∈ system.boxes.issued
  apart :
    ∀ slot other, other ≠ slot →
      system.object.read other = system.object.read slot →
        (system.object.read slot).IsNull

section Calls

variable {system next : System} {slot : ContextSlot}

theorem live_of_not_handed
    (own : ¬ system.Handed slot) :
    system.object.read slot ∈ system.boxes.live ∧
      system.object.read slot ∉ system.returned := by
  obtain ⟨notReturned, live⟩ := not_or.mp own
  exact ⟨not_not.mp live, notReturned⟩

section Put

variable {answer : Address}

theorem put_eq
    (stepped :
      system.put answer (WduFileObject.setContextAt slot) = some next) :
    answer ≠ nullPtr ∧
      next =
        { system with
          object :=
            system.object.write slot ⟨answer, system.boxes.issued.length⟩
          boxes :=
            system.boxes.issue ⟨answer, system.boxes.issued.length⟩ } := by
  unfold System.put at stepped
  by_cases refused : answer = nullPtr
  · rw [if_pos refused] at stepped
    cases stepped
  · rw [if_neg refused] at stepped
    cases stepped
    exact ⟨refused, rfl⟩

/-- The new box is none of those that there have been. -/
theorem Sound.fresh
    (sound : Sound system) {box : ContextPtr}
    (issued : box ∈ system.boxes.issued) :
    box ≠ ⟨answer, system.boxes.issued.length⟩ := by
  intro same
  have below := sound.numbered box issued
  rw [same] at below
  exact Nat.lt_irrefl _ below

theorem Sound.fresh_slot
    (sound : Sound system) (granted : answer ≠ nullPtr)
    (other : ContextSlot) :
    system.object.read other ≠ ⟨answer, system.boxes.issued.length⟩ := by
  rcases sound.made other with null | issued
  · intro same
    rw [same] at null
    exact granted null
  · exact sound.fresh issued

/-- No context is lost when a vacant slot is overwritten. -/
theorem reached_write
    (sound : Sound system) (vacant : Vacant system slot)
    {box : ContextPtr} (live : box ∈ system.boxes.live)
    (pointer : ContextPtr) :
    box ∈ system.returned ∨
      ∃ other, (system.object.write slot pointer).read other = box := by
  rcases sound.owned.reached box live with returned | ⟨other, same⟩
  · exact Or.inl returned
  · by_cases overwritten : other = slot
    · subst overwritten
      subst same
      have notNull := sound.real _ (Ledger.mem_issued_of_live live)
      have handed := vacant.resolve_left notNull
      exact Or.inl (handed.resolve_right (not_not.mpr live))
    · refine Or.inr ⟨other, ?_⟩
      rw [← same]
      exact FileObject.read_write_of_ne _ _ overwritten

/-- The slots stay apart when one of them gets a pointer that is in
neither. -/
theorem apart_write
    (sound : Sound system) {pointer : ContextPtr}
    (fresh : ∀ other, system.object.read other ≠ pointer)
    {first second : ContextSlot} (different : second ≠ first)
    (same :
      (system.object.write slot pointer).read second =
        (system.object.write slot pointer).read first) :
    ((system.object.write slot pointer).read first).IsNull := by
  by_cases firstSlot : first = slot
  · subst firstSlot
    rw [FileObject.read_write_self,
      FileObject.read_write_of_ne _ _ different] at same
    exact absurd same (fresh second)
  · rw [FileObject.read_write_of_ne _ _ firstSlot] at same ⊢
    by_cases secondSlot : second = slot
    · subst secondSlot
      rw [FileObject.read_write_self] at same
      exact absurd same.symm (fresh first)
    · rw [FileObject.read_write_of_ne _ _ secondSlot] at same
      exact sound.apart first second different same

theorem sound_put
    (sound : Sound system) (vacant : Vacant system slot)
    (stepped :
      system.put answer (WduFileObject.setContextAt slot) = some next) :
    Sound next := by
  obtain ⟨granted, rfl⟩ := put_eq stepped
  have older : ∀ box ∈ system.boxes.live,
      box ≠ ⟨answer, system.boxes.issued.length⟩ := by
    intro box live
    apply sound.fresh
    exact Ledger.mem_issued_of_live live
  refine ⟨⟨?_, ?_, ?_, ?_, ?_⟩, ?_, ?_, ?_, ?_, ?_⟩
  · exact sound.owned.clean
  · exact sound.owned.single
  · intro box returned
    have before := sound.owned.alive box returned
    exact List.mem_cons_of_mem _ before
  · intro box live
    rcases List.mem_cons.mp live with rfl | before
    · exact Or.inr ⟨slot, FileObject.read_write_self _ _ _⟩
    · exact reached_write sound vacant before _
  · exact sound.owned.sound
  · intro box issued
    rw [Ledger.issue_issued, List.length_cons]
    rcases List.mem_cons.mp issued with rfl | before
    · exact Nat.lt_succ_self _
    · have below := sound.numbered box before
      exact Nat.lt_succ_of_lt below
  · intro box issued
    rcases List.mem_cons.mp issued with rfl | before
    · exact granted
    · exact sound.real box before
  · refine List.nodup_cons.mpr ⟨fun live => ?_, sound.distinct⟩
    exact older _ live rfl
  · intro other
    by_cases same : other = slot
    · subst same
      rw [FileObject.read_write_self]
      exact Or.inr List.mem_cons_self
    · rw [FileObject.read_write_of_ne _ _ same]
      exact (sound.made other).imp id (List.mem_cons_of_mem _)
  · intro first second different same
    exact apart_write sound (sound.fresh_slot granted) different same

/-- A context that is overwritten while it is the file object's own cannot be
reached any more. -/
theorem vacant_of_put
    (sound : Sound system)
    (stepped :
      system.put answer (WduFileObject.setContextAt slot) = some next)
    (owned : Owned next) :
    Vacant system slot := by
  obtain ⟨granted, rfl⟩ := put_eq stepped
  by_contra occupied
  obtain ⟨notNull, own⟩ := not_or.mp occupied
  obtain ⟨live, notReturned⟩ := live_of_not_handed own
  rcases owned.reached _ (List.mem_cons_of_mem _ live) with
    returned | ⟨other, same⟩
  · exact notReturned returned
  · by_cases overwritten : other = slot
    · subst overwritten
      rw [FileObject.read_write_self] at same
      exact sound.fresh_slot granted other same.symm
    · rw [FileObject.read_write_of_ne _ _ overwritten] at same
      exact notNull (sound.apart slot other overwritten same)

theorem slotsApart_put
    (sound : Sound system)
    (stepped :
      system.put answer (WduFileObject.setContextAt slot) = some next)
    {other : ContextSlot} (different : other ≠ slot) :
    next.object.read other = system.object.read other ∧
      (system.object.read other ∈ next.boxes.live ↔
        system.object.read other ∈ system.boxes.live) ∧
      (system.object.read other ∈ next.returned ↔
        system.object.read other ∈ system.returned) := by
  obtain ⟨granted, rfl⟩ := put_eq stepped
  refine
    ⟨FileObject.read_write_of_ne _ _ different, ?_, Iff.rfl⟩
  rw [Ledger.issue_live, List.mem_cons]
  exact or_iff_right (sound.fresh_slot granted other)

end Put

/-- What only moves ownership about keeps the rest of the invariant. -/
theorem Sound.of_owned
    (sound : Sound system) (owned : Owned next)
    (object : next.object = system.object)
    (boxes : next.boxes = system.boxes) :
    Sound next where
  owned := owned
  numbered := by
    rw [boxes]
    exact sound.numbered
  real := by
    rw [boxes]
    exact sound.real
  distinct := by
    rw [boxes]
    exact sound.distinct
  made := by
    rw [object, boxes]
    exact sound.made
  apart := by
    rw [object]
    exact sound.apart

theorem give_boxes (system : System) (box : Option ContextPtr) :
    (system.give box).object = system.object ∧
      (system.give box).boxes = system.boxes := by
  cases box <;> exact ⟨rfl, rfl⟩

theorem lend_some (system : System) (pointer : ContextPtr) :
    system.lend (some pointer) =
      if pointer ∈ system.returned ∨ pointer ∉ system.boxes.live then
        { system with dangling := pointer :: system.dangling }
      else system := rfl

theorem lend_boxes (system : System) (reference : Option ContextPtr) :
    (system.lend reference).object = system.object ∧
      (system.lend reference).boxes = system.boxes ∧
      (system.lend reference).returned = system.returned := by
  cases reference with
  | none =>
      exact ⟨rfl, rfl, rfl⟩
  | some pointer =>
      rw [lend_some]
      split <;> exact ⟨rfl, rfl, rfl⟩

theorem owned_give_iff
    (owned : Owned system) :
    Owned (system.give (WduFileObject.contextAt slot system.object)) ↔
      Unclaimed system slot := by
  unfold WduFileObject.contextAt
  by_cases null : (system.object.read slot).IsNull
  · rw [if_pos null]
    exact iff_of_true owned (Or.inl null)
  · rw [if_neg null]
    constructor
    · intro after
      refine Or.inr (not_or.mpr ⟨?_, not_not.mpr ?_⟩)
      · exact (List.nodup_cons.mp after.single).1
      · exact after.alive _ List.mem_cons_self
    · intro unclaimed
      obtain ⟨live, notReturned⟩ :=
        live_of_not_handed (unclaimed.resolve_left null)
      refine ⟨owned.clean, ?_, ?_, ?_, owned.sound⟩
      · exact List.nodup_cons.mpr ⟨notReturned, owned.single⟩
      · exact List.forall_mem_cons.mpr ⟨live, owned.alive⟩
      · intro box member
        exact (owned.reached box member).imp (List.mem_cons_of_mem _) id

theorem owned_lend_iff
    (owned : Owned system) :
    Owned (system.lend (WduFileObject.contextAsRefAt slot system.object)) ↔
      Unclaimed system slot := by
  unfold WduFileObject.contextAsRefAt
  by_cases null : (system.object.read slot).IsNull
  · rw [if_pos null]
    exact iff_of_true owned (Or.inl null)
  · rw [if_neg null, lend_some]
    split
    case isTrue handed =>
        refine iff_of_false (fun after => ?_) ?_
        · exact List.cons_ne_nil _ _ after.sound
        · exact not_or.mpr ⟨null, not_not.mpr handed⟩
    case isFalse own =>
        exact iff_of_true owned (Or.inr own)

theorem sound_dropBox
    (sound : Sound system) {index : Nat}
    (stepped : system.dropBox index = some next) :
    Sound next := by
  obtain ⟨box, found, rfl⟩ := Option.map_eq_some_iff.mp stepped
  obtain ⟨inside, rfl⟩ := List.getElem?_eq_some_iff.mp found
  have split := List.getElem_cons_eraseIdx_perm inside
  have apart := List.nodup_cons.mp (split.nodup_iff.mpr sound.owned.single)
  have live := sound.owned.alive _ (List.getElem_mem inside)
  have left := Ledger.release_live_of_mem live
  refine ⟨⟨?_, apart.2, ?_, ?_, sound.owned.sound⟩, ?_, ?_, ?_, ?_, ?_⟩
  · exact (Ledger.release_stray_of_mem live).trans sound.owned.clean
  · intro other member
    have before := split.mem_iff.mp (List.mem_cons_of_mem _ member)
    refine
      Ledger.mem_live_release_of_ne (sound.owned.alive other before) ?_
    intro same
    exact apart.1 (same ▸ member)
  · intro other member
    rw [left, sound.distinct.mem_erase_iff] at member
    refine (sound.owned.reached other member.2).imp (fun returned => ?_) id
    exact
      (List.mem_cons.mp (split.mem_iff.mpr returned)).resolve_left member.1
  · rw [Ledger.release_issued]
    exact sound.numbered
  · rw [Ledger.release_issued]
    exact sound.real
  · rw [left]
    exact sound.distinct.erase _
  · rw [Ledger.release_issued]
    exact sound.made
  · exact sound.apart

/-- The box that a slot gives away is not the other slot's. -/
theorem slotsApart_give
    (sound : Sound system) {other : ContextSlot} (different : other ≠ slot) :
    system.object.read other ∈
        (system.give (WduFileObject.contextAt slot system.object)).returned ↔
      system.object.read other ∈ system.returned := by
  unfold WduFileObject.contextAt
  by_cases null : (system.object.read slot).IsNull
  · rw [if_pos null]
    rfl
  · rw [if_neg null]
    have notSame :
        system.object.read other ≠ system.object.read slot :=
      fun same => null (sound.apart slot other different same)
    simp only [System.give, List.mem_cons]
    exact or_iff_right notSame

end Calls

/-! ## Runs -/

/-- From a sound state, a call keeps the contexts owned exactly if it is in
order, and then the state stays sound. -/
structure Exact (system : System) (condition : Prop) (next : System) :
    Prop where
  sound : condition → Sound next
  needed : Owned next → condition

theorem exact_of_owned_iff
    {system next : System} {condition : Prop} (sound : Sound system)
    (object : next.object = system.object)
    (boxes : next.boxes = system.boxes)
    (exactly : Owned next ↔ condition) :
    Exact system condition next where
  sound condition := sound.of_owned (exactly.mpr condition) object boxes
  needed := exactly.mp

theorem exact_step
    {system next : System} {event : Event} (sound : Sound system)
    (stepped : step system event = some next) :
    Exact system (InOrder system event) next := by
  cases event with
  | setContext answer =>
      exact
        ⟨fun vacant => sound_put sound vacant stepped,
          vacant_of_put sound stepped⟩
  | setContext2 answer =>
      exact
        ⟨fun vacant => sound_put sound vacant stepped,
          vacant_of_put sound stepped⟩
  | context | context2 =>
      cases stepped
      obtain ⟨object, boxes⟩ := give_boxes system _
      exact
        exact_of_owned_iff sound object boxes (owned_give_iff sound.owned)
  | contextAsRef | contextAsMutRef | context2AsRef | context2AsMutRef =>
      cases stepped
      obtain ⟨object, boxes, _⟩ := lend_boxes system _
      exact
        exact_of_owned_iff sound object boxes (owned_lend_iff sound.owned)
  | dropBox index =>
      exact ⟨fun _ => sound_dropBox sound stepped, fun _ => trivial⟩

theorem slotsApart_step
    {system next : System} {event : Event} (sound : Sound system)
    (stepped : step system event = some next) :
    SlotsApart system event next := by
  intro slot about other different
  cases event with
  | setContext answer | setContext2 answer =>
      cases about
      exact slotsApart_put sound stepped different
  | context | context2 =>
      cases about
      cases stepped
      obtain ⟨object, boxes⟩ := give_boxes system _
      exact
        ⟨congrArg (FileObject.read · other) object, by rw [boxes],
          slotsApart_give sound different⟩
  | contextAsRef | contextAsMutRef | context2AsRef | context2AsMutRef =>
      cases about
      cases stepped
      obtain ⟨object, boxes, returned⟩ := lend_boxes system _
      exact
        ⟨congrArg (FileObject.read · other) object, by rw [boxes],
          by rw [returned]⟩
  | dropBox index =>
      cases about

theorem sound_new : Sound System.new where
  owned := ⟨rfl, List.nodup_nil, nofun, nofun, rfl⟩
  numbered := nofun
  real := nofun
  distinct := List.nodup_nil
  made slot := by
    cases slot <;> exact Or.inl rfl
  apart slot _ _ _ := by
    cases slot <;> rfl

/-- For every sequence of calls on wrappers of one file object and of drops of
the boxes that they return: the contexts are owned properly in every state,
and no call about one field affects the other, if and only if a context is
only stored in a field that is null or whose context has been handed out, and
`context` and the references are only asked of a field that is null or whose
context has not been handed out. -/
theorem contexts_owned_iff (events : List Event) :
    (Always step Owned System.new events ∧
        EveryStep step SlotsApart System.new events) ↔
      Guarded step InOrder System.new events := by
  have preserved : ∀ system event next,
      Sound system → InOrder system event →
        step system event = some next → Sound next :=
    fun _ _ _ sound inOrder stepped =>
      (exact_step sound stepped).sound inOrder
  have exactly :=
    @always_iff_guarded _ _ step Sound Owned InOrder
      (fun _ sound => sound.owned) preserved
      (fun _ _ _ sound stepped => (exact_step sound stepped).needed)
      System.new events sound_new
  constructor
  · intro kept
    exact exactly.mp kept.1
  · intro guarded
    exact
      ⟨exactly.mpr guarded,
        everyStep_of_guarded preserved
          (fun _ _ _ sound _ => slotsApart_step sound) sound_new guarded⟩

def twoBoxes : List Event :=
  [.setContext 0x1000, .context, .context, .dropBox 0, .dropBox 0]

/-- Both boxes free the one context. -/
theorem twoBoxes_freesTwice :
    (∃ last, run step System.new twoBoxes = some last ∧
        last.boxes.issued = [⟨0x1000, 0⟩] ∧
        last.boxes.released = [⟨0x1000, 0⟩] ∧
        last.boxes.stray = [⟨0x1000, 0⟩]) ∧
      ¬ (Always step Owned System.new twoBoxes ∧
          EveryStep step SlotsApart System.new twoBoxes) := by
  refine ⟨⟨_, rfl, rfl, rfl, rfl⟩, ?_⟩
  intro kept
  have clean := (kept.1.last rfl).clean
  exact List.cons_ne_nil _ _ clean

end FileObject

end WinDrvUtils

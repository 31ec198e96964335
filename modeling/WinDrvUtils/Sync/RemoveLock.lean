import WinDrvUtils.Nt
import WinDrvUtils.Library.Ledger
import WinDrvUtils.Library.Parties
import WinDrvUtils.Library.StepSystem

/-!
# Remove locks

Many requests hold a remove lock at a time, each with a tag that its release
has to repeat. `WduRemoveLock` has one field for the tag. Every `acquire`
overwrites it, before the kernel is asked and also when the kernel refuses,
and every release takes its tag from the field and then sets it to none.

The tag reaches the kernel as a pointer, and no tag is the null pointer. So
the field does no harm while nobody uses tags; otherwise it can serve one
request at a time.
-/

namespace WinDrvUtils

namespace Sync

namespace RemoveLock

open StepSystem Parties

/-- The pointer that the kernel gets for a tag. -/
def tagPointer (tag : Option Nat) : Address :=
  tag.getD nullPtr

/-- The next step of a request. One that holds the lock comes with the tag
that the kernel got from it. -/
inductive Phase where
  | idle
  | acquiring
  | holding (tag : Address)
  | waiting
  | clearing
  deriving DecidableEq, Repr

/-- The request holds the lock, or has yet to clear the field. -/
def Phase.inside : Phase → Bool
  | .idle => false
  | .acquiring => false
  | _ => true

def Phase.tag : Phase → Option Address
  | .holding tag => some tag
  | _ => none

/-- `tags` are the kernel's: the tags of the acquires that it granted and of
the releases. -/
structure System (Request : Type) where
  lockTag : Option Nat
  tags : Ledger Address
  phases : Request → Phase

/-- The accesses of `acquire`, `release` and `release_and_wait`. The kernel
may refuse an acquire, and wakes `release_and_wait` when nobody holds the
lock any more. -/
inductive Event (Request : Type) where
  | storeTag (request : Request) (tag : Option Nat)
  | kernelAcquire (request : Request) (granted : Bool)
  | kernelRelease (request : Request)
  | kernelReleaseAndWait (request : Request)
  | wake (request : Request)
  | clearTag (request : Request)

variable {Request : Type}

def System.new : System Request :=
  ⟨none, Ledger.empty, fun _ => .idle⟩

variable [DecidableEq Request]

namespace System

def move (system : System Request) (request : Request) (phase : Phase) :
    System Request :=
  { system with phases := Function.update system.phases request phase }

/-- Both releases pass the tag of the field. -/
def release (system : System Request) (request : Request) (phase : Phase) :
    System Request :=
  { system.move request phase with
    tags := system.tags.release (tagPointer system.lockTag) }

end System

def step (system : System Request) :
    Event Request → Option (System Request)
  | .storeTag request tag =>
      match system.phases request with
      | .idle => some { system.move request .acquiring with lockTag := tag }
      | _ => none
  | .kernelAcquire request granted =>
      match system.phases request with
      | .acquiring =>
          if granted then
            let tag := tagPointer system.lockTag
            some
              { system.move request (.holding tag) with
                tags := system.tags.issue tag }
          else some (system.move request .idle)
      | _ => none
  | .kernelRelease request =>
      match system.phases request with
      | .holding _ => some (system.release request .clearing)
      | _ => none
  | .kernelReleaseAndWait request =>
      match system.phases request with
      | .holding _ => some (system.release request .waiting)
      | _ => none
  | .wake request =>
      match system.phases request with
      | .waiting =>
          if system.tags.live = [] then some (system.move request .clearing)
          else none
      | _ => none
  | .clearTag request =>
      match system.phases request with
      | .clearing => some { system.move request .idle with lockTag := none }
      | _ => none

/-- The tags that are outstanding are those with which requests hold the lock,
and no release passed a tag that was not outstanding. -/
def TagsPaired (system : System Request) : Prop :=
  ∃ holdings, Holdings Phase.tag system.phases holdings ∧
    system.tags.HeldBy (holdings.map Prod.snd)

/-- After a refused acquire the field has the tag of the requests that hold
the lock. -/
def RefusalKeepsTag (_ : System Request) (event : Event Request)
    (next : System Request) : Prop :=
  match event with
  | .kernelAcquire _ false =>
      ∀ other tag, next.phases other = .holding tag →
        tagPointer next.lockTag = tag
  | _ => True

/-- While another request holds the lock or has yet to clear the field, a
request stores the pointer that is in the field anyway, and is only granted
the lock if that is null. -/
def InTurn (system : System Request) : Event Request → Prop
  | .storeTag request tag =>
      OnlyBusy Phase.inside system.phases (some request) ∨
        tagPointer tag = tagPointer system.lockTag
  | .kernelAcquire request true =>
      OnlyBusy Phase.inside system.phases (some request) ∨
        tagPointer system.lockTag = nullPtr
  | _ => True

/-! ## The invariant -/

/-- The pointer in the field is the tag of a request that holds the lock. -/
def Phase.Records (pointer : Address) (phase : Phase) : Prop :=
  ∀ tag, phase = .holding tag → pointer = tag

/-- The field has the tag of all who hold the lock, and only one request is
inside when that is a tag at all. -/
structure Sound (system : System Request) : Prop where
  paired : TagsPaired system
  recorded : ∀ request,
    (system.phases request).Records (tagPointer system.lockTag)
  alone :
    tagPointer system.lockTag ≠ nullPtr →
      ∃ who, OnlyBusy Phase.inside system.phases who

section Steps

variable {system : System Request} {request : Request}

theorem records_update
    {phase : Phase} {pointer : Address} (here : phase.Records pointer)
    (others : ∀ other, other ≠ request →
      (system.phases other).Records pointer) :
    ∀ other,
      (Function.update system.phases request phase other).Records pointer :=
  (Function.forall_update_iff system.phases fun _ phase =>
    phase.Records pointer).mpr ⟨here, others⟩

/-- A step that neither takes nor gives back the lock leaves the tags
alone. -/
theorem paired_keep
    (paired : TagsPaired system) {next : Phase}
    (same : next.tag = (system.phases request).tag)
    (lockTag : Option Nat) :
    TagsPaired { system.move request next with lockTag := lockTag } := by
  obtain ⟨holdings, listed, held⟩ := paired
  exact ⟨holdings, listed.keep same, held⟩

theorem sound_storeTag
    (sound : Sound system) {tag : Option Nat}
    (phase : system.phases request = .idle)
    (inTurn : InTurn system (.storeTag request tag)) :
    Sound { system.move request .acquiring with lockTag := tag } := by
  have same : Phase.acquiring.tag = (system.phases request).tag := by
    rw [phase]
    rfl
  refine ⟨paired_keep sound.paired same tag, records_update nofun ?_, ?_⟩
  · intro other different otherTag holding
    rcases inTurn with alone | unchanged
    · have calm := alone.calm_of_ne different
      rw [holding] at calm
      cases calm
    · have recorded := sound.recorded other otherTag holding
      exact unchanged.trans recorded
  · intro notNull
    rcases inTurn with alone | unchanged
    · exact ⟨none, alone.leave rfl⟩
    · obtain ⟨who, only⟩ := sound.alone (unchanged ▸ notNull)
      exact ⟨who, only.update_idle rfl⟩

theorem sound_granted
    (sound : Sound system)
    (phase : system.phases request = .acquiring)
    (inTurn : InTurn system (.kernelAcquire request true)) :
    Sound
      { system.move request (.holding (tagPointer system.lockTag)) with
        tags := system.tags.issue (tagPointer system.lockTag) } := by
  obtain ⟨holdings, listed, held⟩ := sound.paired
  have gained :
      Holdings Phase.tag
        (Function.update system.phases request
          (.holding (tagPointer system.lockTag)))
        ((request, tagPointer system.lockTag) :: holdings) :=
    listed.gain (by rw [phase]; rfl) rfl
  refine ⟨⟨_, gained, held.issue _⟩, records_update ?_ ?_, ?_⟩
  · intro tag same
    exact Phase.holding.inj same
  · exact fun other _ => sound.recorded other
  · intro notNull
    have alone := inTurn.resolve_right notNull
    exact ⟨some request, alone.update⟩

/-- A step that neither takes nor gives back the lock. -/
theorem sound_move
    (sound : Sound system) {next : Phase}
    (before : (system.phases request).tag = none) (after : next.tag = none)
    (still : next.inside = true →
      (system.phases request).inside = true) :
    Sound (system.move request next) := by
  have same := after.trans before.symm
  have paired := paired_keep sound.paired same system.lockTag
  refine ⟨paired, records_update ?_ ?_, ?_⟩
  · intro tag same
    rw [same] at after
    cases after
  · exact fun other _ => sound.recorded other
  · intro notNull
    obtain ⟨who, only⟩ := sound.alone notNull
    cases inside : next.inside with
    | false => exact ⟨who, only.update_idle inside⟩
    | true => exact ⟨who, only.stay rfl (still inside)⟩

theorem sound_release
    (sound : Sound system) {tag : Address}
    (phase : system.phases request = .holding tag) {next : Phase}
    (nothing : next.tag = none) :
    Sound (system.release request next) := by
  obtain ⟨holdings, listed, held⟩ := sound.paired
  have recorded := sound.recorded request tag phase
  have mine : (system.phases request).tag = some tag := by
    rw [phase]
    rfl
  have lost :
      Holdings Phase.tag (Function.update system.phases request next)
        (holdings.erase (request, tag)) :=
    listed.lose mine nothing
  have member := (listed.mem_iff request tag).mpr mine
  refine ⟨⟨_, lost, ?_⟩, records_update ?_ ?_, ?_⟩
  · rw [System.release, recorded]
    apply held.release_of_perm
    exact (List.perm_cons_erase member).map Prod.snd
  · intro other same
    rw [same] at nothing
    cases nothing
  · exact fun other _ => sound.recorded other
  · intro notNull
    obtain ⟨who, only⟩ := sound.alone notNull
    exact ⟨who, only.stay phase rfl⟩

/-- The field is set to none when nobody else holds the lock with a tag. -/
theorem sound_clearTag
    (sound : Sound system) (phase : system.phases request = .clearing) :
    Sound { system.move request .idle with lockTag := none } := by
  have same : Phase.idle.tag = (system.phases request).tag := by
    rw [phase]
    rfl
  refine ⟨paired_keep sound.paired same none, records_update nofun ?_, ?_⟩
  · intro other different tag holding
    rw [← sound.recorded other tag holding]
    by_contra notNull
    obtain ⟨who, only⟩ := sound.alone (Ne.symm notNull)
    have alone := only.of_state phase rfl
    have calm := alone.calm_of_ne different
    rw [holding] at calm
    cases calm
  · exact fun notNull => absurd rfl notNull

end Steps

theorem sound_step
    {system next : System Request} {event : Event Request}
    (sound : Sound system) (inTurn : InTurn system event)
    (stepped : step system event = some next) :
    Sound next := by
  cases event with
  | storeTag request tag =>
      simp only [step] at stepped
      split at stepped
      · next phase =>
          cases stepped
          exact sound_storeTag sound phase inTurn
      · cases stepped
  | kernelAcquire request granted =>
      simp only [step] at stepped
      split at stepped
      · next phase =>
          cases granted with
          | true =>
              cases stepped
              exact sound_granted sound phase inTurn
          | false =>
              cases stepped
              exact sound_move sound (by rw [phase]; rfl) rfl nofun
      · cases stepped
  | kernelRelease request | kernelReleaseAndWait request =>
      simp only [step] at stepped
      split at stepped
      · next phase =>
          cases stepped
          exact sound_release sound phase rfl
      · cases stepped
  | wake request =>
      simp only [step] at stepped
      split at stepped
      · next phase =>
          split at stepped
          · cases stepped
            exact
              sound_move sound (by rw [phase]; rfl) rfl
                fun _ => by rw [phase]; rfl
          · cases stepped
      · cases stepped
  | clearTag request =>
      simp only [step] at stepped
      split at stepped
      · next phase =>
          cases stepped
          exact sound_clearTag sound phase
      · cases stepped

omit [DecidableEq Request] in
theorem sound_new : Sound (System.new : System Request) where
  paired := ⟨[], Holdings.nil fun _ => rfl, Ledger.heldBy_empty⟩
  recorded _ := nofun
  alone notNull := absurd rfl notNull

omit [DecidableEq Request] in
theorem refusalKeepsTag_of_sound
    (system : System Request) (event : Event Request)
    {next : System Request} (sound : Sound next) :
    RefusalKeepsTag system event next := by
  match event with
  | .kernelAcquire _ false => exact sound.recorded
  | .kernelAcquire _ true | .storeTag _ _ | .kernelRelease _
  | .kernelReleaseAndWait _ | .wake _ | .clearTag _ => trivial

/-- For any requests that share one remove lock and every interleaving of the
steps of `acquire`, `release` and `release_and_wait` in which requests that use
tags come one at a time: the tags of the releases are those of the acquires
that they release, and a refused acquire leaves the tag of the others in the
field. -/
theorem tags_paired
    (events : List (Event Request))
    (inTurn : Guarded step InTurn (System.new : System Request) events) :
    Always step TagsPaired (System.new : System Request) events ∧
      EveryStep step RefusalKeepsTag (System.new : System Request)
        events := by
  have preserved : ∀ (system : System Request) event next,
      Sound system → InTurn system event →
        step system event = some next → Sound next :=
    fun _ _ _ sound inTurn stepped => sound_step sound inTurn stepped
  refine ⟨?_, ?_⟩
  · exact
      (always_of_guarded preserved sound_new inTurn).mono
        fun _ sound => sound.paired
  · refine everyStep_of_guarded preserved ?_ sound_new inTurn
    intro system event next sound inTurn stepped
    exact
      refusalKeepsTag_of_sound system event
        (preserved system event next sound inTurn stepped)

def acquire (request : Nat) (tag : Option Nat) : List (Event Nat) :=
  [.storeTag request tag, .kernelAcquire request true]

def release (request : Nat) : List (Event Nat) :=
  [.kernelRelease request, .clearTag request]

theorem acquireAndRelease_paired :
    Always step TagsPaired (System.new : System Nat)
        (acquire 1 (some 0x41) ++ release 1) ∧
      EveryStep step RefusalKeepsTag (System.new : System Nat)
        (acquire 1 (some 0x41) ++ release 1) := by
  have alone : OnlyBusy Phase.inside (fun _ : Nat => Phase.idle) none :=
    fun _ busy => nomatch busy
  apply tags_paired _
  refine .cons rfl (Or.inl (alone.weaken _)) (.cons rfl (Or.inl ?_) ?_)
  · exact (alone.weaken (some 1)).update
  · exact .cons rfl trivial (.cons rfl trivial trivial)

/-- Two requests hold the lock with different tags. The second one to acquire
releases its own, and then the first one passes null. -/
theorem twoTags_mismatch :
    (∃ last,
        run step (System.new : System Nat)
            (acquire 1 (some 0x41) ++ acquire 2 (some 0x42) ++ release 2 ++
              release 1) =
          some last ∧
        last.tags.live = [0x41] ∧ last.tags.stray = [nullPtr]) ∧
      ¬ (Always step TagsPaired (System.new : System Nat)
            (acquire 1 (some 0x41) ++ acquire 2 (some 0x42) ++ release 2 ++
              release 1) ∧
          EveryStep step RefusalKeepsTag (System.new : System Nat)
            (acquire 1 (some 0x41) ++ acquire 2 (some 0x42) ++ release 2 ++
              release 1)) := by
  refine ⟨⟨_, rfl, rfl, rfl⟩, ?_⟩
  intro kept
  obtain ⟨_, _, held⟩ := kept.1.last rfl
  exact List.cons_ne_nil _ _ held.1

end RemoveLock

end Sync

end WinDrvUtils

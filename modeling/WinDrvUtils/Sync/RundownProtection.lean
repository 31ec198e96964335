import Mathlib.Data.List.Basic
import WinDrvUtils.Library.Ledger
import WinDrvUtils.Library.StepSystem

/-!
# Rundown protection

Any number of parties share a `WduRundownProtection`: each may acquire the
protection, several times or for several references at once, and has to
release each of them. `wait` lets nobody acquire any more and returns when
everything is released; `drop` waits as well.

The wrapper does not know who holds the protection. So a release that belongs
to nobody, or an initialization while somebody holds it, is not noticed, and
a party that waits while it holds the protection itself waits for ever.
-/

namespace WinDrvUtils

namespace Sync

/-- `EX_RUNDOWN_REF`, as far as its functions are documented: the references,
and whether the object is being run down or has been. -/
structure ExRundownRef where
  references : Nat
  active : Bool
  deriving DecidableEq, Repr

namespace ExRundownRef

/-- `Count: 0`, also `ExInitializeRundownProtection` and
`ExReInitializeRundownProtection`. -/
def zero : ExRundownRef := ⟨0, false⟩

def acquireEx (ref : ExRundownRef) (count : UInt32) : Bool × ExRundownRef :=
  if ref.active then (false, ref)
  else (true, { ref with references := ref.references + count.toNat })

def release (ref : ExRundownRef) : ExRundownRef :=
  { ref with references := ref.references - 1 }

def rundown (ref : ExRundownRef) : ExRundownRef :=
  { ref with active := true }

def completed : ExRundownRef := ⟨0, true⟩

end ExRundownRef

structure WduRundownProtection where
  runRef : ExRundownRef
  deriving DecidableEq, Repr

namespace WduRundownProtection

/-- Also `const_new` and `default`. -/
def new : WduRundownProtection := ⟨.zero⟩

def init (_ : WduRundownProtection) : WduRundownProtection := ⟨.zero⟩

def acquireEx (protection : WduRundownProtection) (count : UInt32) :
    Bool × WduRundownProtection :=
  let (granted, runRef) := protection.runRef.acquireEx count
  (granted, ⟨runRef⟩)

/-- `ExAcquireRundownProtection` asks for one reference. -/
def acquire (protection : WduRundownProtection) :
    Bool × WduRundownProtection :=
  let (granted, runRef) := protection.runRef.acquireEx 1
  (granted, ⟨runRef⟩)

def release (protection : WduRundownProtection) : WduRundownProtection :=
  ⟨protection.runRef.release⟩

/-- `wait` until it blocks. -/
def wait (protection : WduRundownProtection) : WduRundownProtection :=
  ⟨protection.runRef.rundown⟩

/-- Whether `wait` goes on. -/
def waited (protection : WduRundownProtection) : Bool :=
  protection.runRef.references == 0

def completed (_ : WduRundownProtection) : WduRundownProtection :=
  ⟨.completed⟩

def reinit (_ : WduRundownProtection) : WduRundownProtection := ⟨.zero⟩

end WduRundownProtection

namespace Rundown

open StepSystem

/-- `drop` waits as well, and the object is gone then. -/
inductive Phase where
  | idle
  | waiting
  | dropping
  deriving DecidableEq, Repr

/-- `held` has a party once for each reference that it holds. -/
structure System (Party : Type) where
  protection : WduRundownProtection
  held : Ledger Party
  phases : Party → Phase
  dropped : Bool

inductive Event (Party : Type) where
  | init (party : Party)
  | acquire (party : Party)
  | acquireEx (party : Party) (count : UInt32)
  | release (party : Party)
  | wait (party : Party)
  | waited (party : Party)
  | completed (party : Party)
  | reinit (party : Party)
  | drop (party : Party)
  | dropped (party : Party)

variable {Party : Type}

/-- The party whose event it is. -/
def Event.party : Event Party → Party
  | .init party | .acquire party | .acquireEx party _ | .release party
  | .wait party | .waited party | .completed party | .reinit party
  | .drop party | .dropped party => party

/-- In which phase a party comes to an event. -/
def Event.phase : Event Party → Phase
  | .waited _ => .waiting
  | .dropped _ => .dropping
  | _ => .idle

def System.new : System Party where
  protection := .new
  held := Ledger.empty
  phases := fun _ => .idle
  dropped := false

variable [DecidableEq Party]

namespace System

def move (system : System Party) (party : Party) (phase : Phase) :
    System Party :=
  { system with phases := Function.update system.phases party phase }

/-- The party holds as many references more, if they were granted. -/
def take (system : System Party) (party : Party) (count : Nat)
    (answer : Bool × WduRundownProtection) : System Party :=
  { system with
    protection := answer.2
    held :=
      if answer.1 then
        (List.replicate count party).foldl Ledger.issue system.held
      else system.held }

end System

def effect (system : System Party) :
    Event Party → Option (System Party)
  | .init _ => some { system with protection := system.protection.init }
  | .acquire party =>
      some (system.take party 1 system.protection.acquire)
  | .acquireEx party count =>
      some
        (system.take party count.toNat (system.protection.acquireEx count))
  | .release party =>
      some
        { system with
          protection := system.protection.release
          held := system.held.release party }
  | .wait party =>
      some
        { system.move party .waiting with
          protection := system.protection.wait }
  | .waited party =>
      if system.protection.waited then some (system.move party .idle)
      else none
  | .completed _ =>
      some { system with protection := system.protection.completed }
  | .reinit _ =>
      some { system with protection := system.protection.reinit }
  | .drop party =>
      some
        { system.move party .dropping with
          protection := system.protection.wait }
  | .dropped party =>
      if system.protection.waited then
        some { system.move party .idle with dropped := true }
      else none

/-- A party that is blocked does nothing else. -/
def step (system : System Party) (event : Event Party) :
    Option (System Party) :=
  if system.dropped ∨ system.phases event.party ≠ event.phase then none
  else effect system event

/-- The object counts the references that the parties hold, and nobody gave
back what it did not hold. -/
def Accounted (system : System Party) : Prop :=
  system.held.stray = [] ∧
    system.protection.runRef.references = system.held.live.length

/-- A release is of a party that holds the protection, and the object is
initialized or declared as run down while nobody does. -/
def InOrder (system : System Party) : Event Party → Prop
  | .release party => party ∈ system.held.live
  | .init _ | .completed _ | .reinit _ => system.held.live = []
  | .acquire _ | .acquireEx _ _ | .wait _ | .waited _ | .drop _
  | .dropped _ => True

/-- The event makes the protection available again. -/
def Event.restarts : Event Party → Bool
  | .init _ | .reinit _ => true
  | _ => false

/-- When a party has waited nobody holds the protection, and from the
beginning of the wait on nobody gets it. -/
structure Excludes (system : System Party) (event : Event Party)
    (next : System Party) : Prop where
  waited :
    (∃ party, event = .waited party ∨ event = .dropped party) →
      next.held.live = []
  active :
    system.protection.runRef.active = true → event.restarts = false →
      next.protection.runRef.active = true ∧
        ∀ party, next.held.live.count party ≤ system.held.live.count party

/-! ## The accounts -/

omit [DecidableEq Party] in
theorem foldl_issue_replicate (ledger : Ledger Party) (party : Party)
    (count : Nat) :
    ((List.replicate count party).foldl Ledger.issue ledger).stray =
        ledger.stray ∧
      ((List.replicate count party).foldl Ledger.issue ledger).live.length =
        ledger.live.length + count := by
  induction count generalizing ledger with
  | zero => exact ⟨rfl, rfl⟩
  | succ count inductionHypothesis =>
      obtain ⟨stray, live⟩ := inductionHypothesis (ledger.issue party)
      rw [List.replicate_succ, List.foldl_cons]
      refine ⟨stray, live.trans ?_⟩
      rw [Ledger.issue_live, List.length_cons]
      omega

section Steps

variable {system : System Party}

omit [DecidableEq Party] in
/-- What is taken is what was counted. -/
theorem accounted_take
    (accounted : Accounted system) (party : Party) (count : UInt32) :
    Accounted
      (system.take party count.toNat
        (system.protection.acquireEx count)) := by
  obtain ⟨clean, counted⟩ := accounted
  unfold System.take WduRundownProtection.acquireEx ExRundownRef.acquireEx
  by_cases active : system.protection.runRef.active = true
  · rw [if_pos active]
    exact ⟨clean, counted⟩
  · rw [if_neg active]
    obtain ⟨stray, live⟩ :=
      foldl_issue_replicate system.held party count.toNat
    refine ⟨stray.trans clean, ?_⟩
    show
      system.protection.runRef.references + count.toNat =
        ((List.replicate count.toNat party).foldl Ledger.issue
          system.held).live.length
    rw [live, counted]

omit [DecidableEq Party] in
/-- The count is set to zero. -/
theorem accounted_reset_iff
    (accounted : Accounted system) {protection : WduRundownProtection}
    (zero : protection.runRef.references = 0) :
    Accounted { system with protection := protection } ↔
      system.held.live = [] := by
  have counted :
      protection.runRef.references = system.held.live.length ↔
        system.held.live = [] := by
    rw [zero, eq_comm, List.length_eq_zero_iff]
  exact (and_iff_right accounted.1).trans counted

/-- A release by a party that holds nothing goes astray. -/
theorem accounted_release_iff
    (accounted : Accounted system) (party : Party) :
    Accounted
        { system with
          protection := system.protection.release
          held := system.held.release party } ↔
      party ∈ system.held.live := by
  constructor
  · intro after
    exact Ledger.mem_live_of_release_clean after.1
  · intro member
    refine ⟨(Ledger.release_stray_of_mem member).trans accounted.1, ?_⟩
    show
      system.protection.runRef.references - 1 =
        (system.held.release party).live.length
    rw [Ledger.release_live_of_mem member,
      List.length_erase_of_mem member, accounted.2]

theorem accounted_effect_iff
    {next : System Party} {event : Event Party}
    (accounted : Accounted system)
    (effected : effect system event = some next) :
    Accounted next ↔ InOrder system event := by
  cases event with
  | init party | completed party | reinit party =>
      cases effected
      exact accounted_reset_iff accounted rfl
  | acquire party =>
      cases effected
      exact iff_of_true (accounted_take accounted party 1) trivial
  | acquireEx party count =>
      cases effected
      exact iff_of_true (accounted_take accounted party count) trivial
  | release party =>
      cases effected
      exact accounted_release_iff accounted party
  | wait party | drop party =>
      cases effected
      exact iff_of_true accounted trivial
  | waited party | dropped party =>
      obtain ⟨_, effected⟩ := Option.ite_none_right_eq_some.mp effected
      cases effected
      exact iff_of_true accounted trivial

theorem effect_of_step
    {next : System Party} {event : Event Party}
    (stepped : step system event = some next) :
    system.dropped = false ∧
      system.phases event.party = event.phase ∧
      effect system event = some next := by
  obtain ⟨possible, effected⟩ := Option.ite_none_left_eq_some.mp stepped
  obtain ⟨alive, phase⟩ := not_or.mp possible
  exact ⟨Bool.eq_false_iff.mpr alive, not_not.mp phase, effected⟩

theorem step_of_effect
    {event : Event Party} (alive : system.dropped = false)
    (phase : system.phases event.party = event.phase) :
    step system event = effect system event := by
  unfold step
  rw [if_neg (by simp [alive, phase])]

end Steps

omit [DecidableEq Party] in
theorem accounted_new : Accounted (System.new : System Party) :=
  ⟨rfl, rfl⟩

theorem accounted_of_step (system : System Party) (event : Event Party)
    (next : System Party) (accounted : Accounted system)
    (inOrder : InOrder system event)
    (stepped : step system event = some next) :
    Accounted next := by
  obtain ⟨_, _, effected⟩ := effect_of_step stepped
  exact (accounted_effect_iff accounted effected).mpr inOrder

/-! ## While an object is run down -/

section Waiting

variable {system next : System Party} {event : Event Party}

omit [DecidableEq Party] in
theorem waited_iff (accounted : Accounted system) :
    system.protection.waited = true ↔ system.held.live = [] := by
  unfold WduRundownProtection.waited
  rw [beq_iff_eq, accounted.2, List.length_eq_zero_iff]

omit [DecidableEq Party] in
theorem take_of_active
    (active : system.protection.runRef.active = true) (party : Party)
    (count : Nat) (asked : UInt32) :
    system.take party count (system.protection.acquireEx asked) =
      system := by
  unfold System.take WduRundownProtection.acquireEx ExRundownRef.acquireEx
  rw [if_pos active]
  rfl

theorem count_release_le (ledger : Ledger Party) (party other : Party) :
    (ledger.release party).live.count other ≤ ledger.live.count other := by
  by_cases member : party ∈ ledger.live
  · rw [Ledger.release_live_of_mem member]
    exact List.erase_sublist.count_le other
  · exact
      Nat.le_of_eq
        (congrArg (List.count other) (Ledger.release_live_of_not_mem member))

theorem excludes_of_step
    (accounted : Accounted system)
    (stepped : step system event = some next) :
    Excludes system event next := by
  obtain ⟨_, _, effected⟩ := effect_of_step stepped
  cases event with
  | init party | reinit party =>
      refine ⟨fun ⟨_, ended⟩ => ?_, fun _ restarts => nomatch restarts⟩
      rcases ended with same | same <;> cases same
  | completed party | wait party | drop party =>
      cases effected
      refine ⟨fun ⟨_, ended⟩ => ?_, fun _ _ => ⟨rfl, fun _ => Nat.le_refl _⟩⟩
      rcases ended with same | same <;> cases same
  | acquire party =>
      cases effected
      refine ⟨fun ⟨_, ended⟩ => ?_, fun active _ => ?_⟩
      · rcases ended with same | same <;> cases same
      · have same := take_of_active active party 1 1
        exact
          ⟨(congrArg (·.protection.runRef.active) same).trans active,
            fun other =>
              Nat.le_of_eq (congrArg (·.held.live.count other) same)⟩
  | acquireEx party count =>
      cases effected
      refine ⟨fun ⟨_, ended⟩ => ?_, fun active _ => ?_⟩
      · rcases ended with same | same <;> cases same
      · rw [take_of_active active]
        exact ⟨active, fun _ => Nat.le_refl _⟩
  | release party =>
      cases effected
      refine ⟨fun ⟨_, ended⟩ => ?_, fun active _ => ⟨active, ?_⟩⟩
      · rcases ended with same | same <;> cases same
      · exact count_release_le system.held party
  | waited party | dropped party =>
      obtain ⟨nobody, effected⟩ := Option.ite_none_right_eq_some.mp effected
      cases effected
      exact
        ⟨fun _ => (waited_iff accounted).mp nobody,
          fun active _ => ⟨active, fun _ => Nat.le_refl _⟩⟩

/-- For any parties and every interleaving of their calls: the object counts
the references that they hold, and a wait excludes everybody until the object
is initialized again, if and only if nobody releases what it does not hold,
and the object is initialized or declared as run down only while nobody holds
it. -/
theorem rundown_excludes_iff (events : List (Event Party)) :
    (Always step Accounted (System.new : System Party) events ∧
        EveryStep step Excludes (System.new : System Party) events) ↔
      Guarded step InOrder (System.new : System Party) events := by
  have exact_iff :
      Always step Accounted (System.new : System Party) events ↔
        Guarded step InOrder (System.new : System Party) events := by
    refine
      always_iff_guarded (fun _ accounted => accounted) accounted_of_step
        (fun system event next accounted stepped after => ?_) accounted_new
    obtain ⟨_, _, effected⟩ := effect_of_step stepped
    exact (accounted_effect_iff accounted effected).mp after
  refine ⟨fun both => exact_iff.mp both.1, fun inOrder => ?_⟩
  exact
    ⟨exact_iff.mpr inOrder,
      everyStep_of_guarded accounted_of_step
        (fun _ _ _ accounted _ stepped =>
          excludes_of_step accounted stepped)
        accounted_new inOrder⟩

/-! ## Who waits -/

/-- While somebody holds the protection, whoever is blocked stays blocked. -/
theorem blocked_of_step
    (accounted : Accounted system) (holds : system.held.live ≠ [])
    (stepped : step system event = some next) {party : Party}
    (blocked : system.phases party ≠ .idle) :
    next.phases party = system.phases party := by
  obtain ⟨_, phase, effected⟩ := effect_of_step stepped
  cases event with
  | init other | completed other | reinit other | acquire other
  | acquireEx other count | release other =>
      cases effected
      rfl
  | wait other | drop other =>
      cases effected
      have different : party ≠ other := by
        rintro rfl
        exact blocked phase
      exact Function.update_of_ne different _ _
  | waited other | dropped other =>
      obtain ⟨nobody, _⟩ := Option.ite_none_right_eq_some.mp effected
      exact absurd ((waited_iff accounted).mp nobody) holds

omit [DecidableEq Party] in
theorem mem_foldl_issue {ledger : Ledger Party} {party : Party}
    (parties : List Party) (member : party ∈ ledger.live) :
    party ∈ (parties.foldl Ledger.issue ledger).live := by
  induction parties generalizing ledger with
  | nil => exact member
  | cons other rest inductionHypothesis =>
      exact inductionHypothesis (List.mem_cons_of_mem other member)

/-- What a blocked party holds it keeps. -/
theorem holds_of_step
    (stepped : step system event = some next) {party : Party}
    (holds : party ∈ system.held.live)
    (blocked : system.phases party ≠ .idle) :
    party ∈ next.held.live := by
  obtain ⟨_, phase, effected⟩ := effect_of_step stepped
  have taken : ∀ other count answer,
      party ∈ (system.take other count answer).held.live := by
    intro other count answer
    unfold System.take
    dsimp only
    split
    · exact mem_foldl_issue _ holds
    · exact holds
  cases event with
  | init other | completed other | reinit other | wait other | drop other =>
      cases effected
      exact holds
  | acquire other =>
      cases effected
      exact taken other _ _
  | acquireEx other count =>
      cases effected
      exact taken other _ _
  | release other =>
      cases effected
      have different : party ≠ other := by
        rintro rfl
        exact blocked phase
      exact Ledger.mem_live_release_of_ne holds different
  | waited other | dropped other =>
      obtain ⟨_, effected⟩ := Option.ite_none_right_eq_some.mp effected
      cases effected
      exact holds

/-- Behind a party that is blocked with the protection in its hands, everybody
who is blocked stays so for ever. -/
theorem blocked_forever
    {holder party : Party} {later : List (Event Party)}
    {last : System Party} (accounted : Accounted system)
    (holds : holder ∈ system.held.live)
    (holderBlocked : system.phases holder ≠ .idle)
    (blocked : system.phases party ≠ .idle)
    (inOrder : Guarded step InOrder system later)
    (reached : run step system later = some last) :
    last.phases party ≠ .idle := by
  induction later generalizing system with
  | nil =>
      cases reached
      exact blocked
  | cons event rest inductionHypothesis =>
      obtain ⟨next, stepped, reached⟩ := exists_of_run_cons reached
      obtain ⟨met, inOrder⟩ := inOrder next stepped
      obtain ⟨_, _, effected⟩ := effect_of_step stepped
      have some := List.ne_nil_of_mem holds
      have stays : ∀ other, system.phases other ≠ .idle →
          next.phases other ≠ .idle := by
        intro other otherBlocked
        rw [blocked_of_step accounted some stepped otherBlocked]
        exact otherBlocked
      exact
        inductionHypothesis ((accounted_effect_iff accounted effected).mpr met)
          (holds_of_step stepped holds holderBlocked)
          (stays holder holderBlocked) (stays party blocked) inOrder reached

/-- The end of what a party waits for. -/
def ending (party : Party) : Phase → Event Party
  | .dropping => .dropped party
  | _ => .waited party

/-- Once everything is released, a blocked party goes on. -/
theorem ends_of_empty
    (accounted : Accounted system) (alive : system.dropped = false)
    (empty : system.held.live = []) {party : Party}
    (blocked : system.phases party ≠ .idle) :
    ∃ last,
      step system (ending party (system.phases party)) = some last ∧
        last.phases party = .idle := by
  have nobody := (waited_iff accounted).mpr empty
  cases phase : system.phases party with
  | idle => exact absurd phase blocked
  | waiting =>
      have stepped :
          step system (.waited party) = effect system (.waited party) :=
        step_of_effect alive phase
      exact
        ⟨system.move party .idle, stepped.trans (if_pos nobody),
          Function.update_self _ _ _⟩
  | dropping =>
      have stepped :
          step system (.dropped party) = effect system (.dropped party) :=
        step_of_effect alive phase
      exact
        ⟨{ system.move party .idle with dropped := true },
          stepped.trans (if_pos nobody), Function.update_self _ _ _⟩

/-- If nobody who holds the protection is blocked, all release it. -/
theorem ends_of_idle
    (accounted : Accounted system) (alive : system.dropped = false)
    (idle : ∀ holder ∈ system.held.live, system.phases holder = .idle)
    {party : Party} (blocked : system.phases party ≠ .idle) :
    ∃ later last,
      Guarded step InOrder system later ∧
        run step system later = some last ∧ last.phases party = .idle := by
  generalize live : system.held.live = holders at idle
  induction holders generalizing system with
  | nil =>
      obtain ⟨last, stepped, ended⟩ :=
        ends_of_empty accounted alive live blocked
      refine ⟨[_], last, ?_, run_cons_of_step [] stepped, ended⟩
      refine .cons stepped ?_ trivial
      cases system.phases party <;> trivial
  | cons holder rest inductionHypothesis =>
      let next : System Party :=
        { system with
          protection := system.protection.release
          held := system.held.release holder }
      have member : holder ∈ system.held.live := by
        rw [live]
        exact List.mem_cons_self
      have stepped : step system (.release holder) = some next :=
        step_of_effect alive (idle holder List.mem_cons_self)
      have fewer : next.held.live = rest := by
        show (system.held.release holder).live = rest
        rw [Ledger.release_live_of_mem member, live, List.erase_cons_head]
      obtain ⟨later, last, inOrder, reached, ended⟩ :=
        @inductionHypothesis next
          ((accounted_release_iff accounted holder).mpr member) alive blocked
          fewer
          (fun other otherMember =>
            idle other (List.mem_cons_of_mem holder otherMember))
      exact
        ⟨.release holder :: later, last, .cons stepped member inOrder,
          (run_cons_of_step later stepped).trans reached, ended⟩

/-- For any parties and every interleaving of their calls, from a state that
is reached in order and in which the object was not dropped: a party that is
blocked in `wait` or `drop` can go on if and only if nobody who holds the
protection is blocked, in particular not the party itself. -/
theorem blocked_returns_iff
    {events : List (Event Party)}
    (inOrder : Guarded step InOrder (System.new : System Party) events)
    (reached : run step System.new events = some system)
    (alive : system.dropped = false) {party : Party}
    (blocked : system.phases party ≠ .idle) :
    (∃ later last,
        Guarded step InOrder system later ∧
          run step system later = some last ∧ last.phases party = .idle) ↔
      ∀ holder ∈ system.held.live, system.phases holder = .idle := by
  have accounted : Accounted system :=
    (always_of_guarded accounted_of_step accounted_new inOrder).last reached
  constructor
  · rintro ⟨later, last, metLater, reachedLast, ended⟩ holder holds
    by_contra holderBlocked
    exact
      blocked_forever accounted holds holderBlocked blocked metLater
        reachedLast ended
  · intro idle
    exact ends_of_idle accounted alive idle blocked

end Waiting

/-- One party waits for another one. -/
def waitForOther : List (Event Nat) :=
  [.acquire 1, .wait 2]

theorem waitForOther_returns :
    ∃ system,
      run step (System.new : System Nat) waitForOther = some system ∧
        ((∃ later last,
            Guarded step InOrder system later ∧
              run step system later = some last ∧ last.phases 2 = .idle) ↔
          ∀ holder ∈ system.held.live, system.phases holder = .idle) := by
  have inOrder :
      Guarded step InOrder (System.new : System Nat) waitForOther :=
    fun _ _ => ⟨trivial, fun _ _ => ⟨trivial, trivial⟩⟩
  exact ⟨_, rfl, blocked_returns_iff inOrder rfl rfl (by decide)⟩

end Rundown

end Sync

end WinDrvUtils

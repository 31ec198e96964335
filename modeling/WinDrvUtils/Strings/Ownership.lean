import WinDrvUtils.Strings.Conversion
import WinDrvUtils.Library.StepSystem

/-!
# Who owns the buffers of strings

A driver makes strings in every way there is and drops them in any order; each
allocator and each kernel routine may refuse. `BuffersOwned` says that the
blocks which are allocated are those that the strings it still has will
release, each with its own deallocator.

Two constructors lose a block. `copy` boxes a vector and remembers the box
only, so it keeps its blocks exactly when the vector has none. The
constructors that let the kernel allocate take a success with another code
than `STATUS_SUCCESS` for a failure, and drop a string that releases nothing.
-/

namespace WinDrvUtils

/-! ## Blocks -/

/-- The block that an allocator hands out; null is a refusal. -/
def Allocator.granted (allocator : Allocator) (answer : Address) :
    List Block :=
  if answer = nullPtr then [] else [⟨answer, allocator⟩]

theorem Allocator.granted_of_ne
    {answer : Address} (allocator : Allocator) (granted : answer ≠ nullPtr) :
    allocator.granted answer = [⟨answer, allocator⟩] :=
  if_neg granted

def Vec16.blocks (vec : Vec16) : List Block :=
  if vec.capacity = 0 then [] else [⟨vec.pointer, .rust⟩]

namespace WduUnicodeString

/-- The block that the drop of a string releases. -/
def ownedBlocks (string : WduUnicodeString) : List Block :=
  match string.alloc with
  | none => []
  | some .os => Allocator.rtl.granted string.string.buffer
  | some .rust => [⟨string.string.buffer, .rust⟩]
  | some .pool => [⟨string.string.buffer, .exPool stringAllocTag⟩]

def resultBlocks : WduUnicodeResult WduUnicodeString → List Block
  | .error _ => []
  | .ok string => string.ownedBlocks

end WduUnicodeString

/-- The buffer that a kernel routine has allocated when it returns. -/
def KernelString.blocks (answer : KernelString) : List Block :=
  if ntSuccess answer.status then
    Allocator.rtl.granted answer.string.buffer
  else []

/-- A kernel routine that allocated a buffer has answered with the one code
that the crate takes for success. -/
def KernelString.Kept (answer : KernelString) : Prop :=
  PlainStatus answer.status ∨ answer.string.buffer = nullPtr

section Holdings

variable {memory : Memory} {held : List Block}

theorem heldBy_allocate
    (owned : memory.blocks.HeldBy held) (allocator : Allocator)
    (size : Nat) (answer : Address) :
    (memory.allocate allocator size answer).blocks.HeldBy
      (allocator.granted answer ++ held) := by
  unfold Memory.allocate Allocator.granted
  split
  · exact owned
  · exact owned.issue _

theorem heldBy_memoryAfter
    (owned : memory.blocks.HeldBy held) (answer : KernelString) :
    (answer.memoryAfter memory).blocks.HeldBy (answer.blocks ++ held) := by
  unfold KernelString.memoryAfter KernelString.blocks
  split
  · exact
      @heldBy_allocate { memory with units := answer.units } held owned .rtl
        answer.string.maximumLength.toNat answer.string.buffer
  · exact owned

theorem heldBy_vecDrop
    (vec : Vec16) (owned : memory.blocks.HeldBy (vec.blocks ++ held)) :
    (vec.drop memory).blocks.HeldBy held := by
  by_cases empty : vec.capacity = 0
  · rw [Vec16.blocks, if_pos empty] at owned
    rwa [Vec16.drop, if_pos empty]
  · rw [Vec16.blocks, if_neg empty] at owned
    rw [Vec16.drop, if_neg empty]
    exact owned.release_of_perm (List.Perm.refl _)

/-- A drop releases the block of the string, and with the deallocator that
it came from. -/
theorem heldBy_stringDrop
    (string : WduUnicodeString)
    (owned : memory.blocks.HeldBy (string.ownedBlocks ++ held)) :
    (string.drop memory).blocks.HeldBy held := by
  obtain ⟨⟨length, maximumLength, buffer⟩, alloc⟩ := string
  cases alloc with
  | none =>
      exact owned
  | some alloc =>
      cases alloc with
      | os =>
          by_cases empty : buffer = nullPtr
          · simpa [WduUnicodeString.drop, rtlFreeUnicodeString,
              WduUnicodeString.ownedBlocks, Allocator.granted, empty]
              using owned
          · simp only [WduUnicodeString.ownedBlocks,
              Allocator.granted_of_ne _ empty] at owned
            simp only [WduUnicodeString.drop, rtlFreeUnicodeString,
              if_neg empty]
            exact owned.release_of_perm (List.Perm.refl _)
      | rust =>
          exact owned.release_of_perm (List.Perm.refl _)
      | pool =>
          exact owned.release_of_perm (List.Perm.refl _)

end Holdings

/-! ## Constructors -/

namespace WduUnicodeString

section Constructors

variable {memory : Memory} {held : List Block}

theorem heldBy_create
    (owned : memory.blocks.HeldBy held) (source : Slice)
    (poolType : PoolFlags) (answer : Address)
    {result : WduUnicodeResult WduUnicodeString} {after : Memory}
    (returned : create source poolType answer memory = .ok (result, after)) :
    after.blocks.HeldBy (resultBlocks result ++ held) := by
  have allocated :=
    heldBy_allocate owned (.exPool stringAllocTag)
      (toUnicodeLen source.len).toNat answer
  rw [create_eq source (takesPool_of_create returned)] at returned
  by_cases refused : answer = nullPtr
  · rw [if_pos refused] at returned
    cases returned
    rwa [Allocator.granted, if_pos refused] at allocated
  · rw [if_neg refused] at returned
    cases returned
    rwa [Allocator.granted_of_ne _ refused] at allocated

theorem heldBy_createFrom
    (value : Vec16) (owned : memory.blocks.HeldBy (value.blocks ++ held))
    (poolType : PoolFlags) (answer : Address)
    {result : WduUnicodeResult WduUnicodeString} {after : Memory}
    (returned :
      createFrom value poolType answer memory = .ok (result, after)) :
    after.blocks.HeldBy (resultBlocks result ++ held) := by
  unfold createFrom at returned
  split at returned
  · cases returned
  · next made created =>
      cases returned
      have both :=
        heldBy_create owned value.asSlice poolType answer created
      exact heldBy_vecDrop value (both.perm (List.perm_append_comm_assoc _ _ _))

theorem heldBy_fromStr
    (owned : memory.blocks.HeldBy held) (tryNonPaged : Bool) (s : String)
    (vecAnswer answer : Address)
    {result : WduUnicodeResult WduUnicodeString} {after : Memory}
    (returned :
      fromStr tryNonPaged s vecAnswer answer memory = .ok (result, after)) :
    after.blocks.HeldBy (resultBlocks result ++ held) := by
  unfold fromStr tryFromStr at returned
  generalize Utf16.encode s.toList = units at returned
  by_cases refused : units.length * 2 ≠ 0 ∧ vecAnswer = nullPtr
  · rw [if_pos refused] at returned
    cases returned
    exact owned
  · rw [if_neg refused] at returned
    refine heldBy_createFrom _ ?_ _ answer returned
    by_cases empty : units.length * 2 = 0
    · simpa [Vec16.blocks, extendBuffer, empty] using owned
    · have granted : vecAnswer ≠ nullPtr :=
        fun null => refused ⟨empty, null⟩
      have extended :=
        heldBy_allocate owned .rust (units.length * 2 * 2) vecAnswer
      rw [Allocator.granted_of_ne _ granted] at extended
      rw [Vec16.blocks, if_neg empty, extendBuffer, if_neg empty]
      exact extended

theorem heldBy_tryFromInteger
    (owned : memory.blocks.HeldBy held) (maxLen : UInt16)
    (answer : Address) (integer : IntegerAnswer) :
    (tryFromInteger maxLen answer integer memory).2.blocks.HeldBy
      (resultBlocks (tryFromInteger maxLen answer integer memory).1 ++
        held) := by
  have allocated :=
    heldBy_allocate owned (.exPool stringAllocTag) maxLen.toNat answer
  by_cases refused : answer = nullPtr
  · rw [Allocator.granted, if_pos refused] at allocated
    rw [tryFromInteger, if_pos refused]
    exact allocated
  · rw [Allocator.granted_of_ne _ refused] at allocated
    rw [tryFromInteger, if_neg refused]
    by_cases failed : integer.status ≠ statusSuccess
    · rw [if_pos failed]
      exact heldBy_stringDrop _ allocated
    · rw [if_neg failed]
      exact allocated

/-- What a failed routine has allocated is lost. -/
theorem blocks_eq_nil_iff_kept
    {answer : KernelString} (failed : answer.status ≠ statusSuccess) :
    answer.blocks = [] ↔ answer.Kept := by
  unfold KernelString.blocks KernelString.Kept
  by_cases success : ntSuccess answer.status
  · have notPlain := not_plainStatus success failed
    rw [if_pos success, Allocator.granted]
    simp [notPlain]
  · rw [if_neg success]
    exact iff_of_true rfl (Or.inl fun done => absurd done success)

/-- A constructor that lets the kernel allocate loses the buffer of a success
that it takes for a failure. -/
theorem heldBy_fromKernel_iff
    (owned : memory.blocks.HeldBy held) (answer : KernelString) :
    (fromKernel answer memory).2.blocks.HeldBy
        (resultBlocks (fromKernel answer memory).1 ++ held) ↔
      answer.Kept := by
  have allocated := heldBy_memoryAfter owned answer
  unfold fromKernel
  by_cases failed : answer.status ≠ statusSuccess
  · rw [if_pos failed]
    exact allocated.iff_nil_of_append.trans (blocks_eq_nil_iff_kept failed)
  · rw [if_neg failed]
    have done : answer.status = statusSuccess := not_not.mp failed
    rw [KernelString.blocks, done, if_pos ntSuccess_statusSuccess]
      at allocated
    exact iff_of_true allocated (Or.inl fun _ => done)

/-- `copy` loses the block of its vector, if that has one. -/
theorem heldBy_copy_iff
    (owned : memory.blocks.HeldBy held) (source : WduUnicodeString)
    (vecAnswer boxAnswer : Address)
    {string : WduUnicodeString} {after : Memory}
    (returned :
      source.copy vecAnswer boxAnswer memory = .ok (string, after)) :
    after.blocks.HeldBy (string.ownedBlocks ++ held) ↔ source.len = 0 := by
  unfold copy at returned
  by_cases refused :
    (source.len ≠ 0 ∧ vecAnswer = nullPtr) ∨ boxAnswer = nullPtr
  · rw [if_pos refused] at returned
    cases returned
  · rw [if_neg refused] at returned
    obtain ⟨vecGranted, boxGranted⟩ := not_or.mp refused
    by_cases empty : source.len = 0
    · rw [if_pos empty] at returned
      cases returned
      have boxed := heldBy_allocate owned .rust sizeOfVec boxAnswer
      rw [Allocator.granted_of_ne _ boxGranted] at boxed
      exact iff_of_true boxed empty
    · rw [if_neg empty] at returned
      cases returned
      have filled :=
        heldBy_allocate owned .rust (source.len.toNat * 2) vecAnswer
      have boxed :=
        @heldBy_allocate
          { memory.allocate .rust (source.len.toNat * 2) vecAnswer with
            units :=
              writeUnits memory.units vecAnswer
                (List.replicate source.len.toNat 0) }
          _ filled .rust sizeOfVec boxAnswer
      rw [Allocator.granted_of_ne _ boxGranted,
        Allocator.granted_of_ne _ fun null => vecGranted ⟨empty, null⟩]
        at boxed
      have exposed := boxed.perm (List.perm_append_comm_assoc _ _ _)
      exact
        exposed.iff_nil_of_append.trans
          (iff_of_false (List.cons_ne_nil _ _) empty)

theorem heldBy_new_iff
    (owned : memory.blocks.HeldBy held) (source : UnicodeString)
    (vecAnswer boxAnswer : Address)
    {string : WduUnicodeString} {after : Memory}
    (returned :
      new source vecAnswer boxAnswer memory = .ok (string, after)) :
    after.blocks.HeldBy (string.ownedBlocks ++ held) ↔
      source.length / 2 = 0 := by
  unfold new at returned
  split at returned
  · cases returned
  · next made cloned =>
      cases returned
      exact
        heldBy_copy_iff owned (wrap (some source)) vecAnswer boxAnswer cloned

end Constructors

end WduUnicodeString

/-! ## A driver and its strings -/

namespace Source

/-- Memory when the conversion begins. The block of a vector came into the
world for it, since the conversion takes the vector. -/
def arrive (source : Source) (memory : Memory) : Memory :=
  match source with
  | vec value =>
      if value.capacity = 0 then memory
      else
        { memory with
          sizes :=
            Function.update memory.sizes value.pointer (value.capacity * 2)
          blocks := memory.blocks.issue ⟨value.pointer, .rust⟩ }
  | _ => memory

def Kept (source : Source) (answers : Answers) : Prop :=
  match source with
  | bytes value => (answers.kernel (WduUnicodeString.toldBytes value)).Kept
  | _ => True

theorem heldBy_arrive
    {memory : Memory} {held : List Block}
    (owned : memory.blocks.HeldBy held) (value : Vec16) :
    ((vec value).arrive memory).blocks.HeldBy (value.blocks ++ held) := by
  by_cases empty : value.capacity = 0
  · rw [arrive, Vec16.blocks, if_pos empty, if_pos empty]
    exact owned
  · rw [arrive, Vec16.blocks, if_neg empty, if_neg empty]
    exact owned.issue _

open WduUnicodeString in
theorem heldBy_convert_iff
    {memory : Memory} {held : List Block}
    (owned : memory.blocks.HeldBy held) (source : Source)
    (tryNonPaged : Bool) (answers : Answers)
    {result : WduUnicodeResult WduUnicodeString} {after : Memory}
    (returned :
      source.convert tryNonPaged answers (source.arrive memory) =
        .ok (result, after)) :
    after.blocks.HeldBy (resultBlocks result ++ held) ↔
      source.Kept answers := by
  cases source with
  | vec value =>
      have arrived := heldBy_arrive owned value
      exact
        iff_of_true (heldBy_createFrom value arrived _ _ returned) trivial
  | slice _ | utf16Str _ | u16CStr _ | unicodeStr _ =>
      exact iff_of_true (heldBy_create owned _ _ _ returned) trivial
  | fromStr value | str value =>
      exact iff_of_true (heldBy_fromStr owned _ value _ _ returned) trivial
  | bytes value =>
      have made :=
        heldBy_fromKernel_iff owned
          (answers.kernel (toldBytes value)).toKernelString
      rwa [show fromKernel _ memory = (result, after) from
        Except.ok.inj returned] at made

end Source

namespace Strings

open StepSystem

/-- The strings that the driver has not dropped. -/
structure System where
  memory : Memory
  strings : List WduUnicodeString

/-- A call that the driver makes, with the answers of the allocators and of
the kernel. A string that a method is called on, or that is dropped, is
named by its place in the list. -/
inductive Event where
  | create (source : Slice) (poolType : PoolFlags) (answer : Address)
  | convert (source : Source) (answers : Answers)
  | tryFromU32 (answer : Address) (integer : IntegerAnswer)
  | tryFromU64 (answer : Address) (integer : IntegerAnswer)
  | clone (index : Nat) (vecAnswer boxAnswer : Address)
  | new (source : UnicodeString) (vecAnswer boxAnswer : Address)
  | duplicate (index : Nat) (answer : KernelString)
  | newLower (index : Nat) (answer : KernelString)
  | newUpper (index : Nat) (answer : KernelString)
  | wrap (source : Option UnicodeString)
  | drop (index : Nat)

namespace System

def new (units : Address → UInt16) : System :=
  ⟨⟨units, fun _ => 0, Ledger.empty⟩, []⟩

/-- The driver keeps the string that it gets, if it gets one. A panic ends
the run. -/
def keep (system : System)
    (outcome : Except Panic (WduUnicodeResult WduUnicodeString × Memory)) :
    Option System :=
  match outcome with
  | .error _ => none
  | .ok (.error _, memory) => some { system with memory := memory }
  | .ok (.ok string, memory) => some ⟨memory, string :: system.strings⟩

def keepMade (system : System)
    (outcome : Except Panic (WduUnicodeString × Memory)) : Option System :=
  match outcome with
  | .error _ => none
  | .ok (string, memory) => some ⟨memory, string :: system.strings⟩

def owned (system : System) : List Block :=
  system.strings.flatMap WduUnicodeString.ownedBlocks

end System

def step (tryNonPaged : Bool) (system : System) : Event → Option System
  | .create source poolType answer =>
      system.keep
        (WduUnicodeString.create source poolType answer system.memory)
  | .convert source answers =>
      system.keep
        (source.convert tryNonPaged answers (source.arrive system.memory))
  | .tryFromU32 answer integer =>
      system.keep
        (.ok (WduUnicodeString.tryFromU32 answer integer system.memory))
  | .tryFromU64 answer integer =>
      system.keep
        (.ok (WduUnicodeString.tryFromU64 answer integer system.memory))
  | .clone index vecAnswer boxAnswer =>
      system.strings[index]?.bind fun string =>
        system.keepMade (string.clone vecAnswer boxAnswer system.memory)
  | .new source vecAnswer boxAnswer =>
      system.keepMade
        (WduUnicodeString.new source vecAnswer boxAnswer system.memory)
  | .duplicate index answer =>
      system.strings[index]?.bind fun _ =>
        system.keep (.ok (WduUnicodeString.duplicate answer system.memory))
  | .newLower index answer =>
      system.strings[index]?.bind fun _ =>
        system.keep (.ok (WduUnicodeString.newLower answer system.memory))
  | .newUpper index answer =>
      system.strings[index]?.bind fun _ =>
        system.keep (.ok (WduUnicodeString.newUpper answer system.memory))
  | .wrap source =>
      system.keepMade (.ok (WduUnicodeString.wrap source, system.memory))
  | .drop index =>
      system.strings[index]?.map fun string =>
        ⟨string.drop system.memory, system.strings.eraseIdx index⟩

/-- Every block that is allocated is the one that some string will release,
with its deallocator, and no release ever was of a block that was not
allocated. So once there are no strings, every block was released as often as
it was allocated. -/
structure BuffersOwned (system : System) : Prop where
  held : system.memory.blocks.HeldBy system.owned
  settled :
    system.strings = [] →
      ∀ block,
        system.memory.blocks.released.count block =
          system.memory.blocks.issued.count block

/-- The drop of a string that wraps another one changes nothing. -/
def WrapsReleaseNothing (system : System) (event : Event)
    (next : System) : Prop :=
  match event with
  | .drop index =>
      ∀ string, system.strings[index]? = some string →
        (∃ source, string = WduUnicodeString.wrap source) →
          next.memory = system.memory
  | _ => True

/-- The calls that lose no block. -/
def InOrder (system : System) : Event → Prop
  | .convert source answers => source.Kept answers
  | .clone index _ _ =>
      ∀ string, system.strings[index]? = some string → string.len = 0
  | .new source _ _ => source.length / 2 = 0
  | .duplicate _ answer | .newLower _ answer | .newUpper _ answer =>
      answer.Kept
  | _ => True

/-! ### What one call does to the blocks -/

theorem buffersOwned_iff (system : System) :
    BuffersOwned system ↔ system.memory.blocks.HeldBy system.owned := by
  constructor
  · exact BuffersOwned.held
  · intro held
    refine ⟨held, fun none => Ledger.count_eq_of_live_nil ?_⟩
    have nothing := held.2
    rw [System.owned, none, List.flatMap_nil] at nothing
    exact nothing.eq_nil

section Calls

variable {system next : System} {condition : Prop}

/-- A call keeps the blocks owned exactly under a condition, if what it
returns has its blocks held exactly under that condition. -/
theorem buffersOwned_of_keep
    {outcome : Except Panic (WduUnicodeResult WduUnicodeString × Memory)}
    (kept : system.keep outcome = some next)
    (spec :
      ∀ result after,
        outcome = .ok (result, after) →
          (after.blocks.HeldBy
              (WduUnicodeString.resultBlocks result ++ system.owned) ↔
            condition)) :
    BuffersOwned next ↔ condition := by
  apply (buffersOwned_iff next).trans
  match outcome, kept with
  | .ok (.error error, memory), rfl => exact spec (.error error) memory rfl
  | .ok (.ok string, memory), rfl => exact spec (.ok string) memory rfl

theorem buffersOwned_of_keep_ok
    {made : WduUnicodeResult WduUnicodeString × Memory}
    (kept : system.keep (.ok made) = some next)
    (spec :
      made.2.blocks.HeldBy
          (WduUnicodeString.resultBlocks made.1 ++ system.owned) ↔
        condition) :
    BuffersOwned next ↔ condition := by
  refine buffersOwned_of_keep kept fun result after returned => ?_
  cases Except.ok.inj returned
  exact spec

theorem buffersOwned_of_keepMade
    {outcome : Except Panic (WduUnicodeString × Memory)}
    (kept : system.keepMade outcome = some next)
    (spec :
      ∀ string after,
        outcome = .ok (string, after) →
          (after.blocks.HeldBy (string.ownedBlocks ++ system.owned) ↔
            condition)) :
    BuffersOwned next ↔ condition := by
  apply (buffersOwned_iff next).trans
  match outcome, kept with
  | .ok (string, memory), rfl => exact spec string memory rfl

theorem owned_perm_of_getElem?
    {index : Nat} {string : WduUnicodeString}
    (found : system.strings[index]? = some string) :
    system.owned.Perm
      (string.ownedBlocks ++
        (system.strings.eraseIdx index).flatMap
          WduUnicodeString.ownedBlocks) := by
  obtain ⟨inside, rfl⟩ := List.getElem?_eq_some_iff.mp found
  exact
    (List.getElem_cons_eraseIdx_perm inside).symm.flatMap_right
      WduUnicodeString.ownedBlocks

theorem buffersOwned_of_kernel
    (owned : BuffersOwned system) {index : Nat} {answer : KernelString}
    (stepped :
      (system.strings[index]?.bind fun _ =>
          system.keep
            (.ok (WduUnicodeString.fromKernel answer system.memory))) =
        some next) :
    BuffersOwned next ↔ answer.Kept := by
  obtain ⟨_, _, kept⟩ := Option.bind_eq_some_iff.mp stepped
  exact
    buffersOwned_of_keep_ok kept
      (WduUnicodeString.heldBy_fromKernel_iff owned.held answer)

theorem buffersOwned_of_integer
    (owned : BuffersOwned system) (maxLen : UInt16) {answer : Address}
    {integer : IntegerAnswer}
    (kept :
      system.keep
          (.ok
            (WduUnicodeString.tryFromInteger maxLen answer integer
              system.memory)) =
        some next) :
    BuffersOwned next := by
  refine (buffersOwned_of_keep_ok kept (iff_true_intro ?_)).mpr trivial
  exact
    WduUnicodeString.heldBy_tryFromInteger owned.held maxLen answer integer

end Calls

/-- A call that can happen keeps the blocks owned exactly when it is in
order. -/
theorem buffersOwned_step_iff
    {tryNonPaged : Bool} {system next : System} {event : Event}
    (owned : BuffersOwned system)
    (stepped : step tryNonPaged system event = some next) :
    BuffersOwned next ↔ InOrder system event := by
  cases event with
  | create source poolType answer =>
      refine buffersOwned_of_keep stepped fun result after returned => ?_
      exact
        iff_true_intro <|
          WduUnicodeString.heldBy_create owned.held source poolType answer
            returned
  | convert source answers =>
      refine buffersOwned_of_keep stepped fun result after returned => ?_
      exact
        source.heldBy_convert_iff owned.held tryNonPaged answers returned
  | tryFromU32 answer integer =>
      exact iff_true_intro (buffersOwned_of_integer owned _ stepped)
  | tryFromU64 answer integer =>
      exact iff_true_intro (buffersOwned_of_integer owned _ stepped)
  | clone index vecAnswer boxAnswer =>
      obtain ⟨source, found, kept⟩ := Option.bind_eq_some_iff.mp stepped
      have here : InOrder system (.clone index vecAnswer boxAnswer) ↔
          source.len = 0 := by
        simp [InOrder, found]
      rw [here]
      refine buffersOwned_of_keepMade kept fun string after returned => ?_
      exact
        WduUnicodeString.heldBy_copy_iff owned.held source vecAnswer
          boxAnswer returned
  | new source vecAnswer boxAnswer =>
      refine
        buffersOwned_of_keepMade stepped fun string after returned => ?_
      exact
        WduUnicodeString.heldBy_new_iff owned.held source vecAnswer boxAnswer
          returned
  | duplicate index answer =>
      exact buffersOwned_of_kernel owned stepped
  | newLower index answer =>
      exact buffersOwned_of_kernel owned stepped
  | newUpper index answer =>
      exact buffersOwned_of_kernel owned stepped
  | wrap source =>
      have kept :
          system.keepMade
              (.ok (WduUnicodeString.wrap source, system.memory)) =
            some next := stepped
      apply buffersOwned_of_keepMade kept
      intro string after returned
      cases returned
      cases source <;> exact iff_true_intro owned.held
  | drop index =>
      obtain ⟨string, found, rfl⟩ := Option.map_eq_some_iff.mp stepped
      have exposed := owned.held.perm (owned_perm_of_getElem? found)
      have dropped := heldBy_stringDrop string exposed
      exact iff_true_intro ((buffersOwned_iff _).mpr dropped)

theorem wrapsReleaseNothing_of_step
    {tryNonPaged : Bool} {system next : System} {event : Event}
    (stepped : step tryNonPaged system event = some next) :
    WrapsReleaseNothing system event next := by
  cases event with
  | drop index =>
      intro string found given
      obtain ⟨source, rfl⟩ := given
      obtain ⟨_, same, rfl⟩ := Option.map_eq_some_iff.mp stepped
      rw [found] at same
      cases same
      cases source <;> rfl
  | _ => trivial

theorem buffersOwned_new (units : Address → UInt16) :
    BuffersOwned (System.new units) :=
  (buffersOwned_iff _).mpr Ledger.heldBy_empty

/-- For every run that makes strings and drops them: in every state every
allocated block is the one of some string, and is released exactly once and
with its own deallocator, and strings that wrap others release nothing, if
and only if only strings without units are cloned and no kernel routine that
allocated a buffer answers with another success than `STATUS_SUCCESS`. -/
theorem strings_buffersOwned_iff (tryNonPaged : Bool)
    (units : Address → UInt16) (events : List Event) :
    (Always (step tryNonPaged) BuffersOwned (System.new units) events ∧
        EveryStep (step tryNonPaged) WrapsReleaseNothing
          (System.new units) events) ↔
      Guarded (step tryNonPaged) InOrder (System.new units) events := by
  have preserved : ∀ system event next,
      BuffersOwned system → InOrder system event →
        step tryNonPaged system event = some next → BuffersOwned next :=
    fun _ _ _ owned inOrder stepped =>
      (buffersOwned_step_iff owned stepped).mpr inOrder
  have exactly :=
    @always_iff_guarded _ _ (step tryNonPaged) BuffersOwned BuffersOwned
      InOrder (fun _ owned => owned) preserved
      (fun _ _ _ owned stepped => (buffersOwned_step_iff owned stepped).mp)
      (System.new units) events (buffersOwned_new units)
  constructor
  · intro kept
    obtain ⟨always, _⟩ := kept
    exact exactly.mp always
  · intro guarded
    exact
      ⟨exactly.mpr guarded,
        everyStep_of_guarded preserved
          (fun _ _ _ _ _ => wrapsReleaseNothing_of_step)
          (buffersOwned_new units) guarded⟩

def cloneAndDrop : List Event :=
  [.create ⟨0x1000, 1⟩ .poolFlagPaged 0x2000, .clone 0 0x3000 0x4000,
    .drop 0, .drop 0]

/-- The block of the vector is live when no string is. -/
theorem cloneAndDrop_leaks :
    ¬ (Always (step false) BuffersOwned (System.new fun _ => 0x41)
          cloneAndDrop ∧
        EveryStep (step false) WrapsReleaseNothing
          (System.new fun _ => 0x41) cloneAndDrop) := by
  intro kept
  obtain ⟨always, _⟩ := kept
  have held := (always.last rfl).held.2
  exact List.cons_ne_nil _ _ held.eq_nil

end Strings

end WinDrvUtils

import WinDrvUtils.Strings.Conversion

/-!
# Strings that validate

`RtlValidateUnicodeString` wants even lengths, a length that the maximum
covers, and a buffer unless both lengths are zero. A `Construction` says how a
driver came by a string: by which constructor, from what, and what the
allocators and the kernel answered.

All constructors keep to what is checked but one. `try_from_u32` takes its
constant for `MaximumLength`, and the constant is odd; a clone inherits the
maximum, so the clones of such a string do not validate either.
-/

namespace WinDrvUtils

namespace UnicodeString

structure WellFormed (string : UnicodeString) : Prop where
  evenLength : string.length % 2 = 0
  evenMaximum : string.maximumLength % 2 = 0
  fits : string.length ≤ string.maximumLength
  buffered :
    string.buffer = nullPtr →
      string.length = 0 ∧ string.maximumLength = 0

instance (string : UnicodeString) : Decidable string.WellFormed :=
  decidable_of_iff
    (string.length % 2 = 0 ∧ string.maximumLength % 2 = 0 ∧
      string.length ≤ string.maximumLength ∧
      (string.buffer = nullPtr →
        string.length = 0 ∧ string.maximumLength = 0))
    ⟨fun checked => ⟨checked.1, checked.2.1, checked.2.2.1, checked.2.2.2⟩,
      fun wellFormed =>
        ⟨wellFormed.evenLength, wellFormed.evenMaximum, wellFormed.fits,
          wellFormed.buffered⟩⟩

/-- A string that advertises nothing has nothing. -/
theorem WellFormed.length_eq_zero
    {string : UnicodeString} (wellFormed : string.WellFormed)
    (none : string.maximumLength = 0) : string.length = 0 := by
  have fits := wellFormed.fits
  rw [none] at fits
  exact UInt16.le_zero_iff.mp fits

end UnicodeString

def rtlValidateUnicodeString (string : UnicodeString) : NTSTATUS :=
  if string.WellFormed then statusSuccess else statusInvalidParameter

def WduUnicodeString.validate (string : WduUnicodeString) :
    WduUnicodeResult Unit :=
  if rtlValidateUnicodeString string.string = statusInvalidParameter then
    .error .invalid
  else .ok ()

theorem WduUnicodeString.validate_ok_iff (string : WduUnicodeString) :
    string.validate = .ok () ↔ string.string.WellFormed := by
  unfold WduUnicodeString.validate rtlValidateUnicodeString
  by_cases wellFormed : string.string.WellFormed
  · rw [if_pos wellFormed, if_neg (by decide)]
    exact iff_of_true rfl wellFormed
  · rw [if_neg wellFormed, if_pos rfl]
    exact iff_of_false (fun same => nomatch same) wellFormed

/-! ## Lengths -/

theorem even_ofNat (count : Nat) : UInt16.ofNat (2 * count) % 2 = 0 := by
  apply UInt16.toNat_inj.mp
  rw [UInt16.toNat_mod, UInt16.toNat_ofNat']
  simp only [UInt16.reduceToNat]
  omega

theorem ofNat_le_of_le
    {bytes : Nat} {maximum : UInt16} (fits : bytes ≤ maximum.toNat) :
    UInt16.ofNat bytes ≤ maximum := by
  rw [UInt16.le_iff_toNat_le, UInt16.toNat_ofNat']
  exact Nat.le_trans (Nat.mod_le _ _) fits

theorem two_mul_half_le (length : UInt16) :
    2 * (length / 2).toNat ≤ length.toNat := by
  rw [UInt16.toNat_div]
  exact Nat.mul_div_le _ _

theorem lt_two_mul_half_succ (length : UInt16) :
    length.toNat < 2 * ((length / 2).toNat + 1) := by
  rw [UInt16.toNat_div]
  exact Nat.lt_mul_div_succ _ Nat.two_pos

theorem half_lt (length : UInt16) : (length / 2).toNat < 0x8000 := by
  have halves := two_mul_half_le length
  have small := length.toNat_lt
  omega

theorem two_mul_half_of_even {length : UInt16} (even : length % 2 = 0) :
    2 * (length / 2).toNat = length.toNat := by
  have rest := congrArg UInt16.toNat even
  rw [UInt16.toNat_mod] at rest
  rw [UInt16.toNat_div]
  simp only [UInt16.reduceToNat] at rest ⊢
  omega

/-- Even lengths with the same half are the same. -/
theorem eq_of_half_eq
    {first second : UInt16} (firstEven : first % 2 = 0)
    (secondEven : second % 2 = 0)
    (halves : (first / 2).toNat = (second / 2).toNat) :
    first = second := by
  have firstHalves := two_mul_half_of_even firstEven
  have secondHalves := two_mul_half_of_even secondEven
  apply UInt16.toNat_inj.mp
  omega

/-- The kernel routines write whole units, as many as there is room for. -/
def IntegerAnswer.Documented (maxLen : UInt16) (integer : IntegerAnswer) :
    Prop :=
  integer.status = statusSuccess →
    ∃ count : Nat,
      2 * count ≤ maxLen.toNat ∧ integer.length = UInt16.ofNat (2 * count)

/-- A routine that allocates a string leaves room for a nul after its
units. -/
def KernelString.Documented (answer : KernelString) : Prop :=
  answer.status = statusSuccess →
    answer.string.buffer ≠ nullPtr ∧
      ∃ count : Nat,
        2 * count + 2 < 0x10000 ∧
          answer.string.length = UInt16.ofNat (2 * count) ∧
          answer.string.maximumLength = UInt16.ofNat (2 * (count + 1))

theorem KernelString.wellFormed
    {answer : KernelString} (documented : answer.Documented)
    (success : answer.status = statusSuccess) :
    answer.string.WellFormed := by
  obtain ⟨buffer, count, small, length, maximum⟩ := documented success
  refine ⟨?_, ?_, ?_, fun null => absurd null buffer⟩
  · rw [length]
    exact even_ofNat count
  · rw [maximum]
    exact even_ofNat (count + 1)
  · rw [length, maximum]
    apply ofNat_le_of_le
    rw [UInt16.toNat_ofNat_of_lt' (by omega)]
    omega

/-! ## What a constructor returns -/

namespace WduUnicodeString

/-- The string that a constructor returns, if it returns one. -/
def made :
    Except Panic (WduUnicodeResult WduUnicodeString × Memory) →
      Option WduUnicodeString
  | .ok (.ok string, _) => some string
  | _ => none

theorem made_eq_some
    {outcome : Except Panic (WduUnicodeResult WduUnicodeString × Memory)}
    {string : WduUnicodeString} (returned : made outcome = some string) :
    ∃ after, outcome = .ok (.ok string, after) := by
  match outcome, returned with
  | .ok (.ok _, after), rfl => exact ⟨after, rfl⟩

theorem wellFormed_create
    {source : Slice} {poolType : PoolFlags} {answer : Address}
    {memory after : Memory} {string : WduUnicodeString}
    (returned :
      create source poolType answer memory = .ok (.ok string, after)) :
    string.string.WellFormed := by
  rw [create_eq source (takesPool_of_create returned)] at returned
  by_cases refused : answer = nullPtr
  · rw [if_pos refused] at returned
    cases returned
  · rw [if_neg refused] at returned
    cases returned
    have even : toUnicodeLen source.len % 2 = 0 := by
      rw [toUnicodeLen, Nat.mul_comm]
      exact even_ofNat source.len
    exact ⟨even, even, UInt16.le_refl _, fun null => absurd null refused⟩

theorem wellFormed_createFrom
    {value : Vec16} {poolType : PoolFlags} {answer : Address}
    {memory after : Memory} {string : WduUnicodeString}
    (returned :
      createFrom value poolType answer memory = .ok (.ok string, after)) :
    string.string.WellFormed := by
  unfold createFrom at returned
  split at returned
  · cases returned
  · next created =>
      cases returned
      exact wellFormed_create created

theorem wellFormed_fromStr
    {tryNonPaged : Bool} {s : String} {vecAnswer answer : Address}
    {memory after : Memory} {string : WduUnicodeString}
    (returned :
      fromStr tryNonPaged s vecAnswer answer memory =
        .ok (.ok string, after)) :
    string.string.WellFormed := by
  unfold fromStr tryFromStr at returned
  generalize Utf16.encode s.toList = units at returned
  by_cases refused : units.length * 2 ≠ 0 ∧ vecAnswer = nullPtr
  · rw [if_pos refused] at returned
    cases returned
  · rw [if_neg refused] at returned
    exact wellFormed_createFrom returned

theorem wellFormed_fromKernel
    {answer : KernelString} (documented : answer.Documented)
    {memory after : Memory} {string : WduUnicodeString}
    (returned : fromKernel answer memory = (.ok string, after)) :
    string.string.WellFormed := by
  unfold fromKernel at returned
  by_cases failed : answer.status ≠ statusSuccess
  · rw [if_pos failed] at returned
    cases returned
  · rw [if_neg failed] at returned
    cases returned
    exact answer.wellFormed documented (not_not.mp failed)

/-- The string of an integer has the buffer and the maximum that it was made
with. -/
theorem string_tryFromInteger
    {maxLen : UInt16} {answer : Address} {integer : IntegerAnswer}
    {memory after : Memory} {string : WduUnicodeString}
    (returned :
      tryFromInteger maxLen answer integer memory = (.ok string, after)) :
    string.string = ⟨integer.length, maxLen, answer⟩ ∧
      answer ≠ nullPtr ∧ integer.status = statusSuccess := by
  unfold tryFromInteger at returned
  by_cases refused : answer = nullPtr
  · rw [if_pos refused] at returned
    cases returned
  · rw [if_neg refused] at returned
    by_cases failed : integer.status ≠ statusSuccess
    · rw [if_pos failed] at returned
      cases returned
    · rw [if_neg failed] at returned
      cases returned
      exact ⟨rfl, refused, not_not.mp failed⟩

theorem wellFormed_tryFromInteger
    {maxLen : UInt16} (even : maxLen % 2 = 0) {answer : Address}
    {integer : IntegerAnswer} (documented : integer.Documented maxLen)
    {memory after : Memory} {string : WduUnicodeString}
    (returned :
      tryFromInteger maxLen answer integer memory = (.ok string, after)) :
    string.string.WellFormed := by
  obtain ⟨same, buffer, success⟩ := string_tryFromInteger returned
  obtain ⟨count, fits, length⟩ := documented success
  rw [same, length]
  exact
    ⟨even_ofNat count, even, ofNat_le_of_le fits,
      fun null => absurd null buffer⟩

/-- A copy has the box for its buffer, and the maximum of its source. -/
theorem copy_returned
    {source string : WduUnicodeString} {vecAnswer boxAnswer : Address}
    {memory after : Memory}
    (returned :
      source.copy vecAnswer boxAnswer memory = .ok (string, after)) :
    string =
        ⟨⟨min source.string.length source.string.maximumLength,
            source.string.maximumLength, boxAnswer⟩, some .rust⟩ ∧
      boxAnswer ≠ nullPtr := by
  unfold copy at returned
  split at returned
  · cases returned
  · next granted =>
      cases returned
      exact ⟨rfl, (not_or.mp granted).2⟩

theorem wellFormed_copy
    {source string : WduUnicodeString}
    (wellFormed : source.string.WellFormed)
    {vecAnswer boxAnswer : Address} {memory after : Memory}
    (returned :
      source.copy vecAnswer boxAnswer memory = .ok (string, after)) :
    string.string.WellFormed := by
  obtain ⟨rfl, buffer⟩ := copy_returned returned
  have all :
      min source.string.length source.string.maximumLength =
        source.string.length :=
    if_pos wellFormed.fits
  rw [all]
  exact
    ⟨wellFormed.evenLength, wellFormed.evenMaximum, wellFormed.fits,
      fun null => absurd null buffer⟩

theorem new_eq_ok
    {source : UnicodeString} {vecAnswer boxAnswer : Address}
    {memory after : Memory} {string : WduUnicodeString}
    (returned :
      new source vecAnswer boxAnswer memory = .ok (string, after)) :
    ∃ between,
      (wrap (some source)).copy vecAnswer boxAnswer memory =
        .ok (string, between) := by
  unfold new at returned
  split at returned
  · cases returned
  · next between cloned =>
      cases returned
      exact ⟨between, cloned⟩

end WduUnicodeString

/-! ## Constructions -/

/-- The ways to come by a string. A string that is `given` was wrapped, taken
over or filled by a kernel routine. -/
inductive Construction where
  | default
  | given (string : WduUnicodeString)
  | create (source : Slice) (poolType : PoolFlags) (answer : Address)
      (memory : Memory)
  | convert (source : Source) (answers : Answers) (memory : Memory)
  | tryFromU32 (answer : Address) (integer : IntegerAnswer)
      (memory : Memory)
  | tryFromU64 (answer : Address) (integer : IntegerAnswer)
      (memory : Memory)
  | clone (source : Construction) (vecAnswer boxAnswer : Address)
      (memory : Memory)
  | new (source : UnicodeString) (vecAnswer boxAnswer : Address)
      (memory : Memory)

namespace Construction

open WduUnicodeString (made)

/-- The string, unless some call on the way fails. -/
def build (tryNonPaged : Bool) : Construction → Option WduUnicodeString
  | default => some WduUnicodeString.default
  | given string => some string
  | create source poolType answer memory =>
      made (WduUnicodeString.create source poolType answer memory)
  | convert source answers memory =>
      made (source.convert tryNonPaged answers memory)
  | tryFromU32 answer integer memory =>
      made (.ok (WduUnicodeString.tryFromU32 answer integer memory))
  | tryFromU64 answer integer memory =>
      made (.ok (WduUnicodeString.tryFromU64 answer integer memory))
  | clone source vecAnswer boxAnswer memory =>
      (source.build tryNonPaged).bind fun string =>
        (string.clone vecAnswer boxAnswer memory).toOption.map Prod.fst
  | new source vecAnswer boxAnswer memory =>
      (WduUnicodeString.new source vecAnswer boxAnswer
        memory).toOption.map Prod.fst

/-- The kernel routines do what is documented of them, and the strings that
come from elsewhere are well formed. -/
def Documented : Construction → Prop
  | given string => string.string.WellFormed
  | convert (.bytes value) answers _ =>
      (answers.kernel (WduUnicodeString.toldBytes value)).Documented
  | tryFromU32 _ integer _ => integer.Documented maxLenU32String
  | tryFromU64 _ integer _ => integer.Documented maxLenU64String
  | clone source _ _ _ => source.Documented
  | new source _ _ _ => source.WellFormed
  | _ => True

/-- `try_from_u32` made the string, or the one that it is a clone of. -/
def FromU32 : Construction → Prop
  | tryFromU32 _ _ _ => True
  | clone source _ _ _ => source.FromU32
  | _ => False

theorem toOption_eq_some
    {outcome : Except Panic (WduUnicodeString × Memory)}
    {string : WduUnicodeString}
    (returned : outcome.toOption.map Prod.fst = some string) :
    ∃ after, outcome = .ok (string, after) := by
  match outcome, returned with
  | .ok (_, after), rfl => exact ⟨after, rfl⟩

theorem wellFormed_convert
    {source : Source} {tryNonPaged : Bool} {answers : Answers}
    {memory after : Memory} {string : WduUnicodeString}
    (documented : Documented (.convert source answers memory))
    (returned :
      source.convert tryNonPaged answers memory = .ok (.ok string, after)) :
    string.string.WellFormed := by
  cases source with
  | vec value =>
      exact WduUnicodeString.wellFormed_createFrom returned
  | slice _ | utf16Str _ | u16CStr _ | unicodeStr _ =>
      exact WduUnicodeString.wellFormed_create returned
  | fromStr value | str value =>
      exact WduUnicodeString.wellFormed_fromStr returned
  | bytes value =>
      exact
        WduUnicodeString.wellFormed_fromKernel documented
          (Except.ok.inj returned)

/-- Induction on the construction: a clone is as well formed as its
source. -/
theorem wellFormed_build
    {tryNonPaged : Bool} {construction : Construction}
    {string : WduUnicodeString}
    (documented : construction.Documented)
    (notU32 : ¬ construction.FromU32)
    (built : construction.build tryNonPaged = some string) :
    string.string.WellFormed := by
  induction construction generalizing string with
  | default =>
      cases built
      decide
  | given _ =>
      cases built
      exact documented
  | create source poolType answer memory =>
      obtain ⟨after, returned⟩ := WduUnicodeString.made_eq_some built
      exact WduUnicodeString.wellFormed_create returned
  | convert source answers memory =>
      obtain ⟨after, returned⟩ := WduUnicodeString.made_eq_some built
      exact wellFormed_convert documented returned
  | tryFromU32 answer integer memory =>
      exact absurd trivial notU32
  | tryFromU64 answer integer memory =>
      obtain ⟨after, returned⟩ := WduUnicodeString.made_eq_some built
      exact
        WduUnicodeString.wellFormed_tryFromInteger (by decide) documented
          (Except.ok.inj returned)
  | clone source vecAnswer boxAnswer memory inductionHypothesis =>
      obtain ⟨original, made, copied⟩ := Option.bind_eq_some_iff.mp built
      obtain ⟨after, returned⟩ := toOption_eq_some copied
      have before := inductionHypothesis documented notU32 made
      exact WduUnicodeString.wellFormed_copy before returned
  | new source vecAnswer boxAnswer memory =>
      obtain ⟨after, returned⟩ := toOption_eq_some built
      obtain ⟨between, copied⟩ := WduUnicodeString.new_eq_ok returned
      have wrapped :
          (WduUnicodeString.wrap (some source)).string.WellFormed :=
        documented
      exact WduUnicodeString.wellFormed_copy wrapped copied

theorem maximumLength_of_fromU32
    {tryNonPaged : Bool} {construction : Construction}
    {string : WduUnicodeString} (fromU32 : construction.FromU32)
    (built : construction.build tryNonPaged = some string) :
    string.string.maximumLength = maxLenU32String := by
  induction construction generalizing string with
  | tryFromU32 answer integer memory =>
      obtain ⟨after, returned⟩ := WduUnicodeString.made_eq_some built
      obtain ⟨same, _⟩ :=
        WduUnicodeString.string_tryFromInteger (Except.ok.inj returned)
      rw [same]
  | clone source vecAnswer boxAnswer memory inductionHypothesis =>
      obtain ⟨original, made, copied⟩ := Option.bind_eq_some_iff.mp built
      obtain ⟨after, returned⟩ := toOption_eq_some copied
      obtain ⟨rfl, _⟩ := WduUnicodeString.copy_returned returned
      have before := inductionHypothesis fromU32 made
      exact before
  | _ => exact fromU32.elim

/-- Every string that a constructor returns validates, except for those of
`try_from_u32` and their clones, none of which does. -/
theorem validate_build_iff
    {tryNonPaged : Bool} {construction : Construction}
    {string : WduUnicodeString}
    (documented : construction.Documented)
    (built : construction.build tryNonPaged = some string) :
    string.validate = .ok () ↔ ¬ construction.FromU32 := by
  rw [WduUnicodeString.validate_ok_iff]
  constructor
  · intro wellFormed fromU32
    have even := wellFormed.evenMaximum
    rw [maximumLength_of_fromU32 fromU32 built] at even
    exact absurd even (by decide)
  · intro notU32
    exact wellFormed_build documented notU32 built

def clonedPair : Construction :=
  .clone (.create ⟨0x1000, 2⟩ .poolFlagPaged 0x2000 filledMemory) 0x3000
    0x4000 filledMemory

theorem clonedPair_validates :
    (⟨⟨4, 4, 0x4000⟩, some .rust⟩ : WduUnicodeString).validate = .ok () ↔
      ¬ clonedPair.FromU32 :=
  @validate_build_iff false clonedPair ⟨⟨4, 4, 0x4000⟩, some .rust⟩ trivial
    rfl

/-- `try_from_u32(7, 10)` -/
def seven : Construction :=
  .tryFromU32 0x2000 ⟨statusSuccess, 2, fun _ => 0x37⟩ filledMemory

theorem seven_invalid :
    seven.Documented ∧
      ∃ string, seven.build false = some string ∧
        ¬ string.validate = .ok () := by
  have documented : seven.Documented :=
    fun _ => ⟨1, by decide, rfl⟩
  refine
    ⟨documented, ⟨⟨2, 0x15, 0x2000⟩, some .pool⟩, rfl, fun valid => ?_⟩
  have wellFormed := (WduUnicodeString.validate_ok_iff _).mp valid
  exact absurd wellFormed.evenMaximum (by decide)

end Construction

end WinDrvUtils

import WinDrvUtils.Strings.Views

/-!
# Equality with Rust strings

A kernel string is compared with a `str` by its text, which
`String::from_utf16_lossy` decodes. Units that are no text become U+FFFD on
the way. So the units that are equal to a text are those that become its
units when each surrogate without its partner is replaced, and a text
identifies only units that are well formed.
-/

namespace WinDrvUtils

namespace WduUnicodeStr

def display (str : WduUnicodeStr) (memory : Memory) : String :=
  String.ofList (Utf16.decode (str.units memory))

def eqRustStr (str : WduUnicodeStr) (other : String) (memory : Memory) :
    Bool :=
  str.display memory = other

/-- For `&str`, which is copied into a `String` first. -/
def eqRustStrRef (str : WduUnicodeStr) (other : String) (memory : Memory) :
    Bool :=
  str.display memory = other

end WduUnicodeStr

namespace WduUnicodeString

def eqRustStr (string : WduUnicodeString) (other : String)
    (memory : Memory) : Bool :=
  string.display memory = other

/-- For `&str`, which is copied into a `String` first. -/
def eqRustStrRef (string : WduUnicodeString) (other : String)
    (memory : Memory) : Bool :=
  string.display memory = other

end WduUnicodeString

/-- Units that the kernel or the crate holds. -/
inductive Held where
  | str (value : WduUnicodeStr)
  | string (value : WduUnicodeString)
  deriving DecidableEq, Repr

/-- The two types of Rust strings that `==` is implemented for. -/
inductive RustString where
  | str
  | strRef
  deriving DecidableEq, Repr

namespace Held

def units (held : Held) (memory : Memory) : List UInt16 :=
  match held with
  | str value => value.units memory
  | string value => value.asSlice memory

def eq (held : Held) (kind : RustString) (other : String)
    (memory : Memory) : Bool :=
  match held, kind with
  | str value, .str => value.eqRustStr other memory
  | str value, .strRef => value.eqRustStrRef other memory
  | string value, .str => value.eqRustStr other memory
  | string value, .strRef => value.eqRustStrRef other memory

theorem eq_iff_decode
    (held : Held) (kind : RustString) (other : String) (memory : Memory) :
    held.eq kind other memory = true ↔
      Utf16.decode (held.units memory) = other.toList := by
  have text :
      held.eq kind other memory = true ↔
        String.ofList (Utf16.decode (held.units memory)) = other := by
    cases held <;> cases kind <;> exact decide_eq_true_iff
  rw [text]
  constructor
  · intro equal
    rw [← equal, String.toList_ofList]
  · intro equal
    rw [equal, String.ofList_toList]

theorem eq_iff_repair
    (held : Held) (kind : RustString) (other : String) (memory : Memory) :
    held.eq kind other memory = true ↔
      Utf16.repair (held.units memory) = Utf16.encode other.toList :=
  (held.eq_iff_decode kind other memory).trans (Utf16.decode_eq_iff _ _)

/-- A text identifies the units that are equal to it up to the surrogates
that have no partner. -/
theorem eq_identifies
    (held : Held) (kind : RustString) (text : String) (memory : Memory) :
    (held.eq kind text memory = true ↔
        Utf16.repair (held.units memory) = Utf16.encode text.toList) ∧
      (Utf16.WellFormed (held.units memory) →
        (held.eq kind text memory = true ↔
          held.units memory = Utf16.encode text.toList)) ∧
      ∀ (other : Held) (otherKind : RustString),
        held.eq kind text memory = true →
          other.eq otherKind text memory = true →
            Utf16.repair (held.units memory) =
                Utf16.repair (other.units memory) ∧
              (Utf16.WellFormed (held.units memory) →
                Utf16.WellFormed (other.units memory) →
                  held.units memory = other.units memory) := by
  have repaired := held.eq_iff_repair kind text memory
  refine ⟨repaired, ?_, ?_⟩
  · intro wellFormed
    rw [Utf16.repair_of_wellFormed wellFormed] at repaired
    exact repaired
  · intro other otherKind equal otherEqual
    have both :
        Utf16.repair (held.units memory) =
          Utf16.repair (other.units memory) := by
      have otherRepaired := other.eq_iff_repair otherKind text memory
      rw [repaired.mp equal, otherRepaired.mp otherEqual]
    refine ⟨both, fun wellFormed otherWellFormed => ?_⟩
    rw [Utf16.repair_of_wellFormed wellFormed,
      Utf16.repair_of_wellFormed otherWellFormed] at both
    exact both

/-- A slice that is equal to the letter A holds its unit. -/
theorem letter_identifies :
    (Held.str ⟨⟨0x1000, 1⟩⟩).units filledMemory =
      Utf16.encode "A".toList := by
  have identified :=
    (eq_identifies (.str ⟨⟨0x1000, 1⟩⟩) .str "A" filledMemory).2.1
      ⟨['A'], by decide⟩
  exact identified.mp (by decide)

/-- A surrogate without its partner at `0x1000`, and U+FFFD elsewhere. -/
def surrogateMemory : Memory :=
  { filledMemory with
    units := fun address => if address = 0x1000 then 0xD800 else 0xFFFD }

def loneSurrogate : Held := .str ⟨⟨0x1000, 1⟩⟩

def replacementUnit : Held := .str ⟨⟨0x2000, 1⟩⟩

/-- Both are equal to the text U+FFFD, and only one has its units. -/
theorem loneSurrogate_equalsReplacement :
    loneSurrogate.eq .str "\uFFFD" surrogateMemory = true ∧
      replacementUnit.eq .str "\uFFFD" surrogateMemory = true ∧
      loneSurrogate.units surrogateMemory ≠
        Utf16.encode "\uFFFD".toList ∧
      loneSurrogate.units surrogateMemory ≠
        replacementUnit.units surrogateMemory := by
  refine ⟨?_, ?_, ?_, ?_⟩ <;> decide

end Held

end WinDrvUtils

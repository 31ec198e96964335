import Mathlib.Data.List.Basic
import WinDrvUtils.Library.SelfSync

/-!
# UTF-16

Encoding of scalar values into 16-bit units, and the decoder that puts
U+FFFD for a surrogate without its partner. Decoding undoes encoding
(`decode_encode`), so a text is determined by its units. Encoding what was
decoded puts a unit for each such surrogate (`encode_decode`).

No character begins with the second unit of a pair, so searching for units
finds characters.
-/

namespace Utf16

/-! ## Encoding -/

/-- A scalar value from the basic plane is one unit, any other two. -/
def encodeChar (char : Char) : List UInt16 :=
  if char.toNat < 0x10000 then [UInt16.ofNat char.toNat]
  else
    [UInt16.ofNat (0xD800 + (char.toNat - 0x10000) / 0x400),
      UInt16.ofNat (0xDC00 + (char.toNat - 0x10000) % 0x400)]

def encode (text : List Char) : List UInt16 :=
  text.flatMap encodeChar

@[simp]
theorem encode_cons (char : Char) (text : List Char) :
    encode (char :: text) = encodeChar char ++ encode text := rfl

theorem encode_append (first second : List Char) :
    encode (first ++ second) = encode first ++ encode second :=
  List.flatMap_append

/-! ## Decoding -/

def isHigh (unit : UInt16) : Prop :=
  0xD800 ≤ unit.toNat ∧ unit.toNat < 0xDC00

def isLow (unit : UInt16) : Prop :=
  0xDC00 ≤ unit.toNat ∧ unit.toNat < 0xE000

instance (unit : UInt16) : Decidable (isHigh unit) :=
  inferInstanceAs (Decidable (_ ∧ _))

instance (unit : UInt16) : Decidable (isLow unit) :=
  inferInstanceAs (Decidable (_ ∧ _))

def replacement : Char := Char.ofNat 0xFFFD

def decodeUnit (unit : UInt16) : Char :=
  if isHigh unit ∨ isLow unit then replacement else Char.ofNat unit.toNat

def decodePair (high low : UInt16) : Char :=
  Char.ofNat
    (0x10000 + (high.toNat - 0xD800) * 0x400 + (low.toNat - 0xDC00))

def decode : List UInt16 → List Char
  | [] => []
  | [unit] => [decodeUnit unit]
  | first :: second :: rest =>
      if isHigh first ∧ isLow second then
        decodePair first second :: decode rest
      else
        decodeUnit first :: decode (second :: rest)

/-! ## The round trip -/

theorem decode_cons_of_not_high
    {unit : UInt16} (notHigh : ¬ isHigh unit) (rest : List UInt16) :
    decode (unit :: rest) = decodeUnit unit :: decode rest := by
  cases rest with
  | nil => rfl
  | cons second rest =>
      rw [decode, if_neg fun pair => notHigh pair.1]

theorem decode_pair
    {high low : UInt16} (isPair : isHigh high ∧ isLow low)
    (rest : List UInt16) :
    decode (high :: low :: rest) = decodePair high low :: decode rest := by
  rw [decode, if_pos isPair]

/-- No scalar value is a surrogate. -/
theorem toNat_valid (char : Char) :
    char.toNat < 0xD800 ∨ 0xDFFF < char.toNat ∧ char.toNat < 0x110000 :=
  char.valid

theorem toNat_ofNat_of_lt {value : Nat} (small : value < 0x10000) :
    (UInt16.ofNat value).toNat = value := by
  rw [UInt16.toNat_ofNat']
  exact Nat.mod_eq_of_lt small

theorem decode_encodeChar_append (char : Char) (rest : List UInt16) :
    decode (encodeChar char ++ rest) = char :: decode rest := by
  have valid := toNat_valid char
  unfold encodeChar
  split
  case isTrue basic =>
      have value := toNat_ofNat_of_lt basic
      have notHigh : ¬ isHigh (UInt16.ofNat char.toNat) := by
        rw [isHigh, value]
        omega
      have notLow : ¬ isLow (UInt16.ofNat char.toNat) := by
        rw [isLow, value]
        omega
      rw [List.singleton_append, decode_cons_of_not_high notHigh, decodeUnit,
        if_neg (not_or.mpr ⟨notHigh, notLow⟩), value, Char.ofNat_toNat]
  case isFalse beyond =>
      have high :
          (UInt16.ofNat (0xD800 + (char.toNat - 0x10000) / 0x400)).toNat =
            0xD800 + (char.toNat - 0x10000) / 0x400 :=
        toNat_ofNat_of_lt (by omega)
      have low :
          (UInt16.ofNat (0xDC00 + (char.toNat - 0x10000) % 0x400)).toNat =
            0xDC00 + (char.toNat - 0x10000) % 0x400 :=
        toNat_ofNat_of_lt (by omega)
      rw [List.cons_append, List.singleton_append, decode_pair, decodePair,
        high, low]
      · have value :
            0x10000 + (0xD800 + (char.toNat - 0x10000) / 0x400 - 0xD800) *
                0x400 +
              (0xDC00 + (char.toNat - 0x10000) % 0x400 - 0xDC00) =
              char.toNat := by
          omega
        rw [value, Char.ofNat_toNat]
      · rw [isHigh, isLow, high, low]
        omega

theorem decode_encode (text : List Char) : decode (encode text) = text := by
  induction text with
  | nil => rfl
  | cons char text inductionHypothesis =>
      rw [encode_cons, decode_encodeChar_append, inductionHypothesis]

theorem encode_injective : Function.Injective encode := by
  intro first second equal
  rw [← decode_encode first, equal, decode_encode]

/-! ## Ill-formed units -/

def repairUnit (unit : UInt16) : UInt16 :=
  if isHigh unit ∨ isLow unit then 0xFFFD else unit

/-- U+FFFD in the place of each surrogate without its partner. -/
def repair : List UInt16 → List UInt16
  | [] => []
  | [unit] => [repairUnit unit]
  | first :: second :: rest =>
      if isHigh first ∧ isLow second then first :: second :: repair rest
      else repairUnit first :: repair (second :: rest)

/-- The units are those of a text. -/
def WellFormed (units : List UInt16) : Prop :=
  ∃ text, units = encode text

theorem toNat_ofNat_of_valid {value : Nat} (valid : value.isValidChar) :
    (Char.ofNat value).toNat = value := by
  rw [Char.ofNat, dif_pos valid]
  rfl

theorem encodeChar_decodeUnit (unit : UInt16) :
    encodeChar (decodeUnit unit) = [repairUnit unit] := by
  unfold decodeUnit repairUnit
  by_cases surrogate : isHigh unit ∨ isLow unit
  · rw [if_pos surrogate, if_pos surrogate]
    decide
  · rw [if_neg surrogate, if_neg surrogate]
    have small := unit.toNat_lt
    have valid : unit.toNat.isValidChar := by
      rw [isHigh, isLow] at surrogate
      unfold Nat.isValidChar
      omega
    rw [encodeChar, toNat_ofNat_of_valid valid, if_pos small,
      UInt16.ofNat_toNat]

theorem encodeChar_decodePair
    {high low : UInt16} (isPair : isHigh high ∧ isLow low) :
    encodeChar (decodePair high low) = [high, low] := by
  obtain ⟨⟨highLeast, highMost⟩, lowLeast, lowMost⟩ := isPair
  have valid :
      (0x10000 + (high.toNat - 0xD800) * 0x400 +
        (low.toNat - 0xDC00)).isValidChar := by
    unfold Nat.isValidChar
    omega
  have beyond :
      ¬ 0x10000 + (high.toNat - 0xD800) * 0x400 + (low.toNat - 0xDC00) <
        0x10000 := by
    omega
  have first :
      0xD800 +
          (0x10000 + (high.toNat - 0xD800) * 0x400 + (low.toNat - 0xDC00) -
            0x10000) / 0x400 =
        high.toNat := by
    omega
  have second :
      0xDC00 +
          (0x10000 + (high.toNat - 0xD800) * 0x400 + (low.toNat - 0xDC00) -
            0x10000) % 0x400 =
        low.toNat := by
    omega
  rw [encodeChar, decodePair, toNat_ofNat_of_valid valid, if_neg beyond,
    first, second, UInt16.ofNat_toNat, UInt16.ofNat_toNat]

/-- Induction on the decoder: a pair is encoded as it was, any other unit
after repair. -/
theorem encode_decode (units : List UInt16) :
    encode (decode units) = repair units := by
  induction units using decode.induct with
  | case1 => rfl
  | case2 unit =>
      rw [decode, repair, encode_cons, encodeChar_decodeUnit]
      rfl
  | case3 first second rest isPair inductionHypothesis =>
      rw [decode, if_pos isPair, repair, if_pos isPair, encode_cons,
        encodeChar_decodePair isPair, inductionHypothesis]
      rfl
  | case4 first second rest notPair inductionHypothesis =>
      rw [decode, if_neg notPair, repair, if_neg notPair, encode_cons,
        encodeChar_decodeUnit, inductionHypothesis]
      rfl

theorem length_repair (units : List UInt16) :
    (repair units).length = units.length := by
  induction units using repair.induct with
  | case1 => rfl
  | case2 unit => rfl
  | case3 first second rest isPair inductionHypothesis =>
      rw [repair, if_pos isPair, List.length_cons, List.length_cons,
        inductionHypothesis]
      rfl
  | case4 first second rest notPair inductionHypothesis =>
      rw [repair, if_neg notPair, List.length_cons, inductionHypothesis]
      rfl

theorem repair_encode (text : List Char) :
    repair (encode text) = encode text := by
  rw [← encode_decode, decode_encode]

theorem repair_of_wellFormed
    {units : List UInt16} (wellFormed : WellFormed units) :
    repair units = units := by
  obtain ⟨text, rfl⟩ := wellFormed
  exact repair_encode text

/-- Units decode to a text exactly when its units are theirs after repair. -/
theorem decode_eq_iff (units : List UInt16) (text : List Char) :
    decode units = text ↔ repair units = encode text := by
  rw [← encode_decode]
  exact encode_injective.eq_iff.symm

/-! ## Parts -/

/-- A pair begins at the end of one part and ends at the beginning of the
other. -/
def Cuts (first second : List UInt16) : Prop :=
  ∃ before high low behind,
    first = before ++ [high] ∧ second = low :: behind ∧
      isHigh high ∧ isLow low

theorem not_isLow_of_isHigh
    {unit : UInt16} (high : isHigh unit) : ¬ isLow unit := by
  unfold isHigh at high
  unfold isLow
  omega

theorem not_isHigh_of_isLow
    {unit : UInt16} (low : isLow unit) : ¬ isHigh unit :=
  fun high => not_isLow_of_isHigh high low

theorem decode_of_not_pair
    {first second : UInt16} (notPair : ¬ (isHigh first ∧ isLow second))
    (rest : List UInt16) :
    decode (first :: second :: rest) =
      decodeUnit first :: decode (second :: rest) := by
  rw [decode, if_neg notPair]

/-- Parts between which no pair is cut are decoded apart from each other. -/
theorem decode_append
    {first second : List UInt16} (whole : ¬ Cuts first second) :
    decode (first ++ second) = decode first ++ decode second := by
  induction first using decode.induct with
  | case1 => rfl
  | case2 unit =>
      cases second with
      | nil => rfl
      | cons other rest =>
          have notPair : ¬ (isHigh unit ∧ isLow other) := fun isPair =>
            whole ⟨[], unit, other, rest, rfl, rfl, isPair⟩
          exact decode_of_not_pair notPair rest
  | case3 unit other rest isPair inductionHypothesis =>
      have later : ¬ Cuts rest second := by
        rintro ⟨before, high, low, behind, rfl, same, cut⟩
        exact
          whole ⟨unit :: other :: before, high, low, behind, rfl, same, cut⟩
      rw [List.cons_append, List.cons_append, decode_pair isPair,
        decode_pair isPair, inductionHypothesis later]
      rfl
  | case4 unit other rest notPair inductionHypothesis =>
      have later : ¬ Cuts (other :: rest) second := by
        rintro ⟨before, high, low, behind, split, same, cut⟩
        exact
          whole
            ⟨unit :: before, high, low, behind,
              congrArg (unit :: ·) split, same, cut⟩
      have here := inductionHypothesis later
      rw [List.cons_append] at here
      rw [List.cons_append, List.cons_append, decode_of_not_pair notPair,
        decode_of_not_pair notPair, here, List.cons_append]

theorem decodeUnit_of_isHigh
    {unit : UInt16} (high : isHigh unit) : decodeUnit unit = replacement :=
  if_pos (Or.inl high)

theorem decodeUnit_of_isLow
    {unit : UInt16} (low : isLow unit) : decodeUnit unit = replacement :=
  if_pos (Or.inr low)

theorem not_cuts_of_isHigh
    (before behind : List UInt16) {unit : UInt16} (high : isHigh unit) :
    ¬ Cuts before (unit :: behind) := by
  rintro ⟨_, _, low, _, _, same, _, isLow⟩
  cases same
  exact not_isLow_of_isHigh high isLow

theorem decode_concat_high
    (before : List UInt16) {high : UInt16} (isHigh : isHigh high) :
    decode (before ++ [high]) = decode before ++ [replacement] := by
  rw [decode_append (not_cuts_of_isHigh before [] isHigh), decode,
    decodeUnit_of_isHigh isHigh]

theorem decode_cons_low
    {low : UInt16} (isLow : isLow low) (behind : List UInt16) :
    decode (low :: behind) = replacement :: decode behind := by
  rw [decode_cons_of_not_high (not_isHigh_of_isLow isLow),
    decodeUnit_of_isLow isLow]

theorem decode_through_pair
    (before behind : List UInt16) {high low : UInt16}
    (isPair : isHigh high ∧ isLow low) :
    decode (before ++ high :: low :: behind) =
      decode before ++ decodePair high low :: decode behind := by
  rw [decode_append (not_cuts_of_isHigh before _ isPair.1),
    decode_pair isPair]

theorem decodePair_ne_replacement
    {high low : UInt16} (isPair : isHigh high ∧ isLow low) :
    decodePair high low ≠ replacement := by
  intro same
  have units := encodeChar_decodePair isPair
  rw [same] at units
  have length : (encodeChar replacement).length = 2 :=
    congrArg List.length units
  exact absurd length (by decide)

/-- The text of the first part begins the text of both, unless a pair is
cut. -/
theorem decode_isPrefix_append_iff (first second : List UInt16) :
    decode first <+: decode (first ++ second) ↔ ¬ Cuts first second := by
  constructor
  · rintro begins ⟨before, high, low, behind, rfl, rfl, isPair⟩
    rw [List.append_assoc, List.singleton_append,
      decode_through_pair before behind isPair,
      decode_concat_high before isPair.1, List.prefix_append_right_inj,
      List.cons_prefix_cons] at begins
    exact decodePair_ne_replacement isPair begins.1.symm
  · intro whole
    rw [decode_append whole]
    exact List.prefix_append _ _

/-- And so the text of the second part ends it. -/
theorem decode_isSuffix_append_iff (first second : List UInt16) :
    decode second <:+ decode (first ++ second) ↔ ¬ Cuts first second := by
  constructor
  · rintro ends ⟨before, high, low, behind, rfl, rfl, isPair⟩
    rw [List.append_assoc, List.singleton_append,
      decode_through_pair before behind isPair,
      decode_cons_low isPair.2] at ends
    obtain ⟨front, same⟩ := ends
    have tails :=
      List.append_inj_right' same (by rw [List.length_cons, List.length_cons])
    exact decodePair_ne_replacement isPair (List.cons.inj tails).1.symm
  · intro whole
    rw [decode_append whole]
    exact List.suffix_append _ _

/-! ## Nul -/

def nul : Char := Char.ofNat 0

theorem decodeUnit_eq_nul_iff (unit : UInt16) :
    decodeUnit unit = nul ↔ unit = 0 := by
  unfold decodeUnit
  by_cases surrogate : isHigh unit ∨ isLow unit
  · rw [if_pos surrogate]
    refine iff_of_false (by decide) ?_
    rintro rfl
    exact absurd surrogate (by decide)
  · rw [if_neg surrogate]
    have small := unit.toNat_lt
    have valid : unit.toNat.isValidChar := by
      rw [isHigh, isLow] at surrogate
      unfold Nat.isValidChar
      omega
    constructor
    · intro same
      have value := congrArg Char.toNat same
      rw [toNat_ofNat_of_valid valid] at value
      exact UInt16.toNat_inj.mp value
    · rintro rfl
      rfl

theorem decodePair_ne_nul
    {high low : UInt16} (isPair : isHigh high ∧ isLow low) :
    decodePair high low ≠ nul := by
  intro same
  have units := encodeChar_decodePair isPair
  rw [same] at units
  have length : (encodeChar nul).length = 2 := congrArg List.length units
  exact absurd length (by decide)

/-- Decoding neither makes a nul nor loses one. -/
theorem nul_mem_decode_iff (units : List UInt16) :
    nul ∈ decode units ↔ 0 ∈ units := by
  induction units using decode.induct with
  | case1 => exact iff_of_false List.not_mem_nil List.not_mem_nil
  | case2 unit =>
      rw [decode, List.mem_singleton, List.mem_singleton, eq_comm,
        decodeUnit_eq_nul_iff, eq_comm]
  | case3 first second rest isPair inductionHypothesis =>
      have high : first ≠ 0 := by
        rintro rfl
        exact absurd isPair.1 (by decide)
      have low : second ≠ 0 := by
        rintro rfl
        exact absurd isPair.2 (by decide)
      rw [decode, if_pos isPair, List.mem_cons, inductionHypothesis]
      simp [(decodePair_ne_nul isPair).symm, high.symm, low.symm]
  | case4 first second rest notPair inductionHypothesis =>
      have here : nul = decodeUnit first ↔ 0 = first := by
        rw [eq_comm, decodeUnit_eq_nul_iff, eq_comm]
      rw [decode, if_neg notPair, List.mem_cons, inductionHypothesis, here,
        ← List.mem_cons]

/-! ## Searching -/

theorem begins (char : Char) :
    ∃ first rest,
      encodeChar char = first :: rest ∧ ¬ isLow first ∧
        ∀ unit ∈ rest, ¬ ¬ isLow unit := by
  have valid := toNat_valid char
  unfold encodeChar
  split
  case isTrue basic =>
      refine ⟨_, [], rfl, ?_, fun unit member => nomatch member⟩
      rw [isLow, toNat_ofNat_of_lt basic]
      omega
  case isFalse beyond =>
      refine ⟨_, _, rfl, ?_, ?_⟩
      · rw [isLow, toNat_ofNat_of_lt (by omega)]
        omega
      · intro unit member
        obtain rfl := List.mem_singleton.mp member
        rw [not_not, isLow, toNat_ofNat_of_lt (by omega)]
        omega

theorem determined
    {first second : Char} {firstRest secondRest : List UInt16}
    (equal :
      encodeChar first ++ firstRest = encodeChar second ++ secondRest) :
    first = second := by
  have decoded := congrArg decode equal
  rw [decode_encodeChar_append, decode_encodeChar_append] at decoded
  exact (List.cons.inj decoded).1

theorem selfSync : SelfSync encodeChar fun unit => ¬ isLow unit where
  begins := begins
  determined := determined

theorem encode_isInfix_iff (word text : List Char) :
    encode word <:+: encode text ↔ word <:+: text :=
  selfSync.flatMap_isInfix_iff word text

end Utf16

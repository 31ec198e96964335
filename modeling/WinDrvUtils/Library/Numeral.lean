import Mathlib.Data.Nat.Digits.Lemmas

/-!
# Numerals

The text of a natural number in a base, with the most significant digit
first, letters for the digits from ten on, and a single zero for zero. A text
`Denotes` a number when its digits make the number and it has no zero in front
that could be left out.
-/

namespace Numeral

def digitChar (digit : Nat) : Char :=
  if digit < 10 then Char.ofNat (48 + digit) else Char.ofNat (55 + digit)

def text (base value : Nat) : List Char :=
  if value = 0 then ['0']
  else (Nat.digits base value).reverse.map digitChar

structure Denotes (base value : Nat) (text : List Char) : Prop where
  digits :
    ∃ digits : List Nat,
      text = digits.map digitChar ∧ (∀ digit ∈ digits, digit < base) ∧
        Nat.ofDigits base digits.reverse = value
  nonempty : text ≠ []
  noPadding : text.head? = some '0' → text = ['0']

theorem toNat_digitChar {digit : Nat} (small : digit < 36) :
    (digitChar digit).toNat =
      if digit < 10 then 48 + digit else 55 + digit := by
  unfold digitChar
  split
  · have valid : (48 + digit).isValidChar := .inl (by omega)
    rw [Char.ofNat, dif_pos valid]
    rfl
  · have valid : (55 + digit).isValidChar := .inl (by omega)
    rw [Char.ofNat, dif_pos valid]
    rfl

theorem digitChar_eq_zero_iff {digit : Nat} (small : digit < 36) :
    digitChar digit = '0' ↔ digit = 0 := by
  have value := toNat_digitChar small
  constructor
  · intro zero
    rw [zero] at value
    change 48 = _ at value
    split at value <;> omega
  · rintro rfl
    rfl

/-- The number of characters is bounded by the number of digits. -/
theorem length_text_le_iff
    {base length : Nat} (two : 1 < base) (some : length ≠ 0) (value : Nat) :
    (text base value).length ≤ length ↔ value < base ^ length := by
  by_cases zero : value = 0
  · have positive : 0 < base ^ length := by
      positivity
    simp only [text, zero, if_true, List.length_singleton, positive, iff_true]
    omega
  · simp only [text, zero, if_false, List.length_map, List.length_reverse]
    exact Nat.digits_length_le_iff two value

theorem denotes_text
    {base : Nat} (two : 1 < base) (letters : base ≤ 36) (value : Nat) :
    Denotes base value (text base value) := by
  by_cases zero : value = 0
  · refine ⟨⟨[0], ?_, ?_, ?_⟩, ?_, ?_⟩
    · simp [text, zero, digitChar]
    · simp
      omega
    · simp [zero]
    · simp [text, zero]
    · simp [text, zero]
  · have small : ∀ digit ∈ Nat.digits base value, digit < base :=
      fun digit member => Nat.digits_lt_base two member
    have some : Nat.digits base value ≠ [] :=
      Nat.digits_ne_nil_iff_ne_zero.mpr zero
    refine ⟨⟨(Nat.digits base value).reverse, ?_, ?_, ?_⟩, ?_, ?_⟩
    · simp [text, zero]
    · intro digit member
      exact small digit (List.mem_reverse.mp member)
    · rw [List.reverse_reverse, Nat.ofDigits_digits]
    · simp [text, zero, some]
    · intro leading
      simp only [text, zero, if_false, List.head?_map, List.head?_reverse,
        Option.map_eq_some_iff] at leading
      obtain ⟨digit, last, padded⟩ := leading
      have member := List.mem_of_getLast? last
      have bound := small digit member
      rw [digitChar_eq_zero_iff (by omega)] at padded
      have nonzero := Nat.getLast_digit_ne_zero base zero
      rw [List.getLast?_eq_getLast_of_ne_nil some] at last
      exact absurd ((Option.some.inj last).trans padded) nonzero

/-- All characters of a numeral are ASCII. -/
theorem toNat_lt_of_mem_text
    {base : Nat} (two : 1 < base) (letters : base ≤ 36) {value : Nat}
    {char : Char} (member : char ∈ text base value) :
    char.toNat < 128 := by
  obtain ⟨digits, equal, small, _⟩ :=
    (denotes_text two letters value).digits
  rw [equal, List.mem_map] at member
  obtain ⟨digit, inDigits, rfl⟩ := member
  have bound := small digit inDigits
  rw [toNat_digitChar (by omega)]
  split <;> omega

end Numeral

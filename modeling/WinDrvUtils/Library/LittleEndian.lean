import Mathlib.Data.Nat.Digits.Lemmas

/-!
# Little-endian integers

The integer that a run of bytes holds on a machine that stores the low byte
first. The bytes determine it, and it determines them when their number is
known.
-/

namespace LittleEndian

def ofBytes (bytes : List UInt8) : Nat :=
  Nat.ofDigits 256 (bytes.map UInt8.toNat)

@[simp]
theorem ofBytes_cons (byte : UInt8) (bytes : List UInt8) :
    ofBytes (byte :: bytes) = byte.toNat + 256 * ofBytes bytes := by
  simp [ofBytes, Nat.ofDigits_cons]

private theorem digit_lt
    {bytes : List UInt8} {digit : Nat}
    (member : digit ∈ bytes.map UInt8.toNat) :
    digit < 256 := by
  obtain ⟨byte, _, rfl⟩ := List.mem_map.mp member
  exact byte.toNat_lt

theorem ofBytes_append (low high : List UInt8) :
    ofBytes (low ++ high) = ofBytes low + 256 ^ low.length * ofBytes high := by
  simp [ofBytes, Nat.ofDigits_append]

theorem ofBytes_lt (bytes : List UInt8) :
    ofBytes bytes < 256 ^ bytes.length := by
  have bound := Nat.ofDigits_lt_base_pow_length
    (by decide) fun digit member => @digit_lt bytes digit member
  simpa [ofBytes] using bound

theorem ofBytes_inj
    {first second : List UInt8} (lengths : first.length = second.length) :
    ofBytes first = ofBytes second ↔ first = second := by
  constructor
  · intro same
    have digits := Nat.ofDigits_inj_of_len_eq
      (by decide) (by simpa using lengths)
      (fun digit member => @digit_lt first digit member)
      (fun digit member => @digit_lt second digit member) same
    exact List.map_injective_iff.mpr
      (fun _ _ equal => UInt8.toNat_inj.mp equal) digits
  · rintro rfl
    rfl

/-- An integer whose upper bytes are not zero is too large for the lower
ones. -/
theorem ofBytes_append_eq_iff (low high : List UInt8) :
    ofBytes (low ++ high) = ofBytes low ↔ ∀ byte ∈ high, byte = 0 := by
  have positive : 0 < 256 ^ low.length := by
    positivity
  rw [ofBytes_append, Nat.add_eq_left, Nat.mul_eq_zero]
  constructor
  · rintro (none | zero) byte member
    · omega
    · have digit := Nat.digits_zero_of_eq_zero (by decide) zero byte.toNat
        (List.mem_map.mpr ⟨byte, member, rfl⟩)
      exact UInt8.toNat_inj.mp digit
  · intro zeros
    have clear : high = List.replicate high.length 0 :=
      List.eq_replicate_iff.mpr ⟨rfl, zeros⟩
    right
    rw [clear]
    generalize high.length = length
    induction length with
    | zero => rfl
    | succ length ih => simp [List.replicate_succ, ih]

end LittleEndian

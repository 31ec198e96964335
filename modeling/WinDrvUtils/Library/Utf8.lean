import Mathlib.Data.List.Basic
import WinDrvUtils.Library.SelfSync

/-!
# UTF-8

The bytes of a text. The first byte of a character is none that occurs further
inside a character, so searching for bytes finds characters.
-/

namespace Utf8

def encode (text : List Char) : List UInt8 :=
  text.flatMap String.utf8EncodeChar

theorem begins (char : Char) :
    ∃ first rest,
      String.utf8EncodeChar char = first :: rest ∧ first.IsUTF8FirstByte ∧
        ∀ byte ∈ rest, ¬ byte.IsUTF8FirstByte := by
  have size := String.length_utf8EncodeChar char
  have positive := char.utf8Size_pos
  have starts :
      ∀ index (inside : index < (String.utf8EncodeChar char).length),
        (String.utf8EncodeChar char)[index].IsUTF8FirstByte ↔ index = 0 :=
    fun _ _ => UInt8.isUTF8FirstByte_getElem_utf8EncodeChar
  cases bytes : String.utf8EncodeChar char with
  | nil =>
      rw [bytes, List.length_nil] at size
      omega
  | cons first rest =>
      simp only [bytes] at starts
      refine ⟨first, rest, rfl, ?_, ?_⟩
      · exact (starts 0 (Nat.zero_lt_succ _)).mpr rfl
      · intro byte member starting
        obtain ⟨index, inside, rfl⟩ := List.getElem_of_mem member
        have zero :=
          (starts (index + 1) (Nat.succ_lt_succ inside)).mp starting
        exact Nat.succ_ne_zero index zero

theorem determined
    {first second : Char} {firstRest secondRest : List UInt8}
    (equal :
      String.utf8EncodeChar first ++ firstRest =
        String.utf8EncodeChar second ++ secondRest) :
    first = second := by
  have bytes := congrArg List.toByteArray equal
  rw [List.toByteArray_append, List.toByteArray_append] at bytes
  have firstDecoded :=
    @ByteArray.utf8DecodeChar?_utf8EncodeChar_append firstRest.toByteArray
      first
  have secondDecoded :=
    @ByteArray.utf8DecodeChar?_utf8EncodeChar_append secondRest.toByteArray
      second
  rw [bytes, secondDecoded] at firstDecoded
  exact (Option.some.inj firstDecoded).symm

theorem selfSync :
    SelfSync String.utf8EncodeChar fun byte => byte.IsUTF8FirstByte where
  begins := begins
  determined := determined

theorem encode_isInfix_iff (word text : List Char) :
    encode word <:+: encode text ↔ word <:+: text :=
  selfSync.flatMap_isInfix_iff word text

end Utf8

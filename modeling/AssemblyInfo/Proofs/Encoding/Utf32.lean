import AssemblyInfo.Encoding.Utf32
import AssemblyInfo.Proofs.Encoding.Utf8

/-!
# Reading what was written in UTF-32

The four bytes of a character have its number as their value, and the number of a character is always
read as that character.
-/

namespace AssemblyInfo.Encoding.Utf32

theorem charOf_toNat (c : Char) : charOf c.toNat = c := by
  unfold charOf
  rw [if_pos (Utf8.toNat_valid c)]
  exact Char.ofNat_toNat c

theorem point_encodeChar (order : ByteOrder) (c : Char) :
    ∃ first second third fourth, encodeChar order c = [first, second, third, fourth] ∧
      point order first second third fourth = c.toNat := by
  have valid := Utf8.toNat_valid c
  have lowest := Utf8.toNat_toUInt8 (n := c.toNat % 256) (by omega)
  have lower := Utf8.toNat_toUInt8 (n := c.toNat / 256 % 256) (by omega)
  have higher := Utf8.toNat_toUInt8 (n := c.toNat / 65536 % 256) (by omega)
  have highest := Utf8.toNat_toUInt8 (n := c.toNat / 16777216) (by omega)
  cases order with
  | littleEndian =>
    refine ⟨_, _, _, _, rfl, ?_⟩
    simp only [point, lowest, lower, higher, highest]
    omega
  | bigEndian =>
    refine ⟨_, _, _, _, rfl, ?_⟩
    simp only [point, lowest, lower, higher, highest]
    omega

/-- A text comes back from its bytes in either order. -/
theorem decodeReplacing_encode (order : ByteOrder) (chars : List Char) :
    decodeReplacing order (encode order chars) = chars := by
  unfold encode
  induction chars with
  | nil => rfl
  | cons c rest ih =>
    obtain ⟨first, second, third, fourth, bytes, same⟩ := point_encodeChar order c
    rw [List.flatMap_cons, bytes]
    simp only [List.cons_append, List.nil_append, decodeReplacing, same, charOf_toNat, ih]

end AssemblyInfo.Encoding.Utf32

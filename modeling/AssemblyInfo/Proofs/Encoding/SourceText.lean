import AssemblyInfo.Encoding.SourceText
import AssemblyInfo.Proofs.Encoding.Utf8

/-!
# Source texts in UTF-8

The byte order marks start with bytes that no text with an ASCII character at its start starts with.
So such a text is read from its bytes without a mark.
-/

namespace AssemblyInfo.Encoding

theorem markedCharset?_eq_none {byte : UInt8} (positive : 0 < byte.toNat) (ascii : byte.toNat < 0x80)
    (rest : List UInt8) : markedCharset? (byte :: rest) = none := by
  have other : ∀ first : UInt8, first.toNat = 0 ∨ 0x80 ≤ first.toNat → (first == byte) = false := by
    intro first outside
    rw [beq_eq_false_iff_ne]
    rintro rfl
    omega
  unfold markedCharset? Charset.all
  rw [List.find?_eq_none]
  intro charset member
  have first : ∃ start more, charset.mark = start :: more ∧ (start.toNat = 0 ∨ 0x80 ≤ start.toNat) := by
    cases charset with
    | utf8 => exact ⟨_, _, rfl, by decide⟩
    | utf16 order => cases order <;> exact ⟨_, _, rfl, by decide⟩
    | utf32 order => cases order <;> exact ⟨_, _, rfl, by decide⟩
  obtain ⟨start, more, same, outside⟩ := first
  rw [same, List.isPrefixOf, other start outside]
  exact Bool.false_ne_true

/-- A text that starts with an ASCII character is read from its bytes in UTF-8. -/
theorem decodeSource_encode {c : Char} (positive : 0 < c.toNat) (ascii : c.toNat < 0x80)
    (rest : List Char) : decodeSource (Utf8.encode (c :: rest)) = c :: rest := by
  have value := Utf8.toNat_toUInt8 (n := c.toNat) (by omega)
  have bytes : Utf8.encode (c :: rest) = c.toNat.toUInt8 :: Utf8.encode rest := by
    rw [Utf8.encode, List.flatMap_cons, Utf8.encodeChar]
    simp only [ascii, if_true, List.singleton_append]
    rfl
  have unmarked : markedCharset? (Utf8.encode (c :: rest)) = none := by
    rw [bytes]
    exact markedCharset?_eq_none (by omega) (by omega) _
  unfold decodeSource
  rw [unmarked]
  exact Utf8.decodeReplacing_encode (c :: rest)

end AssemblyInfo.Encoding

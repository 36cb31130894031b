import AssemblyInfo.Encoding.SourceText
import AssemblyInfo.Proofs.Encoding.Utf16
import AssemblyInfo.Proofs.Encoding.Utf32

/-!
# Forms of a source text

A text can stand in a file behind a byte order mark, in any encoding, or without a mark in UTF-8. It is
read back from each of these forms. Two texts have to be left out: one that starts with the null
character makes the mark of UTF-16 with the low byte first look like the one of UTF-32, and one that
starts with U+FEFF looks like a mark itself.
-/

namespace AssemblyInfo.Encoding

/-- How a text stands in a file. -/
inductive SourceForm where
  | marked (charset : Charset)
  | plain
  deriving DecidableEq, Repr

namespace SourceForm

/-- `form.bytes chars` is the bytes of a file with the text `chars`. -/
def bytes : SourceForm → List Char → List UInt8
  | .marked charset, chars => charset.mark ++ charset.encode chars
  | .plain, chars => Utf8.encode chars

/-- `form.Suits chars` says that the bytes of `chars` cannot be mistaken for those of another form. -/
def Suits : SourceForm → List Char → Prop
  | .marked (.utf16 .littleEndian), chars => chars.head? ≠ some '\x00'
  | .marked _, _ => True
  | .plain, chars => chars.head? ≠ some '\uFEFF'

end SourceForm

theorem Charset.decode_encode (charset : Charset) (chars : List Char) :
    charset.decode (charset.encode chars) = chars := by
  cases charset with
  | utf8 => exact Utf8.decodeReplacing_encode chars
  | utf16 order => exact Utf16.decodeReplacing_encode order chars
  | utf32 order => exact Utf32.decodeReplacing_encode order chars

/-! ### Marks -/

/-- Two null bytes are the unit of the null character, so no other text starts with them. -/
theorem not_nulls_isPrefixOf_encode {chars : List Char} (start : chars.head? ≠ some '\x00') :
    [0x00, 0x00].isPrefixOf (Utf16.encode .littleEndian chars) = false := by
  cases chars with
  | nil => rfl
  | cons c rest =>
    have positive : 0 < c.toNat := by
      rw [Nat.pos_iff_ne_zero]
      intro zero
      have null : c = '\x00' := by rw [← Char.ofNat_toNat c, zero]
      exact start (congrArg some null)
    obtain ⟨u, more, units, nonzero⟩ : ∃ u more, Utf16.charUnits c = u :: more ∧ u ≠ 0 := by
      unfold Utf16.charUnits
      split
      · exact ⟨c.toNat, [], rfl, by omega⟩
      · exact ⟨_, _, rfl, by omega⟩
    have small : u < 0x10000 := Utf16.charUnits_small (by rw [units]; exact List.mem_cons_self)
    obtain ⟨first, second, pair, value⟩ := Utf16.unit_encodeUnit .littleEndian small
    have encoded : Utf16.encode .littleEndian (c :: rest) = first :: second ::
        (more.flatMap (Utf16.encodeUnit .littleEndian) ++ Utf16.encode .littleEndian rest) := by
      unfold Utf16.encode
      rw [List.flatMap_cons, units, List.cons_append, List.flatMap_cons, pair, List.flatMap_append]
      rfl
    rw [encoded, Bool.eq_false_iff]
    intro nulls
    simp only [List.isPrefixOf, Bool.and_true, Bool.and_eq_true, beq_iff_eq] at nulls
    obtain ⟨rfl, rfl⟩ := nulls
    exact nonzero value.symm

/-- A mark is recognised as it is, whatever follows: the marks that are looked for earlier differ from
it in a byte, except for the two that start alike. -/
theorem markedCharset?_mark {charset : Charset} {bytes : List UInt8}
    (distinct : charset = .utf16 .littleEndian → [0x00, 0x00].isPrefixOf bytes = false) :
    markedCharset? (charset.mark ++ bytes) = some charset := by
  cases charset with
  | utf8 => rfl
  | utf32 order => cases order <;> rfl
  | utf16 order =>
    cases order with
    | bigEndian => rfl
    | littleEndian =>
      have longer : (Charset.utf32 .littleEndian).mark.isPrefixOf
          ((Charset.utf16 .littleEndian).mark ++ bytes) = false := distinct rfl
      rw [markedCharset?, Charset.all, List.find?_cons_of_neg (by rw [longer]; exact Bool.false_ne_true)]
      rfl

/-- No byte of a text in UTF-8 is as high as the bytes of the other marks. -/
theorem byte_lt_of_mem_encode {chars : List Char} {byte : UInt8} (member : byte ∈ Utf8.encode chars) :
    byte.toNat < 0xF8 := by
  obtain ⟨c, _, found⟩ := List.mem_flatMap.1 member
  have valid := Utf8.toNat_valid c
  have small : ∀ n : Nat, n < 0xF8 → n.toUInt8.toNat < 0xF8 := by
    intro n low
    rw [Utf8.toNat_toUInt8 (by omega)]
    exact low
  unfold Utf8.encodeChar at found
  simp only at found
  split at found
  · rw [List.mem_singleton.1 found]
    exact small _ (by omega)
  · split at found
    · simp only [List.mem_cons, List.not_mem_nil, or_false] at found
      rcases found with rfl | rfl <;> exact small _ (by omega)
    · split at found
      · simp only [List.mem_cons, List.not_mem_nil, or_false] at found
        rcases found with rfl | rfl | rfl <;> exact small _ (by omega)
      · simp only [List.mem_cons, List.not_mem_nil, or_false] at found
        rcases found with rfl | rfl | rfl | rfl <;> exact small _ (by omega)

/-- The mark of UTF-8 is the bytes of U+FEFF, so only a text with that character starts with it. -/
theorem head?_of_mark_isPrefixOf_encode {chars : List Char}
    (marked : Charset.utf8.mark.isPrefixOf (Utf8.encode chars) = true) : chars.head? = some '\uFEFF' := by
  obtain ⟨more, same⟩ := List.isPrefixOf_iff_prefix.1 marked
  have mark : Charset.utf8.mark = Utf8.encodeChar '\uFEFF' := by decide
  have pieces := Utf8.pieces_encode chars
  rw [← same, mark, Utf8.pieces, Utf8.piecesFrom_encodeChar] at pieces
  cases chars with
  | nil => cases pieces
  | cons c rest =>
    rw [List.map_cons, List.cons.injEq] at pieces
    obtain rfl := Utf8.Piece.char.inj pieces.1
    rfl

theorem markedCharset?_encode {chars : List Char} (start : chars.head? ≠ some '\uFEFF') :
    markedCharset? (Utf8.encode chars) = none := by
  have high : ∀ charset : Charset, 0xFE ∈ charset.mark →
      charset.mark.isPrefixOf (Utf8.encode chars) = false := by
    intro charset member
    rw [Bool.eq_false_iff]
    intro marked
    have found := (List.isPrefixOf_iff_prefix.1 marked).subset member
    exact absurd (byte_lt_of_mem_encode found) (by decide)
  unfold markedCharset?
  rw [List.find?_eq_none]
  intro charset _
  cases charset with
  | utf8 =>
    intro marked
    exact start (head?_of_mark_isPrefixOf_encode marked)
  | utf16 order =>
    rw [high _ (by cases order <;> decide)]
    exact Bool.false_ne_true
  | utf32 order =>
    rw [high _ (by cases order <;> decide)]
    exact Bool.false_ne_true

/-- A text is read back from each form that suits it. -/
theorem SourceForm.decodeSource_bytes {form : SourceForm} {chars : List Char} (suits : form.Suits chars) :
    decodeSource (form.bytes chars) = chars := by
  unfold decodeSource
  cases form with
  | plain =>
    rw [bytes, markedCharset?_encode suits]
    exact Utf8.decodeReplacing_encode chars
  | marked charset =>
    have distinct : charset = .utf16 .littleEndian →
        [0x00, 0x00].isPrefixOf (charset.encode chars) = false := by
      rintro rfl
      exact not_nulls_isPrefixOf_encode suits
    rw [bytes, markedCharset?_mark distinct]
    simp only [List.drop_left, Charset.decode_encode]

end AssemblyInfo.Encoding

import AssemblyInfo.Encoding.Utf16
import AssemblyInfo.Proofs.Encoding.Utf8

/-!
# Reading what was written in UTF-16

A character below 0x10000 is no surrogate, so its unit stands for itself; any other character is
written as a surrogate pair, from which its number is put together again. Either way the units of a
character are read as that character, whatever follows them.
-/

namespace AssemblyInfo.Encoding.Utf16

/-! ### Units of two bytes -/

theorem unit_encodeUnit (order : ByteOrder) {u : Nat} (small : u < 0x10000) :
    ∃ first second, encodeUnit order u = [first, second] ∧ unit order first second = u := by
  have low := Utf8.toNat_toUInt8 (n := u % 256) (by omega)
  have high := Utf8.toNat_toUInt8 (n := u / 256) (by omega)
  cases order with
  | littleEndian =>
    refine ⟨_, _, rfl, ?_⟩
    simp only [unit, low, high]
    omega
  | bigEndian =>
    refine ⟨_, _, rfl, ?_⟩
    simp only [unit, low, high]
    omega

theorem units_flatMap_encodeUnit (order : ByteOrder) {us : List Nat} (small : ∀ u ∈ us, u < 0x10000) :
    units order (us.flatMap (encodeUnit order)) = (us, false) := by
  induction us with
  | nil => rfl
  | cons u rest ih =>
    rw [List.forall_mem_cons] at small
    obtain ⟨first, second, bytes, same⟩ := unit_encodeUnit order small.1
    rw [List.flatMap_cons, bytes, List.cons_append, List.singleton_append, units, ih small.2, same]

theorem charUnits_small {c : Char} {u : Nat} (member : u ∈ charUnits c) : u < 0x10000 := by
  have valid := Utf8.toNat_valid c
  unfold charUnits at member
  split at member
  · rw [List.mem_singleton.1 member]
    assumption
  · simp only [List.mem_cons, List.not_mem_nil, or_false] at member
    omega

/-! ### Characters -/

theorem readUnits_single {u : Nat} (notFirst : isFirstSurrogate u = false)
    (notSecond : isSecondSurrogate u = false) (rest : List Nat) :
    readUnits false (u :: rest) = Char.ofNat u :: readUnits false rest := by
  cases rest <;> simp [readUnits, notFirst, notSecond]

theorem readUnits_pair {u v : Nat} (first : isFirstSurrogate u = true)
    (second : isSecondSurrogate v = true) (rest : List Nat) :
    readUnits false (u :: v :: rest) =
      Char.ofNat (0x10000 + (u - 0xD800) * 1024 + (v - 0xDC00)) :: readUnits false rest := by
  simp [readUnits, first, second]

/-- The units of a character are read as that character, whatever follows. -/
theorem readUnits_charUnits (c : Char) (rest : List Nat) :
    readUnits false (charUnits c ++ rest) = c :: readUnits false rest := by
  have valid := Utf8.toNat_valid c
  have same := Char.ofNat_toNat c
  unfold charUnits
  split
  · have notFirst : isFirstSurrogate c.toNat = false := by
      simp only [isFirstSurrogate, Bool.and_eq_false_iff, decide_eq_false_iff_not]
      omega
    have notSecond : isSecondSurrogate c.toNat = false := by
      simp only [isSecondSurrogate, Bool.and_eq_false_iff, decide_eq_false_iff_not]
      omega
    rw [List.singleton_append, readUnits_single notFirst notSecond, same]
  · have remainder := Nat.mod_lt (c.toNat - 0x10000) (by decide : 0 < 1024)
    have first : isFirstSurrogate (0xD800 + (c.toNat - 0x10000) / 1024) = true := by
      simp only [isFirstSurrogate, Bool.and_eq_true, decide_eq_true_eq]
      omega
    have second : isSecondSurrogate (0xDC00 + (c.toNat - 0x10000) % 1024) = true := by
      simp only [isSecondSurrogate, Bool.and_eq_true, decide_eq_true_eq]
      omega
    have whole : 0x10000 + (0xD800 + (c.toNat - 0x10000) / 1024 - 0xD800) * 1024 +
        (0xDC00 + (c.toNat - 0x10000) % 1024 - 0xDC00) = c.toNat := by omega
    rw [List.cons_append, List.singleton_append, readUnits_pair first second, whole, same]

theorem readUnits_flatMap_charUnits (chars : List Char) :
    readUnits false (chars.flatMap charUnits) = chars := by
  induction chars with
  | nil => rfl
  | cons c rest ih => rw [List.flatMap_cons, readUnits_charUnits, ih]

/-- A text comes back from its bytes in either order. -/
theorem decodeReplacing_encode (order : ByteOrder) (chars : List Char) :
    decodeReplacing order (encode order chars) = chars := by
  have small : ∀ u ∈ chars.flatMap charUnits, u < 0x10000 := by
    intro u member
    obtain ⟨c, _, unitOfChar⟩ := List.mem_flatMap.1 member
    exact charUnits_small unitOfChar
  rw [decodeReplacing, encode, units_flatMap_encodeUnit order small]
  exact readUnits_flatMap_charUnits chars

end AssemblyInfo.Encoding.Utf16

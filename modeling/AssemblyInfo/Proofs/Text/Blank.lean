import AssemblyInfo.Text.Blank

/-!
# Texts that are not blank

A text with a character that is not blank is not blank. Digits are such characters.
-/

namespace AssemblyInfo.Text

theorem allBlank_eq_false {chars : List Char} {c : Char} (member : c ∈ chars)
    (solid : isBlank c = false) : allBlank chars = false := by
  unfold allBlank
  rw [List.all_eq_false]
  exact ⟨c, member, by rw [solid]; exact Bool.false_ne_true⟩

theorem isBlank_digit {c : Char} (digit : c.isDigit = true) : isBlank c = false := by
  have all : ∀ n < 10, isBlank (Char.ofNat (48 + n)) = false := by decide
  rw [Char.isDigit, Bool.and_eq_true, decide_eq_true_eq, decide_eq_true_eq] at digit
  have low : 48 ≤ c.toNat := UInt32.le_iff_toNat_le.1 digit.1
  have high : c.toNat ≤ 57 := UInt32.le_iff_toNat_le.1 digit.2
  have here := all (c.toNat - 48) (by omega)
  rwa [Nat.add_sub_cancel' low, Char.ofNat_toNat] at here

end AssemblyInfo.Text

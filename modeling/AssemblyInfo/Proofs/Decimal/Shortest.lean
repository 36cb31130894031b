import AssemblyInfo.Decimal.Notation
import Mathlib.Data.List.TakeWhile

/-!
# Digits of shortest decimals

The interval around a double that is not zero does not hold zero, so its shortest decimal has a digit
that is not zero, and that digit is written.
-/

namespace AssemblyInfo.Decimal

/-! ### Zero is outside -/

theorem num_scale_pos {n base : Nat} (positive : 0 < n) (basePositive : 0 < base) (exponent : Int) :
    0 < (Ratio.scale n base exponent).num := by
  cases exponent with
  | ofNat exponent => exact Nat.mul_pos positive (Nat.pow_pos basePositive)
  | negSucc exponent => exact positive

theorem den_scale_pos (n : Nat) {base : Nat} (basePositive : 0 < base) (exponent : Int) :
    0 < (Ratio.scale n base exponent).den := by
  cases exponent with
  | ofNat exponent => exact Nat.one_pos
  | negSucc exponent => exact Nat.pow_pos basePositive

theorem num_scale_zero (base : Nat) (exponent : Int) : (Ratio.scale 0 base exponent).num = 0 := by
  cases exponent with
  | ofNat exponent => exact Nat.zero_mul _
  | negSucc exponent => rfl

theorem holds_zero {rounding : Rounding} (positive : 0 < rounding.lower.num) (exponent : Int) :
    rounding.holds (.scale 0 10 exponent) = false := by
  have den := den_scale_pos 0 (by decide : 0 < 10) exponent
  have above : rounding.lower.compare (.scale 0 10 exponent) = .gt := by
    unfold Ratio.compare
    rw [num_scale_zero, Nat.zero_mul, Nat.compare_eq_gt]
    exact Nat.mul_pos positive den
  unfold Rounding.holds
  rw [above]

theorem digits_pos_of_onGrid? {rounding : Rounding} (positive : 0 < rounding.lower.num)
    {exponent : Int} {decimal : Scientific} (found : rounding.onGrid? exponent = some decimal) :
    0 < decimal.digits := by
  have outside : ∀ n, rounding.holds (.scale n 10 exponent) = true → 0 < n := by
    intro n held
    rcases Nat.eq_zero_or_pos n with zero | more
    · rw [zero, holds_zero positive] at held
      cases held
    · exact more
  unfold Rounding.onGrid? at found
  simp only at found
  split at found
  · rename_i held _
    obtain rfl := Option.some.inj found
    have before := outside _ held
    unfold nearer
    simp only
    split
    · exact before
    · exact Nat.succ_pos _
    · split
      · exact before
      · exact Nat.succ_pos _
  · rename_i held _
    obtain rfl := Option.some.inj found
    exact outside _ held
  · obtain rfl := Option.some.inj found
    exact Nat.succ_pos _
  · cases found

/-- The shortest decimal has digits, unless none was found on any grid. -/
theorem shortest_digits {rounding : Rounding} (positive : 0 < rounding.lower.num) :
    0 < rounding.shortest.digits ∨ rounding.shortest = ⟨0, 0⟩ := by
  unfold Rounding.shortest
  simp only
  generalize search : (List.range 17).findSome? _ = found
  cases found with
  | none => exact Or.inr rfl
  | some decimal =>
    obtain ⟨more, _, onGrid⟩ := List.exists_of_findSome?_eq_some search
    exact Or.inl (digits_pos_of_onGrid? positive onGrid)

theorem num_lower_pos {mantissa : Nat} (nonzero : mantissa ≠ 0) (exponent : Int) :
    0 < (Rounding.of mantissa exponent).lower.num := by
  apply num_scale_pos _ (by decide)
  split <;> omega

/-! ### Written digits -/

theorem dropZeros_ne_nil {n : Nat} (positive : 0 < n) : dropZeros (naturalText n) ≠ [] := by
  intro empty
  have zeros : ∀ c ∈ naturalText n, c = '0' := by
    intro c member
    rw [dropZeros, List.reverse_eq_nil_iff, List.dropWhile_eq_nil_iff] at empty
    simpa using empty c (List.mem_reverse.2 member)
  have digits := Nat.ofDigitChars_ten_toDigits (n := n)
  rw [← naturalText, List.eq_replicate_of_mem zeros, Nat.ofDigitChars_replicate_zero] at digits
  omega

theorem mem_pointedText (digits : List Char) (point : Int) : '.' ∈ pointedText digits point := by
  unfold pointedText
  split
  · simp
  · split <;> simp
  · simp

theorem mem_exponentialText {digits : List Char} (nonempty : digits ≠ []) (exponent : Int) :
    'e' ∈ exponentialText digits exponent := by
  unfold exponentialText
  split
  · exact (nonempty rfl).elim
  · simp [exponentText]
  · simp [exponentText]

/-- A finite number is written with a point or an exponent. -/
theorem mem_finiteText (mantissa : Nat) (exponent : Int) :
    '.' ∈ finiteText mantissa exponent ∨ 'e' ∈ finiteText mantissa exponent := by
  unfold finiteText
  split
  · exact Or.inl (by decide)
  · rename_i nonzero
    simp only
    rcases shortest_digits (num_lower_pos nonzero exponent) with positive | none
    · unfold scientificText
      split
      · exact Or.inl (mem_pointedText _ _)
      · exact Or.inr (mem_exponentialText (dropZeros_ne_nil positive) _)
    · rw [none]
      exact Or.inl (by decide)

end AssemblyInfo.Decimal

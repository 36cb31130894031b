import AssemblyInfo.Proofs.Decimal.Shortest

/-!
# Characters of numbers

Numbers are written with digits, a sign, a point and an exponent, and start with a digit or a sign.
-/

namespace AssemblyInfo.Decimal

/-- `isNumeric c` holds of the characters of numbers. -/
def isNumeric (c : Char) : Bool :=
  c.isDigit || c = '.' || c = 'e' || c = '+' || c = '-'

theorem isNumeric_of_isDigit {c : Char} (digit : c.isDigit = true) : isNumeric c = true := by
  simp [isNumeric, digit]

/-- `allNumeric chars` says that `chars` holds characters of numbers only. -/
def allNumeric (chars : List Char) : Bool :=
  chars.all isNumeric

theorem allNumeric_append (first second : List Char) :
    allNumeric (first ++ second) = (allNumeric first && allNumeric second) :=
  List.all_append

theorem allNumeric_cons (c : Char) (rest : List Char) :
    allNumeric (c :: rest) = (isNumeric c && allNumeric rest) := rfl

theorem allNumeric_of_sublist {part whole : List Char} (within : part.Sublist whole)
    (all : allNumeric whole = true) : allNumeric part = true :=
  List.all_eq_true.2 fun c member => List.all_eq_true.1 all c (within.subset member)

theorem allNumeric_zeros (n : Nat) : allNumeric (List.replicate n '0') = true := by
  simp [allNumeric, isNumeric]

theorem isDigit_of_mem_naturalText {n : Nat} {c : Char} (member : c ∈ naturalText n) : c.isDigit = true :=
  Nat.isDigit_of_mem_toDigits (by decide) (by decide) member

theorem exists_naturalText (n : Nat) : ∃ c rest, naturalText n = c :: rest ∧ c.isDigit = true := by
  obtain ⟨c, rest, written⟩ := List.exists_cons_of_ne_nil (Nat.toDigits_ne_nil (n := n) (b := 10))
  change naturalText n = c :: rest at written
  exact ⟨c, rest, written, isDigit_of_mem_naturalText (written ▸ List.mem_cons_self)⟩

theorem exists_integerText (n : Int) :
    ∃ c rest, integerText n = c :: rest ∧ (c = '-' ∨ c.isDigit = true) := by
  cases n with
  | negSucc n => exact ⟨'-', _, rfl, Or.inl rfl⟩
  | ofNat n =>
    obtain ⟨c, rest, written, digit⟩ := exists_naturalText n
    exact ⟨c, rest, written, Or.inr digit⟩

theorem allNumeric_naturalText (n : Nat) : allNumeric (naturalText n) = true :=
  List.all_eq_true.2 fun _ member => isNumeric_of_isDigit (isDigit_of_mem_naturalText member)

theorem allNumeric_integerText (n : Int) : allNumeric (integerText n) = true := by
  cases n with
  | ofNat n => exact allNumeric_naturalText n
  | negSucc n =>
    rw [integerText, allNumeric_cons, allNumeric_naturalText]
    rfl

theorem allNumeric_dropZeros {digits : List Char} (all : allNumeric digits = true) :
    allNumeric (dropZeros digits) = true := by
  refine allNumeric_of_sublist (List.reverse_sublist.1 ?_) all
  rw [dropZeros, List.reverse_reverse]
  exact List.dropWhile_sublist _

theorem allNumeric_exponentText (exponent : Int) : allNumeric (exponentText exponent) = true := by
  have sign : isNumeric (if exponent < 0 then '-' else '+') = true := by split <;> rfl
  have padded : ∀ chars, allNumeric chars = true →
      allNumeric (if chars.length < 2 then '0' :: chars else chars) = true := by
    intro chars all
    split
    · rw [allNumeric_cons, all]
      rfl
    · exact all
  rw [exponentText, allNumeric_cons, allNumeric_cons, sign, padded _ (allNumeric_naturalText exponent.natAbs)]
  rfl

theorem allNumeric_pointedText {digits : List Char} (all : allNumeric digits = true) (point : Int) :
    allNumeric (pointedText digits point) = true := by
  have zeros := allNumeric_zeros
  cases point with
  | ofNat point =>
    cases point with
    | zero =>
      rw [pointedText, allNumeric_cons, allNumeric_cons, all]
      rfl
    | succ point =>
      have before := allNumeric_of_sublist (List.take_sublist (point + 1) digits) all
      have after := allNumeric_of_sublist (List.drop_sublist (point + 1) digits) all
      rw [pointedText]
      split
      · rw [allNumeric_append, allNumeric_append, all, zeros]
        rfl
      · rw [allNumeric_append, allNumeric_cons, before, after]
        rfl
      · exact fun impossible => Nat.succ_ne_zero _ impossible
  | negSucc point =>
    rw [pointedText, List.cons_append, List.cons_append, allNumeric_cons, allNumeric_cons, allNumeric_append, zeros,
      all]
    rfl

theorem allNumeric_exponentialText {digits : List Char} (all : allNumeric digits = true) (exponent : Int) :
    allNumeric (exponentialText digits exponent) = true := by
  have last := allNumeric_exponentText exponent
  cases digits with
  | nil => rfl
  | cons d rest =>
    rw [allNumeric_cons, Bool.and_eq_true] at all
    cases rest with
    | nil =>
      rw [exponentialText, allNumeric_cons, all.1, last]
      rfl
    | cons e rest =>
      rw [exponentialText, List.cons_append, allNumeric_cons, List.cons_append, allNumeric_cons, allNumeric_append,
        all.1, all.2, last]
      · rfl
      · exact List.cons_ne_nil _ _

theorem allNumeric_finiteText (mantissa : Nat) (exponent : Int) :
    allNumeric (finiteText mantissa exponent) = true := by
  rw [finiteText]
  split
  · rfl
  · have digits := allNumeric_dropZeros (allNumeric_naturalText (Rounding.of mantissa exponent).shortest.digits)
    simp only [scientificText]
    split
    · exact allNumeric_pointedText digits _
    · exact allNumeric_exponentialText digits _

theorem finiteText_ne_nil (mantissa : Nat) (exponent : Int) : finiteText mantissa exponent ≠ [] := by
  rcases mem_finiteText mantissa exponent with point | letter
  · exact List.ne_nil_of_mem point
  · exact List.ne_nil_of_mem letter

/-- A double is written as a number, whatever the names, or by one of the names. -/
theorem floatTextWith_cases (x : Float) :
    (∃ chars, chars ≠ [] ∧ allNumeric chars = true ∧ ∀ names, floatTextWith names x = chars) ∨
      (∀ names, floatTextWith names x = names.infinity) ∨ (∀ names, floatTextWith names x = '-' :: names.infinity) ∨
      magnitude x = .notANumber ∧ ∀ names, floatTextWith names x = names.notANumber := by
  unfold floatTextWith
  cases magnitude x with
  | finite mantissa exponent =>
    refine Or.inl ?_
    have all := allNumeric_finiteText mantissa exponent
    by_cases negative : isNegative x = true
    · exact ⟨'-' :: finiteText mantissa exponent, List.cons_ne_nil _ _, by rw [allNumeric_cons, all]; rfl,
        fun _ => if_pos negative⟩
    · exact ⟨_, finiteText_ne_nil mantissa exponent, all, fun _ => if_neg negative⟩
  | infinite =>
    by_cases negative : isNegative x = true
    · exact Or.inr (Or.inr (Or.inl fun _ => if_pos negative))
    · exact Or.inr (Or.inl fun _ => if_neg negative)
  | notANumber => exact Or.inr (Or.inr (Or.inr ⟨rfl, fun _ => rfl⟩))

end AssemblyInfo.Decimal

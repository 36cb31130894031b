import AssemblyInfo.Text.LowerCase
import Mathlib.Data.List.TakeWhile

/-!
# Lower case forms between boundaries

The form of a capital sigma depends on the letters around it, but not on what lies behind a character
that is no letter and is not passed over, such as a double quote. Between two of these a text has the
lower case form that it has alone. Of the characters beyond ASCII only two have a form that starts within
ASCII, so most ASCII words are the lower case form of their own spellings only.
-/

namespace AssemblyInfo.Text

/-- `IsBoundary c` says that the search for the end of a word stops at `c`, without finding a letter. -/
def IsBoundary (c : Char) : Prop :=
  casedTable.has c = false ∧ caseIgnorableTable.has c = false

theorem isBoundary_doubleQuote : IsBoundary '"' :=
  ⟨by decide +kernel, by decide +kernel⟩

theorem nextIsCased_boundary {c : Char} (boundary : IsBoundary c) (rest : List Char) :
    nextIsCased (c :: rest) = false := by
  unfold nextIsCased
  rw [List.dropWhile_cons_of_neg (by rw [boundary.2]; exact Bool.false_ne_true)]
  exact boundary.1

theorem nextIsCased_append_boundary {c : Char} (boundary : IsBoundary c) (chars rest : List Char) :
    nextIsCased (chars ++ c :: rest) = nextIsCased chars := by
  induction chars with
  | nil => exact nextIsCased_boundary boundary rest
  | cons first chars ih =>
    unfold nextIsCased at ih ⊢
    rw [List.cons_append]
    by_cases ignorable : caseIgnorableTable.has first = true
    · rw [List.dropWhile_cons_of_pos ignorable, List.dropWhile_cons_of_pos ignorable]
      exact ih
    · rw [List.dropWhile_cons_of_neg ignorable, List.dropWhile_cons_of_neg ignorable]

theorem lowerSigma_between {opening closing : Char} (opened : IsBoundary opening)
    (closed : IsBoundary closing) (before after outside beyond : List Char) :
    lowerSigma (before ++ opening :: outside) (after ++ closing :: beyond) = lowerSigma before after := by
  unfold lowerSigma
  rw [nextIsCased_append_boundary opened, nextIsCased_append_boundary closed]

/-- Of the text between two boundaries nothing depends on what is outside. -/
theorem lowerFrom_between {opening closing : Char} (opened : IsBoundary opening)
    (closed : IsBoundary closing) (before text outside beyond : List Char) :
    lowerFrom (before ++ opening :: outside) (text ++ closing :: beyond) =
      lowerFrom before text ++
        lowerFrom (text.reverse ++ before ++ opening :: outside) (closing :: beyond) := by
  induction text generalizing before with
  | nil => rfl
  | cons c rest ih =>
    have same : lowerIn (before ++ opening :: outside) c (rest ++ closing :: beyond) =
        lowerIn before c rest := by
      unfold lowerIn
      rw [lowerSigma_between opened closed]
    have later := ih (c :: before)
    rw [List.cons_append] at later
    rw [List.cons_append, lowerFrom, lowerFrom, same, later, List.append_assoc, List.reverse_cons]
    simp

/-! ### Line feeds -/

theorem newline_mem_lowerFrom (before : List Char) {text : List Char} (member : '\n' ∈ text) :
    '\n' ∈ lowerFrom before text := by
  induction text generalizing before with
  | nil => cases member
  | cons c rest ih =>
    rw [lowerFrom, List.mem_append]
    rcases List.mem_cons.1 member with rfl | later
    · have here : lowerIn before '\n' rest = ['\n'] := rfl
      rw [here]
      exact Or.inl List.mem_cons_self
    · exact Or.inr (ih (c :: before) later)

theorem newline_mem_lower {text : String} (member : '\n' ∈ text.toList) : '\n' ∈ (lower text).toList := by
  rw [lower, String.toList_ofList]
  exact newline_mem_lowerFrom [] member

/-! ### ASCII -/

theorem toLower_of_not_ascii {c : Char} (large : 0x80 ≤ c.toNat) : c.toLower = c := by
  have beyond : ¬ (c.val ≥ 'A'.val ∧ c.val ≤ 'Z'.val) := by
    rintro ⟨-, small⟩
    have small := UInt32.le_iff_toNat_le.1 small
    change c.toNat ≤ 90 at small
    omega
  exact dif_neg beyond

theorem lowerAscii_eq_toLower {c : Char} (small : c.toNat < 0x80) : lowerAscii c = c.toLower := by
  have all : ∀ n < 0x80, lowerAscii (Char.ofNat n) = (Char.ofNat n).toLower := by decide
  have here := all c.toNat small
  rwa [Char.ofNat_toNat] at here

theorem toLower_cases (c : Char) : c.toLower = c ∨ c.toLower.isLower = true := by
  by_cases small : c.toNat < 0x80
  · have all : ∀ n < 0x80, (Char.ofNat n).toLower = Char.ofNat n ∨ (Char.ofNat n).toLower.isLower = true := by
      decide
    have here := all c.toNat small
    rwa [Char.ofNat_toNat] at here
  · exact Or.inl (toLower_of_not_ascii (by omega))

theorem toNat_charOfNat {n : Nat} (valid : n.isValidChar) : (Char.ofNat n).toNat = n := by
  rw [Char.ofNat, dif_pos valid]
  rfl

/-- Every capital beyond ASCII has a lower case form beyond ASCII, apart from the Kelvin sign. -/
theorem lowerChar_of_not_ascii {c : Char} (large : 0x80 ≤ c.toNat) :
    lowerChar c = 'k' ∨ 0x80 ≤ (lowerChar c).toNat := by
  have images : ∀ run ∈ capitalRuns, run.1 = run.2.1 ∧ run.2.2.2 = 'k'.toNat ∨
      0x80 ≤ run.2.2.2 ∧ (run.2.2.2 + (run.2.1 - run.1) < 0xD800 ∨
        0xDFFF < run.2.2.2 ∧ run.2.2.2 + (run.2.1 - run.1) < 0x110000) := by
    decide +kernel
  unfold lowerChar
  rw [if_neg (by omega)]
  dsimp only
  split
  · rename_i first last step image found
    have within := List.find?_some found
    rw [Bool.and_eq_true, Bool.and_eq_true, decide_eq_true_eq, decide_eq_true_eq] at within
    obtain ⟨⟨above, below⟩, -⟩ := within
    dsimp only at above below
    rcases images _ (List.mem_of_find?_eq_some found) with ⟨single, kelvin⟩ | ⟨apart, valid⟩
    · dsimp only at single kelvin
      left
      rw [kelvin, show c.toNat - first = 0 by omega]
      rfl
    · dsimp only at apart valid
      right
      rw [toNat_charOfNat (by unfold Nat.isValidChar; omega)]
      omega
  · exact Or.inr large

theorem lowerChar_eq_iff {c d : Char} (ascii : d.toNat < 0x80) (other : d ≠ 'k') :
    lowerChar c = d ↔ c.toLower = d := by
  by_cases small : c.toNat < 0x80
  · rw [lowerChar, if_pos small, lowerAscii_eq_toLower small]
  · have large : 0x80 ≤ c.toNat := by omega
    rw [toLower_of_not_ascii large]
    constructor
    · rintro rfl
      rcases lowerChar_of_not_ascii large with kelvin | beyond
      · exact absurd kelvin other
      · omega
    · rintro rfl
      omega

/-- `IsSimple c` says that `c` is an ASCII character and the lower case form of ASCII characters only. -/
def IsSimple (c : Char) : Prop :=
  c.toNat < 0x80 ∧ c ≠ 'i' ∧ c ≠ 'k'

theorem lowerIn_append_eq_cons {d : Char} (simple : IsSimple d) (before after : List Char) (c : Char)
    (more text : List Char) :
    lowerIn before c after ++ more = d :: text ↔ c.toLower = d ∧ more = text := by
  obtain ⟨ascii, notI, notK⟩ := simple
  -- The two capitals with forms of their own are beyond ASCII, and no form of theirs starts with `d`.
  have apart {capital first : Char} (large : 0x80 ≤ capital.toNat) (other : first ≠ d) (forms : List Char) :
      first :: forms = d :: text ↔ capital.toLower = d ∧ more = text := by
    rw [toLower_of_not_ascii large, List.cons.injEq]
    refine iff_of_false (fun same => other same.1) ?_
    rintro ⟨rfl, -⟩
    omega
  unfold lowerIn
  split
  · rename_i dotted
    rw [dotted]
    exact apart (by decide) (Ne.symm notI) _
  · split
    · rename_i sigma
      rw [sigma]
      have large : 0x80 ≤ (lowerSigma before after).toNat := by
        unfold lowerSigma
        split <;> decide
      exact apart (by decide) (fun same => by rw [same] at large; omega) _
    · rw [List.singleton_append, List.cons.injEq, lowerChar_eq_iff ascii notK]

/-- A text of simple characters is the lower case form of its spellings in ASCII and of nothing else. -/
theorem lowerFrom_eq_iff (before : List Char) {chars text : List Char} (simple : ∀ c ∈ text, IsSimple c) :
    lowerFrom before chars = text ↔ chars.map Char.toLower = text := by
  induction chars generalizing before text with
  | nil => rfl
  | cons c rest ih =>
    rw [lowerFrom, List.map_cons]
    cases text with
    | nil =>
      have nonempty : lowerIn before c rest ≠ [] := by
        unfold lowerIn
        split
        · exact List.cons_ne_nil _ _
        · split <;> exact List.cons_ne_nil _ _
      exact iff_of_false (fun same => nonempty (List.append_eq_nil_iff.1 same).1) (List.cons_ne_nil _ _)
    | cons d text =>
      rw [List.forall_mem_cons] at simple
      rw [lowerIn_append_eq_cons simple.1, List.cons.injEq, ih _ simple.2]

end AssemblyInfo.Text

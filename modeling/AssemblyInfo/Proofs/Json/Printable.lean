import AssemblyInfo.Json.OfValue
import AssemblyInfo.Proofs.Decimal.Numeral
import AssemblyInfo.Proofs.Text.Blank

/-!
# Characters of JSON texts

A compact JSON text holds printable ASCII characters only: numbers are written in ASCII, and strings
escape everything else. So it stands on one line. It is not blank.
-/

namespace AssemblyInfo
open Text

/-- `isAsciiPrintable c` holds of the characters from the space to the tilde. -/
def isAsciiPrintable (c : Char) : Bool :=
  0x20 ≤ c.toNat && c.toNat < 0x7F

/-- `allAsciiPrintable chars` says that `chars` holds printable ASCII characters only. -/
def allAsciiPrintable (chars : List Char) : Bool :=
  chars.all isAsciiPrintable

theorem allAsciiPrintable_append (first second : List Char) :
    allAsciiPrintable (first ++ second) = (allAsciiPrintable first && allAsciiPrintable second) :=
  List.all_append

theorem allAsciiPrintable_cons (c : Char) (rest : List Char) :
    allAsciiPrintable (c :: rest) = (isAsciiPrintable c && allAsciiPrintable rest) := rfl

theorem allAsciiPrintable_replicate {c : Char} (printable : isAsciiPrintable c = true) (n : Nat) :
    allAsciiPrintable (List.replicate n c) = true := by
  rw [allAsciiPrintable, List.all_eq_true]
  intro d member
  rw [List.eq_of_mem_replicate member]
  exact printable

theorem newline_notMem_of_allAsciiPrintable {chars : List Char}
    (all : allAsciiPrintable chars = true) : '\n' ∉ chars := by
  intro member
  have impossible := List.all_eq_true.1 all '\n' member
  cases impossible

/-! ### Numbers -/

namespace Decimal

theorem isAsciiPrintable_of_isNumeric {c : Char} (numeric : isNumeric c = true) : isAsciiPrintable c = true := by
  simp only [isNumeric, Bool.or_eq_true, decide_eq_true_eq] at numeric
  rcases numeric with (((digit | rfl) | rfl) | rfl) | rfl
  · rw [Char.isDigit, Bool.and_eq_true, decide_eq_true_eq, decide_eq_true_eq] at digit
    have lower : 48 ≤ c.toNat := UInt32.le_iff_toNat_le.1 digit.1
    have upper : c.toNat ≤ 57 := UInt32.le_iff_toNat_le.1 digit.2
    rw [isAsciiPrintable, Bool.and_eq_true, decide_eq_true_eq, decide_eq_true_eq]
    omega
  all_goals rfl

theorem allAsciiPrintable_of_allNumeric {chars : List Char} (all : allNumeric chars = true) :
    allAsciiPrintable chars = true :=
  List.all_eq_true.2 fun c member => isAsciiPrintable_of_isNumeric (List.all_eq_true.1 all c member)

theorem allAsciiPrintable_naturalText (n : Nat) : allAsciiPrintable (naturalText n) = true :=
  allAsciiPrintable_of_allNumeric (allNumeric_naturalText n)

theorem allAsciiPrintable_integerText (n : Int) : allAsciiPrintable (integerText n) = true :=
  allAsciiPrintable_of_allNumeric (allNumeric_integerText n)

theorem allAsciiPrintable_floatTextWith {names : SpecialNames}
    (infinity : allAsciiPrintable names.infinity = true)
    (notANumber : allAsciiPrintable names.notANumber = true) (x : Float) :
    allAsciiPrintable (floatTextWith names x) = true := by
  rcases floatTextWith_cases x with ⟨chars, -, all, same⟩ | same | same | ⟨-, same⟩ <;> rw [same]
  · exact allAsciiPrintable_of_allNumeric all
  · exact infinity
  · rw [allAsciiPrintable_cons, infinity]
    rfl
  · exact notANumber

end Decimal

/-! ### Strings -/

namespace Text

theorem isAsciiPrintable_hexDigit (n : Nat) : isAsciiPrintable (hexDigit n) = true := by
  have all : ∀ r < 16, isAsciiPrintable (Char.ofNat (if r < 10 then 0x30 + r else 0x57 + r)) = true := by
    decide
  exact all (n % 16) (Nat.mod_lt n (by decide))

theorem allAsciiPrintable_hexDigits (width n : Nat) :
    allAsciiPrintable (hexDigits width n) = true := by
  induction width generalizing n with
  | zero => rfl
  | succ width ih =>
    rw [hexDigits, allAsciiPrintable_append, ih, allAsciiPrintable_cons, isAsciiPrintable_hexDigit]
    rfl

end Text

namespace Json
open Text

theorem allAsciiPrintable_unitEscape (u : Nat) : allAsciiPrintable (unitEscape u) = true := by
  rw [unitEscape, allAsciiPrintable_cons, allAsciiPrintable_cons, allAsciiPrintable_hexDigits]
  rfl

theorem allAsciiPrintable_codeEscape (n : Nat) : allAsciiPrintable (codeEscape n) = true := by
  rw [codeEscape]
  split
  · exact allAsciiPrintable_unitEscape n
  · rw [allAsciiPrintable_append, allAsciiPrintable_unitEscape, allAsciiPrintable_unitEscape]
    rfl

theorem allAsciiPrintable_charText (c : Char) : allAsciiPrintable (charText c) = true := by
  rw [charText]
  split
  · rename_i special
    rw [Bool.or_eq_true, decide_eq_true_eq, decide_eq_true_eq] at special
    rcases special with rfl | rfl <;> rfl
  · split
    · rename_i printable
      rw [allAsciiPrintable_cons, isAsciiPrintable, printable]
      rfl
    · repeat' split
      all_goals first
        | rfl
        | exact allAsciiPrintable_codeEscape _

theorem allAsciiPrintable_stringText (s : String) : allAsciiPrintable (stringText s) = true := by
  have inner : allAsciiPrintable (s.toList.flatMap charText) = true := by
    rw [allAsciiPrintable, List.all_flatMap, List.all_eq_true]
    exact fun c _ => allAsciiPrintable_charText c
  rw [stringText, List.cons_append, allAsciiPrintable_cons, allAsciiPrintable_append, inner]
  rfl

theorem allAsciiPrintable_boolText (flag : Bool) : allAsciiPrintable (boolText flag) = true := by
  cases flag <;> rfl

theorem allAsciiPrintable_floatText (x : Float) : allAsciiPrintable (floatText x) = true :=
  Decimal.allAsciiPrintable_floatTextWith rfl rfl x

mutual

theorem allAsciiPrintable_compact (json : Json) : allAsciiPrintable json.compact = true := by
  match json with
  | .null => rfl
  | .bool flag => exact allAsciiPrintable_boolText flag
  | .int n => exact Decimal.allAsciiPrintable_integerText n
  | .float x => exact allAsciiPrintable_floatText x
  | .text s => exact allAsciiPrintable_stringText s
  | .array [] => rfl
  | .array (item :: rest) =>
    rw [compact, List.cons_append, allAsciiPrintable_cons, allAsciiPrintable_append,
      allAsciiPrintable_compact item, allAsciiPrintable_compactItems rest]
    rfl
  | .object [] => rfl
  | .object ((name, value) :: rest) =>
    rw [compact, List.cons_append, List.cons_append, allAsciiPrintable_cons, allAsciiPrintable_append,
      allAsciiPrintable_append, allAsciiPrintable_cons, allAsciiPrintable_stringText,
      allAsciiPrintable_compact value, allAsciiPrintable_compactMembers rest]
    rfl

theorem allAsciiPrintable_compactItems (items : List Json) :
    allAsciiPrintable (compactItems items) = true := by
  match items with
  | [] => rfl
  | item :: rest =>
    rw [compactItems, List.cons_append, allAsciiPrintable_cons, allAsciiPrintable_append,
      allAsciiPrintable_compact item, allAsciiPrintable_compactItems rest]
    rfl

theorem allAsciiPrintable_compactMembers (members : List (String × Json)) :
    allAsciiPrintable (compactMembers members) = true := by
  match members with
  | [] => rfl
  | (name, value) :: rest =>
    rw [compactMembers, List.cons_append, List.cons_append, allAsciiPrintable_cons,
      allAsciiPrintable_append, allAsciiPrintable_append, allAsciiPrintable_cons,
      allAsciiPrintable_stringText, allAsciiPrintable_compact value,
      allAsciiPrintable_compactMembers rest]
    rfl

end

end Json

/-! ### Texts that are not blank -/

namespace Json
open Text

theorem isBlank_of_isNumeric {c : Char} (numeric : Decimal.isNumeric c = true) : isBlank c = false := by
  simp only [Decimal.isNumeric, Bool.or_eq_true, decide_eq_true_eq] at numeric
  rcases numeric with (((digit | rfl) | rfl) | rfl) | rfl
  · exact isBlank_digit digit
  all_goals rfl

theorem allBlank_of_allNumeric {chars : List Char} (some : chars ≠ []) (all : Decimal.allNumeric chars = true) :
    allBlank chars = false := by
  obtain ⟨c, member⟩ := List.exists_mem_of_ne_nil chars some
  exact allBlank_eq_false member (isBlank_of_isNumeric (List.all_eq_true.1 all c member))

theorem allBlank_integerText (n : Int) : allBlank (Decimal.integerText n) = false := by
  obtain ⟨c, rest, written, -⟩ := Decimal.exists_integerText n
  exact allBlank_of_allNumeric (written ▸ List.cons_ne_nil c rest) (Decimal.allNumeric_integerText n)

theorem allBlank_floatTextWith {names : Decimal.SpecialNames}
    (infinity : allBlank names.infinity = false) (notANumber : allBlank names.notANumber = false)
    (x : Float) : allBlank (Decimal.floatTextWith names x) = false := by
  rcases Decimal.floatTextWith_cases x with ⟨chars, some, all, same⟩ | same | same | ⟨-, same⟩ <;> rw [same]
  · exact allBlank_of_allNumeric some all
  · exact infinity
  · exact allBlank_eq_false List.mem_cons_self (by decide)
  · exact notANumber

theorem allBlank_floatText (x : Float) : allBlank (floatText x) = false :=
  allBlank_floatTextWith rfl rfl x

theorem allBlank_compact (json : Json) : allBlank json.compact = false := by
  cases json with
  | null => rfl
  | bool flag => cases flag <;> rfl
  | int n => exact allBlank_integerText n
  | float x => exact allBlank_floatText x
  | text s => rfl
  | array items => cases items <;> rfl
  | object members => cases members <;> rfl

end Json

/-! ### Values -/

namespace Value

theorem eq_compact_of_serialise {value : Value} {text : String} (written : value.serialise = .ok text) :
    ∃ json : Json, text.toList = json.compact := by
  rw [serialise] at written
  cases formed : value.toJson with
  | error fault =>
    rw [formed] at written
    cases written
  | ok json =>
    rw [formed] at written
    obtain rfl := Except.ok.inj written
    exact ⟨json, String.toList_ofList⟩

theorem allAsciiPrintable_serialise {value : Value} {text : String} (written : value.serialise = .ok text) :
    allAsciiPrintable text.toList = true := by
  obtain ⟨json, same⟩ := eq_compact_of_serialise written
  rw [same]
  exact json.allAsciiPrintable_compact

theorem allBlank_serialise {value : Value} {text : String} (written : value.serialise = .ok text) :
    allBlank text.toList = false := by
  obtain ⟨json, same⟩ := eq_compact_of_serialise written
  rw [same]
  exact json.allBlank_compact

end Value

end AssemblyInfo

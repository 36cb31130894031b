import AssemblyInfo.Json.Basic
import AssemblyInfo.Proofs.Decimal.Numeral
import AssemblyInfo.Proofs.Encoding.Utf16
import Mathlib.Data.List.TakeWhile

/-!
# Reading JSON

A reader for JSON texts, and what it makes of the texts that are written: a value without doubles comes
back as it was, whether it stands on one line or has an item a line. Numbers with a fraction or an exponent
are not read.
-/

namespace AssemblyInfo.Json
open Text Encoding

/-! ### The reader -/

def isSpace (c : Char) : Bool :=
  c = ' ' || c = '\t' || c = '\n' || c = '\r'

def skipSpaces (chars : List Char) : List Char :=
  chars.dropWhile isSpace

/-- `shortEscape? c` is the code unit that a backslash and `c` stand for. -/
def shortEscape? : Char → Option Nat
  | '"' => some 0x22
  | '\\' => some 0x5C
  | '/' => some 0x2F
  | 'b' => some 0x08
  | 'f' => some 0x0C
  | 'n' => some 0x0A
  | 'r' => some 0x0D
  | 't' => some 0x09
  | _ => none

/-- `hexUnit? a b c d` is the code unit with the hexadecimal digits `a`, `b`, `c` and `d`. -/
def hexUnit? (a b c d : Char) : Option Nat := do
  return (((← hexValue? a) * 16 + (← hexValue? b)) * 16 + (← hexValue? c)) * 16 + (← hexValue? d)

/-- `readUnits? chars` is the code units of a string up to its closing quote, and what follows. -/
def readUnits? : List Char → Option (List Nat × List Char)
  | [] => none
  | '"' :: rest => some ([], rest)
  | '\\' :: 'u' :: a :: b :: c :: d :: rest => do
    let unit ← hexUnit? a b c d
    let (units, rest) ← readUnits? rest
    return (unit :: units, rest)
  | '\\' :: c :: rest => do
    let unit ← shortEscape? c
    let (units, rest) ← readUnits? rest
    return (unit :: units, rest)
  | c :: rest =>
    if c.toNat < 0x20 then none
    else do
      let (units, rest) ← readUnits? rest
      return (Utf16.charUnits c ++ units, rest)

/-- `readText? chars` is the string whose opening quote is followed by `chars`, and what follows it. -/
def readText? (chars : List Char) : Option (String × List Char) := do
  let (units, rest) ← readUnits? chars
  return (String.ofList (Utf16.readUnits false units), rest)

/-- `endsNumber chars` says that a number that `chars` follow has no more digits, and neither a fraction
nor an exponent. -/
def endsNumber : List Char → Bool
  | [] => true
  | c :: _ => !(c.isDigit || c = '.' || c = 'e' || c = 'E')

/-- `readNatural? chars` is the number that `chars` start with, and what follows; only zero itself starts
with a zero. -/
def readNatural? (chars : List Char) : Option (Nat × List Char) :=
  let digits := chars.takeWhile Char.isDigit
  let rest := chars.dropWhile Char.isDigit
  if digits = [] || (digits.head? = some '0' && digits ≠ ['0']) || !endsNumber rest then none
  else some (Nat.ofDigitChars 10 digits 0, rest)

def readInteger? : List Char → Option (Int × List Char)
  | '-' :: rest => (readNatural? rest).map fun (n, rest) => (-n, rest)
  | chars => (readNatural? chars).map fun (n, rest) => (n, rest)

/-- `readScalar? chars` is the value that `chars` start with, which is no string and no collection. -/
def readScalar? (chars : List Char) : Option (Json × List Char) :=
  match chars with
  | 'n' :: 'u' :: 'l' :: 'l' :: rest => some (.null, rest)
  | 't' :: 'r' :: 'u' :: 'e' :: rest => some (.bool true, rest)
  | 'f' :: 'a' :: 'l' :: 's' :: 'e' :: rest => some (.bool false, rest)
  | chars => (readInteger? chars).map fun (n, rest) => (.int n, rest)

mutual

/-- `readValue? depth chars` is the value that `chars` start with, and what follows. Nothing is read that
takes more than `depth` steps one within the other. -/
def readValue? : Nat → List Char → Option (Json × List Char)
  | 0, _ => none
  | depth + 1, chars =>
    match skipSpaces chars with
    | '"' :: rest => (readText? rest).map fun (s, rest) => (.text s, rest)
    | '[' :: rest =>
      match skipSpaces rest with
      | ']' :: rest => some (.array [], rest)
      | first => do
        let (item, rest) ← readValue? depth first
        let (items, rest) ← readItems? depth rest
        return (.array (item :: items), rest)
    | '\x7b' :: rest =>
      match skipSpaces rest with
      | '\x7d' :: rest => some (.object [], rest)
      | first => do
        let (member, rest) ← readMember? depth first
        let (members, rest) ← readMembers? depth rest
        return (.object (member :: members), rest)
    | other => readScalar? other

/-- `readItems? depth chars` is the items of an array after the first, and what follows its end. -/
def readItems? : Nat → List Char → Option (List Json × List Char)
  | 0, _ => none
  | depth + 1, chars =>
    match skipSpaces chars with
    | ']' :: rest => some ([], rest)
    | ',' :: rest => do
      let (item, rest) ← readValue? depth rest
      let (items, rest) ← readItems? depth rest
      return (item :: items, rest)
    | _ => none

/-- `readMember? depth chars` is the member of an object that `chars` start with, and what follows. -/
def readMember? : Nat → List Char → Option ((String × Json) × List Char)
  | 0, _ => none
  | depth + 1, chars =>
    match skipSpaces chars with
    | '"' :: rest => do
      let (name, rest) ← readText? rest
      match skipSpaces rest with
      | ':' :: rest => do
        let (value, rest) ← readValue? depth rest
        return ((name, value), rest)
      | _ => none
    | _ => none

/-- `readMembers? depth chars` is the members of an object after the first, and what follows its end. -/
def readMembers? : Nat → List Char → Option (List (String × Json) × List Char)
  | 0, _ => none
  | depth + 1, chars =>
    match skipSpaces chars with
    | '\x7d' :: rest => some ([], rest)
    | ',' :: rest => do
      let (member, rest) ← readMember? depth rest
      let (members, rest) ← readMembers? depth rest
      return (member :: members, rest)
    | _ => none

end

/-- `read? text` is the value that `text` writes. -/
def read? (text : String) : Option Json :=
  match readValue? (text.toList.length + 1) text.toList with
  | some (json, rest) => if rest.all isSpace then some json else none
  | none => none

/-! ### Strings -/

theorem hexValue?_hexDigit (n : Nat) : hexValue? (hexDigit n) = some (n % 16) := by
  have all : ∀ r < 16, hexValue? (Char.ofNat (if r < 10 then 0x30 + r else 0x57 + r)) = some r := by
    decide
  exact all (n % 16) (Nat.mod_lt n (by decide))

theorem readUnits?_unitEscape {u : Nat} (small : u < 0x10000) (chars : List Char) :
    readUnits? (unitEscape u ++ chars) =
      (readUnits? chars).map fun (units, rest) => (u :: units, rest) := by
  have unit : hexUnit? (hexDigit (u / 16 / 16 / 16)) (hexDigit (u / 16 / 16)) (hexDigit (u / 16))
      (hexDigit u) = some u := by
    simp only [hexUnit?, hexValue?_hexDigit]
    change some _ = some u
    refine congrArg some ?_
    omega
  change (do
    let unit ← hexUnit? (hexDigit (u / 16 / 16 / 16)) (hexDigit (u / 16 / 16)) (hexDigit (u / 16)) (hexDigit u)
    let (units, rest) ← readUnits? chars
    return (unit :: units, rest)) = _
  rw [unit]
  cases readUnits? chars <;> rfl

theorem readUnits?_codeEscape (c : Char) (chars : List Char) :
    readUnits? (codeEscape c.toNat ++ chars) =
      (readUnits? chars).map fun (units, rest) => (Utf16.charUnits c ++ units, rest) := by
  have valid := Utf8.toNat_valid c
  rw [codeEscape, Utf16.charUnits]
  split
  · rename_i small
    exact readUnits?_unitEscape small chars
  · rw [List.append_assoc, readUnits?_unitEscape (by omega), readUnits?_unitEscape (by omega)]
    cases readUnits? chars <;> rfl

theorem readUnits?_plain {c : Char} (noQuote : c ≠ '"') (noEscape : c ≠ '\\') (visible : 0x20 ≤ c.toNat)
    (chars : List Char) :
    readUnits? (c :: chars) =
      (readUnits? chars).map fun (units, rest) => (Utf16.charUnits c ++ units, rest) := by
  rw [readUnits?, if_neg (Nat.not_lt.2 visible)]
  · cases readUnits? chars <;> rfl
  · exact noQuote
  · exact fun _ _ _ _ _ same => absurd same noEscape
  · exact fun _ _ same => absurd same noEscape

theorem readUnits?_escape {c : Char} {unit : Nat} (known : shortEscape? c = some unit) (chars : List Char) :
    readUnits? ('\\' :: c :: chars) =
      (readUnits? chars).map fun (units, rest) => (unit :: units, rest) := by
  rw [readUnits?, known]
  · cases readUnits? chars <;> rfl
  · rintro _ _ _ _ _ rfl
    cases known

/-- Every character of a string is read as its code units, whatever follows it. -/
theorem readUnits?_charText (c : Char) (chars : List Char) :
    readUnits? (charText c ++ chars) =
      (readUnits? chars).map fun (units, rest) => (Utf16.charUnits c ++ units, rest) := by
  unfold charText
  split
  · rename_i special
    rw [Bool.or_eq_true, decide_eq_true_eq, decide_eq_true_eq] at special
    rcases special with rfl | rfl <;> exact readUnits?_escape rfl chars
  · rename_i ordinary
    rw [Bool.or_eq_true, decide_eq_true_eq, decide_eq_true_eq, not_or] at ordinary
    split
    · rename_i printable
      rw [Bool.and_eq_true, decide_eq_true_eq] at printable
      exact readUnits?_plain ordinary.1 ordinary.2 printable.1 chars
    · repeat' split
      all_goals first
        | exact readUnits?_codeEscape c chars
        | (rename_i same
           subst same
           exact readUnits?_escape rfl chars)

theorem readUnits?_flatMap_charText (chars rest : List Char) :
    readUnits? (chars.flatMap charText ++ '"' :: rest) = some (chars.flatMap Utf16.charUnits, rest) := by
  induction chars with
  | nil => rfl
  | cons c more ih =>
    rw [List.flatMap_cons, List.append_assoc, readUnits?_charText, ih]
    rfl

/-- A string comes back from between its quotes. -/
theorem readText?_stringText (s : String) (rest : List Char) :
    ∃ inside, stringText s ++ rest = '"' :: inside ∧ readText? inside = some (s, rest) := by
  refine ⟨s.toList.flatMap charText ++ '"' :: rest, ?_, ?_⟩
  · rw [stringText, List.cons_append, List.cons_append, List.append_assoc]
    rfl
  · rw [readText?, readUnits?_flatMap_charText]
    change some (String.ofList (Utf16.readUnits false (s.toList.flatMap Utf16.charUnits)), rest) = _
    rw [Utf16.readUnits_flatMap_charUnits, String.ofList_toList]

/-! ### Numbers -/

theorem head?_naturalText {n : Nat} (zero : (Decimal.naturalText n).head? = some '0') : n = 0 := by
  unfold Decimal.naturalText at zero
  rw [Nat.toDigits_eq_if (by decide)] at zero
  split at zero
  · rename_i small
    have digits : ∀ d < 10, d.digitChar = '0' → d = 0 := by decide
    exact digits n small (Option.some.inj zero)
  · rename_i large
    obtain ⟨c, more, written⟩ := List.exists_cons_of_ne_nil (Nat.toDigits_ne_nil (n := n / 10) (b := 10))
    have quotient : n / 10 = 0 := by
      apply head?_naturalText
      unfold Decimal.naturalText
      rw [written] at zero ⊢
      exact zero
    omega
termination_by n
decreasing_by omega

theorem readNatural?_naturalText (n : Nat) {rest : List Char} (ends : endsNumber rest = true) :
    readNatural? (Decimal.naturalText n ++ rest) = some (n, rest) := by
  have digits : ∀ c ∈ Decimal.naturalText n, c.isDigit = true := fun _ => Decimal.isDigit_of_mem_naturalText
  have none : rest.takeWhile Char.isDigit = [] ∧ rest.dropWhile Char.isDigit = rest := by
    cases rest with
    | nil => exact ⟨rfl, rfl⟩
    | cons c more =>
      have other : ¬ c.isDigit = true := by
        intro digit
        simp [endsNumber, digit] at ends
      exact ⟨List.takeWhile_cons_of_neg other, List.dropWhile_cons_of_neg other⟩
  have taken : (Decimal.naturalText n ++ rest).takeWhile Char.isDigit = Decimal.naturalText n := by
    rw [List.takeWhile_append_of_pos digits, none.1, List.append_nil]
  have dropped : (Decimal.naturalText n ++ rest).dropWhile Char.isDigit = rest := by
    rw [List.dropWhile_append_of_pos digits, none.2]
  have filled : Decimal.naturalText n ≠ [] := Nat.toDigits_ne_nil
  have leading : (Decimal.naturalText n).head? = some '0' → Decimal.naturalText n = ['0'] := by
    intro zero
    rw [head?_naturalText zero]
    rfl
  unfold readNatural?
  simp only [taken, dropped]
  rw [if_neg]
  · exact congrArg some (Prod.ext (Nat.ofDigitChars_toDigits (by decide) (by decide)) rfl)
  · simp only [filled, ends, decide_false, Bool.false_or, Bool.not_true, Bool.or_false, Bool.and_eq_true,
      decide_eq_true_eq, ne_eq, decide_not, Bool.not_eq_true', decide_eq_false_iff_not, not_and, not_not]
    exact leading

theorem readInteger?_integerText (n : Int) {rest : List Char} (ends : endsNumber rest = true) :
    readInteger? (Decimal.integerText n ++ rest) = some (n, rest) := by
  cases n with
  | negSucc n =>
    change (readNatural? (Decimal.naturalText (n + 1) ++ rest)).map _ = _
    rw [readNatural?_naturalText (n + 1) ends]
    rfl
  | ofNat n =>
    obtain ⟨c, more, written, digit⟩ := Decimal.exists_naturalText n
    have noSign : c ≠ '-' := by
      rintro rfl
      cases digit
    have natural := readNatural?_naturalText n ends
    rw [Decimal.integerText]
    rw [written, List.cons_append] at natural ⊢
    rw [readInteger?, natural]
    · rfl
    · exact fun _ same => absurd (List.cons.inj same).1 noSign

/-! ### Layouts -/

/-- `json.isExact` says that no double stands in `json`. -/
def isExact : Json → Bool
  | .float _ => false
  | .array items => areExact items
  | .object members => areExactMembers members
  | .null | .bool _ | .int _ | .text _ => true
where
  areExact : List Json → Bool
    | [] => true
    | item :: rest => item.isExact && areExact rest
  areExactMembers : List (String × Json) → Bool
    | [] => true
    | (_, value) :: rest => value.isExact && areExactMembers rest

theorem areExact_eq_true {items : List Json} :
    isExact.areExact items = true ↔ ∀ item ∈ items, item.isExact = true := by
  induction items with
  | nil => simp [isExact.areExact]
  | cons item rest ih => rw [isExact.areExact, Bool.and_eq_true, ih, List.forall_mem_cons]

theorem areExactMembers_eq_true {members : List (String × Json)} :
    isExact.areExactMembers members = true ↔ ∀ member ∈ members, member.2.isExact = true := by
  induction members with
  | nil => simp [isExact.areExactMembers]
  | cons member rest ih =>
    rw [isExact.areExactMembers, Bool.and_eq_true, ih, List.forall_mem_cons]

theorem isExact_array_map {α : Type} {items : List α} {toJson : α → Json}
    (each : ∀ item, (toJson item).isExact = true) : (Json.array (items.map toJson)).isExact = true := by
  rw [isExact, areExact_eq_true]
  intro json member
  obtain ⟨item, -, rfl⟩ := List.mem_map.1 member
  exact each item

/-- What stands before an item at each depth, and after a colon. -/
structure Layout where
  gap : Nat → List Char
  space : List Char
  blankGap : ∀ depth, (gap depth).all isSpace = true
  blankSpace : space.all isSpace = true

namespace Layout

/-- Everything on one line, without blanks. -/
def compact : Layout := ⟨fun _ => [], [], fun _ => rfl, rfl⟩

/-- An item a line. -/
def indented : Layout where
  gap := lineStart
  space := [' ']
  blankGap depth := by
    rw [lineStart, List.all_cons, List.all_replicate]
    simp [isSpace]
  blankSpace := rfl

variable (layout : Layout)

mutual

/-- `layout.write depth json` is `json` at the given depth. -/
def write (depth : Nat) : Json → List Char
  | .null => "null".toList
  | .bool flag => boolText flag
  | .int n => Decimal.integerText n
  | .float x => floatText x
  | .text s => stringText s
  | .array [] => ['[', ']']
  | .array (item :: rest) =>
    '[' :: (layout.gap (depth + 1) ++ (write (depth + 1) item ++ writeItems depth rest))
  | .object [] => ['\x7b', '\x7d']
  | .object ((name, value) :: rest) =>
    '\x7b' :: (layout.gap (depth + 1) ++ (stringText name ++
      ':' :: (layout.space ++ (write (depth + 1) value ++ writeMembers depth rest))))

def writeItems (depth : Nat) : List Json → List Char
  | [] => layout.gap depth ++ [']']
  | item :: rest => ',' :: (layout.gap (depth + 1) ++ (write (depth + 1) item ++ writeItems depth rest))

def writeMembers (depth : Nat) : List (String × Json) → List Char
  | [] => layout.gap depth ++ ['\x7d']
  | (name, value) :: rest =>
    ',' :: (layout.gap (depth + 1) ++ (stringText name ++
      ':' :: (layout.space ++ (write (depth + 1) value ++ writeMembers depth rest))))

end

end Layout

mutual

theorem write_compact (depth : Nat) (json : Json) : Layout.compact.write depth json = json.compact := by
  match json with
  | .null | .bool _ | .int _ | .float _ | .text _ | .array [] | .object [] => rfl
  | .array (item :: rest) =>
    rw [Layout.write, compact, write_compact (depth + 1) item, writeItems_compact depth rest]
    rfl
  | .object ((name, value) :: rest) =>
    rw [Layout.write, compact, write_compact (depth + 1) value, writeMembers_compact depth rest]
    simp [Layout.compact]

theorem writeItems_compact (depth : Nat) (items : List Json) :
    Layout.compact.writeItems depth items = compactItems items := by
  match items with
  | [] => rfl
  | item :: rest =>
    rw [Layout.writeItems, compactItems, write_compact (depth + 1) item, writeItems_compact depth rest]
    rfl

theorem writeMembers_compact (depth : Nat) (members : List (String × Json)) :
    Layout.compact.writeMembers depth members = compactMembers members := by
  match members with
  | [] => rfl
  | (name, value) :: rest =>
    rw [Layout.writeMembers, compactMembers, write_compact (depth + 1) value, writeMembers_compact depth rest]
    simp [Layout.compact]

end

mutual

theorem write_indented (depth : Nat) (json : Json) :
    Layout.indented.write depth json = json.indented depth := by
  match json with
  | .null | .bool _ | .int _ | .float _ | .text _ | .array [] | .object [] => rfl
  | .array (item :: rest) =>
    rw [Layout.write, indented, write_indented (depth + 1) item, writeItems_indented depth rest]
    simp [Layout.indented]
  | .object ((name, value) :: rest) =>
    rw [Layout.write, indented, write_indented (depth + 1) value, writeMembers_indented depth rest]
    simp [Layout.indented]

theorem writeItems_indented (depth : Nat) (items : List Json) :
    Layout.indented.writeItems depth items = indentedItems depth items := by
  match items with
  | [] => rfl
  | item :: rest =>
    rw [Layout.writeItems, indentedItems, write_indented (depth + 1) item, writeItems_indented depth rest]
    simp [Layout.indented]

theorem writeMembers_indented (depth : Nat) (members : List (String × Json)) :
    Layout.indented.writeMembers depth members = indentedMembers depth members := by
  match members with
  | [] => rfl
  | (name, value) :: rest =>
    rw [Layout.writeMembers, indentedMembers, write_indented (depth + 1) value,
      writeMembers_indented depth rest]
    simp [Layout.indented]

end

/-! ### Reading what was written -/

theorem skipSpaces_append {gap : List Char} (blank : gap.all isSpace = true) (chars : List Char) :
    skipSpaces (gap ++ chars) = skipSpaces chars :=
  List.dropWhile_append_of_pos (List.all_eq_true.1 blank)

theorem skipSpaces_cons {c : Char} (solid : isSpace c = false) (chars : List Char) :
    skipSpaces (c :: chars) = c :: chars :=
  List.dropWhile_cons_of_neg (by rw [solid]; exact Bool.false_ne_true)

section Gaps

variable {gap : List Char} (blank : gap.all isSpace = true) (depth : Nat) (chars : List Char)

include blank

theorem readValue?_gap : readValue? depth (gap ++ chars) = readValue? depth chars := by
  cases depth with
  | zero => rfl
  | succ depth => rw [readValue?, readValue?, skipSpaces_append blank]

theorem readItems?_gap : readItems? depth (gap ++ chars) = readItems? depth chars := by
  cases depth with
  | zero => rfl
  | succ depth => rw [readItems?, readItems?, skipSpaces_append blank]

theorem readMember?_gap : readMember? depth (gap ++ chars) = readMember? depth chars := by
  cases depth with
  | zero => rfl
  | succ depth => rw [readMember?, readMember?, skipSpaces_append blank]

theorem readMembers?_gap : readMembers? depth (gap ++ chars) = readMembers? depth chars := by
  cases depth with
  | zero => rfl
  | succ depth => rw [readMembers?, readMembers?, skipSpaces_append blank]

end Gaps

theorem endsNumber_gap {gap chars : List Char} (blank : gap.all isSpace = true)
    (ends : endsNumber chars = true) : endsNumber (gap ++ chars) = true := by
  cases gap with
  | nil => exact ends
  | cons c rest =>
    rw [List.all_cons, Bool.and_eq_true] at blank
    have space := blank.1
    simp only [isSpace, Bool.or_eq_true, decide_eq_true_eq] at space
    rcases space with ((rfl | rfl) | rfl) | rfl <;> rfl

variable (layout : Layout)

theorem endsNumber_writeItems (depth : Nat) (items : List Json) (rest : List Char) :
    endsNumber (layout.writeItems depth items ++ rest) = true := by
  cases items with
  | nil =>
    rw [Layout.writeItems, List.append_assoc]
    exact endsNumber_gap (layout.blankGap depth) rfl
  | cons item more => rfl

theorem endsNumber_writeMembers (depth : Nat) (members : List (String × Json)) (rest : List Char) :
    endsNumber (layout.writeMembers depth members ++ rest) = true := by
  cases members with
  | nil =>
    rw [Layout.writeMembers, List.append_assoc]
    exact endsNumber_gap (layout.blankGap depth) rfl
  | cons member more => rfl

theorem ne_of_integerText {c other : Char} (start : c = '-' ∨ c.isDigit = true) (noSign : other ≠ '-')
    (noDigit : other.isDigit = false) : c ≠ other := by
  rintro rfl
  rcases start with sign | digit
  · exact noSign sign
  · rw [noDigit] at digit
    cases digit

theorem isSpace_of_integerText {c : Char} (start : c = '-' ∨ c.isDigit = true) : isSpace c = false := by
  simp only [isSpace, Bool.or_eq_false_iff, decide_eq_false_iff_not]
  exact ⟨⟨⟨ne_of_integerText start (by decide) rfl, ne_of_integerText start (by decide) rfl⟩,
    ne_of_integerText start (by decide) rfl⟩, ne_of_integerText start (by decide) rfl⟩

/-- A value starts with no blank, and with nothing that ends an array. -/
theorem exists_write (depth : Nat) {json : Json} (exact : json.isExact = true) :
    ∃ c rest, layout.write depth json = c :: rest ∧ isSpace c = false ∧ c ≠ ']' := by
  cases json with
  | null => exact ⟨_, _, rfl, rfl, by decide⟩
  | bool flag => cases flag <;> exact ⟨_, _, rfl, rfl, by decide⟩
  | int n =>
    obtain ⟨c, rest, written, start⟩ := Decimal.exists_integerText n
    exact ⟨c, rest, written, isSpace_of_integerText start, ne_of_integerText start (by decide) rfl⟩
  | float x => cases exact
  | text s => exact ⟨_, _, rfl, rfl, by decide⟩
  | array items => cases items <;> exact ⟨_, _, rfl, rfl, by decide⟩
  | object members =>
    cases members with
    | nil => exact ⟨_, _, rfl, rfl, by decide⟩
    | cons member rest => exact ⟨_, _, rfl, rfl, by decide⟩

theorem readValue?_int (n : Int) {depth : Nat} {rest : List Char} (ends : endsNumber rest = true) :
    readValue? (depth + 1) (Decimal.integerText n ++ rest) = some (.int n, rest) := by
  have number := readInteger?_integerText n ends
  obtain ⟨c, more, written, start⟩ := Decimal.exists_integerText n
  rw [written, List.cons_append] at number ⊢
  have other (d : Char) (noSign : d ≠ '-') (noDigit : d.isDigit = false) {chars : List Char} :
      c :: (more ++ rest) = d :: chars → False :=
    fun same => ne_of_integerText start noSign noDigit (List.cons.inj same).1
  rw [readValue?, skipSpaces_cons (isSpace_of_integerText start)]
  split
  · exact (other '"' (by decide) rfl ‹_›).elim
  · exact (other '[' (by decide) rfl ‹_›).elim
  · exact (other '\x7b' (by decide) rfl ‹_›).elim
  · rw [readScalar?, number]
    · rfl
    · exact fun _ => other 'n' (by decide) rfl
    · exact fun _ => other 't' (by decide) rfl
    · exact fun _ => other 'f' (by decide) rfl

theorem readValue?_text (s : String) (depth : Nat) (rest : List Char) :
    readValue? (depth + 1) (stringText s ++ rest) = some (.text s, rest) := by
  obtain ⟨inside, written, read⟩ := readText?_stringText s rest
  rw [written, readValue?, skipSpaces_cons rfl]
  simp only [read]
  rfl

theorem readValue?_array {gap : List Char} (blank : gap.all isSpace = true) {c : Char}
    (solid : isSpace c = false) (noEnd : c ≠ ']') (depth : Nat) (chars : List Char) :
    readValue? (depth + 1) ('[' :: (gap ++ c :: chars)) = (do
      let (item, rest) ← readValue? depth (c :: chars)
      let (items, rest) ← readItems? depth rest
      return (.array (item :: items), rest)) := by
  rw [readValue?, skipSpaces_cons rfl]
  simp only
  rw [skipSpaces_append blank, skipSpaces_cons solid]
  split
  · rename_i same
    exact absurd (List.cons.inj same).1 noEnd
  · rfl

theorem readValue?_object {gap : List Char} (blank : gap.all isSpace = true) (depth : Nat)
    (chars : List Char) :
    readValue? (depth + 1) ('\x7b' :: (gap ++ '"' :: chars)) = (do
      let (member, rest) ← readMember? depth ('"' :: chars)
      let (members, rest) ← readMembers? depth rest
      return (.object (member :: members), rest)) := by
  rw [readValue?, skipSpaces_cons rfl]
  simp only
  rw [skipSpaces_append blank, skipSpaces_cons rfl]
  rfl

theorem readMember?_stringText (name : String) {space : List Char} (blank : space.all isSpace = true)
    (depth : Nat) (chars : List Char) :
    readMember? (depth + 1) (stringText name ++ ':' :: (space ++ chars)) =
      (readValue? depth chars).map fun (value, rest) => ((name, value), rest) := by
  obtain ⟨inside, written, read⟩ := readText?_stringText name (':' :: (space ++ chars))
  rw [written, readMember?, skipSpaces_cons rfl]
  simp only [read]
  change (match skipSpaces (':' :: (space ++ chars)) with
    | ':' :: rest => do
      let (value, rest) ← readValue? depth rest
      return ((name, value), rest)
    | _ => none) = _
  rw [skipSpaces_cons rfl]
  simp only
  rw [readValue?_gap blank]
  cases readValue? depth chars <;> rfl

theorem exists_steps {steps n : Nat} (enough : n < steps) : ∃ fewer, steps = fewer + 1 ∧ n ≤ fewer :=
  ⟨steps - 1, by omega, by omega⟩

mutual

/-- A value that was written is read, whatever follows it. Every step takes a character, so there are
enough of them. -/
theorem readValue?_write (json : Json) (exact : json.isExact = true) (depth steps : Nat) {rest : List Char}
    (enough : (layout.write depth json).length < steps) (ends : endsNumber rest = true) :
    readValue? steps (layout.write depth json ++ rest) = some (json, rest) := by
  obtain ⟨steps, rfl, enough⟩ := exists_steps enough
  match json with
  | .null => rfl
  | .bool flag => cases flag <;> rfl
  | .int n => exact readValue?_int n ends
  | .text s => exact readValue?_text s steps rest
  | .array [] => rfl
  | .object [] => rfl
  | .array (item :: more) =>
    rw [isExact, isExact.areExact, Bool.and_eq_true] at exact
    obtain ⟨c, inner, written, solid, noEnd⟩ := exists_write layout (depth + 1) exact.1
    rw [Layout.write, List.length_cons, List.length_append, List.length_append] at enough
    have first := readValue?_write item exact.1 (depth + 1) steps (by omega)
      (endsNumber_writeItems layout depth more rest)
    have later := readItems?_writeItems more exact.2 depth steps rest (by omega)
    rw [written] at first
    rw [Layout.write, List.cons_append, List.append_assoc, List.append_assoc, written, List.cons_append,
      readValue?_array (layout.blankGap (depth + 1)) solid noEnd, ← List.cons_append, first]
    simp only [Option.bind_eq_bind, Option.bind_some, later]
    rfl
  | .object ((name, value) :: more) =>
    rw [isExact, isExact.areExactMembers, Bool.and_eq_true] at exact
    rw [Layout.write, List.length_cons, List.length_append, List.length_append, List.length_cons,
      List.length_append, List.length_append] at enough
    obtain ⟨fewer, rfl, _⟩ := exists_steps (show 0 < steps by omega)
    have first := readValue?_write value exact.1 (depth + 1) fewer (by omega)
      (endsNumber_writeMembers layout depth more rest)
    have later := readMembers?_writeMembers more exact.2 depth (fewer + 1) rest (by omega)
    have member := readMember?_stringText name layout.blankSpace fewer
      (layout.write (depth + 1) value ++ (layout.writeMembers depth more ++ rest))
    rw [first] at member
    obtain ⟨inside, written, -⟩ := readText?_stringText name
      (':' :: (layout.space ++ (layout.write (depth + 1) value ++ (layout.writeMembers depth more ++ rest))))
    rw [written] at member
    simp only [Layout.write, List.cons_append, List.append_assoc]
    rw [written, readValue?_object (layout.blankGap (depth + 1)), member]
    simp only [Option.map_some, Option.bind_eq_bind, Option.bind_some, later]
    rfl

theorem readItems?_writeItems (items : List Json) (exact : isExact.areExact items = true)
    (depth steps : Nat) (rest : List Char) (enough : (layout.writeItems depth items).length < steps) :
    readItems? steps (layout.writeItems depth items ++ rest) = some (items, rest) := by
  obtain ⟨steps, rfl, enough⟩ := exists_steps enough
  match items with
  | [] =>
    rw [Layout.writeItems, List.append_assoc, readItems?_gap (layout.blankGap depth)]
    rfl
  | item :: more =>
    rw [isExact.areExact, Bool.and_eq_true] at exact
    rw [Layout.writeItems, List.length_cons, List.length_append, List.length_append] at enough
    have first := readValue?_write item exact.1 (depth + 1) steps (by omega)
      (endsNumber_writeItems layout depth more rest)
    have later := readItems?_writeItems more exact.2 depth steps rest (by omega)
    rw [Layout.writeItems, List.cons_append, List.append_assoc, List.append_assoc, readItems?,
      skipSpaces_cons rfl]
    simp only
    rw [readValue?_gap (layout.blankGap (depth + 1)), first]
    simp only [Option.bind_eq_bind, Option.bind_some, later]
    rfl

theorem readMembers?_writeMembers (members : List (String × Json))
    (exact : isExact.areExactMembers members = true) (depth steps : Nat) (rest : List Char)
    (enough : (layout.writeMembers depth members).length < steps) :
    readMembers? steps (layout.writeMembers depth members ++ rest) = some (members, rest) := by
  obtain ⟨steps, rfl, enough⟩ := exists_steps enough
  match members with
  | [] =>
    rw [Layout.writeMembers, List.append_assoc, readMembers?_gap (layout.blankGap depth)]
    rfl
  | (name, value) :: more =>
    rw [isExact.areExactMembers, Bool.and_eq_true] at exact
    rw [Layout.writeMembers, List.length_cons, List.length_append, List.length_append, List.length_cons,
      List.length_append, List.length_append] at enough
    obtain ⟨fewer, rfl, _⟩ := exists_steps (show 0 < steps by omega)
    have first := readValue?_write value exact.1 (depth + 1) fewer (by omega)
      (endsNumber_writeMembers layout depth more rest)
    have later := readMembers?_writeMembers more exact.2 depth (fewer + 1) rest (by omega)
    have member := readMember?_stringText name layout.blankSpace fewer
      (layout.write (depth + 1) value ++ (layout.writeMembers depth more ++ rest))
    rw [first] at member
    simp only [Layout.writeMembers, List.cons_append, List.append_assoc]
    rw [readMembers?, skipSpaces_cons rfl]
    simp only
    rw [readMember?_gap (layout.blankGap (depth + 1)), member]
    simp only [Option.map_some, Option.bind_eq_bind, Option.bind_some, later]
    rfl

end

/-- What was written is read as a whole, with blanks after it or without. -/
theorem read?_write {json : Json} (exact : json.isExact = true) (depth : Nat) (blanks : List Char)
    (blank : blanks.all isSpace = true) :
    read? (String.ofList (layout.write depth json ++ blanks)) = some json := by
  have ends : endsNumber (blanks ++ []) = true := endsNumber_gap blank rfl
  rw [List.append_nil] at ends
  have read := readValue?_write layout json exact depth
    ((layout.write depth json ++ blanks).length + 1) (by rw [List.length_append]; omega) ends
  rw [read?, String.toList_ofList, read]
  simp only [blank, if_true]

/-- A value that is written on one line comes back. -/
theorem read?_compact {json : Json} (exact : json.isExact = true) :
    read? (String.ofList json.compact) = some json := by
  have read := read?_write Layout.compact exact 0 [] rfl
  rwa [write_compact, List.append_nil] at read

/-- A value that is written with an item a line comes back, also from a text that ends its last line. -/
theorem read?_indented {json : Json} (exact : json.isExact = true) :
    read? (String.ofList (json.indented 0) ++ "\n") = some json := by
  have read := read?_write Layout.indented exact 0 ['\n'] rfl
  rw [write_indented, String.ofList_append] at read
  exact read

end AssemblyInfo.Json

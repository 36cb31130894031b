import AssemblyInfo.Proofs.Json.Reader

/-!
# The grammar of JSON texts

What a JSON text is, rule by rule: blanks may stand around values, names and the marks between them, numbers
may have a fraction and an exponent, and strings may have escapes. Compact texts without doubles are JSON
texts.
-/

namespace AssemblyInfo.Json
open Text

/-! ### Numbers -/

/-- Zero, or digits of which the first is not a zero. -/
inductive IsNatural : List Char → Prop
  | zero : IsNatural ['0']
  | digits {first : Char} {more : List Char} (digit : first.isDigit = true) (nonzero : first ≠ '0')
      (all : more.all Char.isDigit = true) : IsNatural (first :: more)

inductive IsFraction : List Char → Prop
  | none : IsFraction []
  | digits {digits : List Char} (some : digits ≠ []) (all : digits.all Char.isDigit = true) :
      IsFraction ('.' :: digits)

inductive IsExponent : List Char → Prop
  | none : IsExponent []
  | digits {mark : Char} {sign digits : List Char} (marked : mark = 'e' ∨ mark = 'E')
      (signed : sign = [] ∨ sign = ['+'] ∨ sign = ['-']) (some : digits ≠ [])
      (all : digits.all Char.isDigit = true) : IsExponent (mark :: (sign ++ digits))

inductive IsNumber : List Char → Prop
  | parts {sign natural fraction exponent : List Char} (signed : sign = [] ∨ sign = ['-'])
      (isNatural : IsNatural natural) (isFraction : IsFraction fraction) (isExponent : IsExponent exponent) :
      IsNumber (sign ++ (natural ++ (fraction ++ exponent)))

theorem isNatural_naturalText (n : Nat) : IsNatural (Decimal.naturalText n) := by
  have digits : ∀ c ∈ Decimal.naturalText n, c.isDigit = true := fun _ => Decimal.isDigit_of_mem_naturalText
  obtain ⟨first, more, written, -⟩ := Decimal.exists_naturalText n
  by_cases zero : first = '0'
  · have none : n = 0 := head?_naturalText (by rw [written, zero]; rfl)
    rw [none]
    exact .zero
  · rw [written, List.forall_mem_cons] at digits
    rw [written]
    exact .digits digits.1 zero (List.all_eq_true.2 digits.2)

theorem isNumber_integerText (n : Int) : IsNumber (Decimal.integerText n) := by
  have whole (sign natural : List Char) (signed : sign = [] ∨ sign = ['-']) (isNatural : IsNatural natural) :
      IsNumber (sign ++ natural) := by
    have number := IsNumber.parts signed isNatural .none .none
    rwa [List.append_nil, List.append_nil] at number
  cases n with
  | ofNat n => exact whole [] _ (Or.inl rfl) (isNatural_naturalText n)
  | negSucc n => exact whole ['-'] _ (Or.inr rfl) (isNatural_naturalText (n + 1))

/-! ### Strings -/

/-- A character of a string, or an escape. -/
inductive IsPiece : List Char → Prop
  | plain {c : Char} (visible : 0x20 ≤ c.toNat) (noQuote : c ≠ '"') (noEscape : c ≠ '\\') : IsPiece [c]
  | short {c : Char} (known : (shortEscape? c).isSome = true) : IsPiece ['\\', c]
  | unit {digits : List Char} (four : digits.length = 4)
      (all : ∀ digit ∈ digits, (hexValue? digit).isSome = true) : IsPiece ('\\' :: 'u' :: digits)

inductive IsString : List Char → Prop
  | pieces {pieces : List (List Char)} (each : ∀ piece ∈ pieces, IsPiece piece) :
      IsString ('"' :: (pieces.flatten ++ ['"']))

theorem isPiece_unitEscape (u : Nat) : IsPiece (unitEscape u) := by
  refine .unit rfl fun digit member => ?_
  obtain ⟨n, rfl⟩ : ∃ n, digit = hexDigit n := by
    simp only [hexDigits, List.nil_append, List.cons_append, List.mem_cons, List.not_mem_nil, or_false] at member
    rcases member with rfl | rfl | rfl | rfl <;> exact ⟨_, rfl⟩
  rw [hexValue?_hexDigit]
  rfl

/-- `InPieces chars` says that `chars` can stand between the quotes of a string. -/
def InPieces (chars : List Char) : Prop :=
  ∃ pieces : List (List Char), (∀ piece ∈ pieces, IsPiece piece) ∧ pieces.flatten = chars

theorem IsPiece.inPieces {piece : List Char} (one : IsPiece piece) : InPieces piece :=
  ⟨[piece], List.forall_mem_singleton.2 one, List.append_nil piece⟩

theorem InPieces.append {first second : List Char} (before : InPieces first) (after : InPieces second) :
    InPieces (first ++ second) := by
  obtain ⟨start, eachStart, rfl⟩ := before
  obtain ⟨last, eachLast, rfl⟩ := after
  exact ⟨start ++ last, List.forall_mem_append.2 ⟨eachStart, eachLast⟩, List.flatten_append⟩

theorem inPieces_codeEscape (n : Nat) : InPieces (codeEscape n) := by
  unfold codeEscape
  split
  · exact (isPiece_unitEscape n).inPieces
  · exact (isPiece_unitEscape _).inPieces.append (isPiece_unitEscape _).inPieces

theorem inPieces_charText (c : Char) : InPieces (charText c) := by
  unfold charText
  split
  · rename_i special
    rw [Bool.or_eq_true, decide_eq_true_eq, decide_eq_true_eq] at special
    rcases special with rfl | rfl <;> exact (IsPiece.short rfl).inPieces
  · rename_i ordinary
    rw [Bool.or_eq_true, decide_eq_true_eq, decide_eq_true_eq, not_or] at ordinary
    split
    · rename_i printable
      rw [Bool.and_eq_true, decide_eq_true_eq] at printable
      exact (IsPiece.plain printable.1 ordinary.1 ordinary.2).inPieces
    · repeat' split
      all_goals first
        | exact (IsPiece.short rfl).inPieces
        | exact inPieces_codeEscape c.toNat

theorem isString_stringText (s : String) : IsString (stringText s) := by
  have inside : InPieces (s.toList.flatMap charText) := by
    induction s.toList with
    | nil => exact ⟨[], List.forall_mem_nil _, rfl⟩
    | cons c rest ih => exact (inPieces_charText c).append ih
  obtain ⟨pieces, each, same⟩ := inside
  have string := IsString.pieces each
  rwa [same] at string

/-! ### Values -/

mutual

inductive IsValue : List Char → Prop
  | word {chars : List Char} (known : chars ∈ ["null".toList, "true".toList, "false".toList]) : IsValue chars
  | number {chars : List Char} (isNumber : IsNumber chars) : IsValue chars
  | string {chars : List Char} (isString : IsString chars) : IsValue chars
  | noItems {gap : List Char} (blank : gap.all isSpace = true) : IsValue ('[' :: (gap ++ [']']))
  | array {items : List Char} (areItems : AreItems items) : IsValue ('[' :: (items ++ [']']))
  | noMembers {gap : List Char} (blank : gap.all isSpace = true) : IsValue ('\x7b' :: (gap ++ ['\x7d']))
  | object {members : List Char} (areMembers : AreMembers members) : IsValue ('\x7b' :: (members ++ ['\x7d']))

/-- A value with blanks around it. A JSON text is nothing else. -/
inductive IsItem : List Char → Prop
  | padded {before value after : List Char} (blankBefore : before.all isSpace = true) (isValue : IsValue value)
      (blankAfter : after.all isSpace = true) : IsItem (before ++ (value ++ after))

inductive IsMember : List Char → Prop
  | named {before name after item : List Char} (blankBefore : before.all isSpace = true)
      (isString : IsString name) (blankAfter : after.all isSpace = true) (isItem : IsItem item) :
      IsMember (before ++ (name ++ (after ++ ':' :: item)))

inductive AreItems : List Char → Prop
  | last {item : List Char} (isItem : IsItem item) : AreItems item
  | further {item rest : List Char} (isItem : IsItem item) (more : AreItems rest) : AreItems (item ++ ',' :: rest)

inductive AreMembers : List Char → Prop
  | last {member : List Char} (isMember : IsMember member) : AreMembers member
  | further {member rest : List Char} (isMember : IsMember member) (more : AreMembers rest) :
      AreMembers (member ++ ',' :: rest)

end

theorem IsValue.isItem {chars : List Char} (isValue : IsValue chars) : IsItem chars := by
  have item := @IsItem.padded [] chars [] rfl isValue rfl
  rwa [List.nil_append, List.append_nil] at item

theorem IsValue.isMember {name value : List Char} (isString : IsString name) (isValue : IsValue value) :
    IsMember (name ++ ':' :: value) :=
  @IsMember.named [] name [] value rfl isString rfl isValue.isItem

mutual

theorem isValue_compact (json : Json) (exact : json.isExact = true) : IsValue json.compact := by
  match json with
  | .null => exact .word (by simp [compact])
  | .bool flag => exact .word (by cases flag <;> simp [compact, boolText])
  | .int n => exact .number (isNumber_integerText n)
  | .text s => exact .string (isString_stringText s)
  | .array [] => exact @IsValue.noItems [] rfl
  | .array (item :: rest) =>
    rw [isExact, isExact.areExact, Bool.and_eq_true] at exact
    obtain ⟨items, areItems, same⟩ := areItems_compact rest exact.2 (isValue_compact item exact.1).isItem
    rw [compact, List.cons_append, same]
    exact .array areItems
  | .object [] => exact @IsValue.noMembers [] rfl
  | .object ((name, value) :: rest) =>
    rw [isExact, isExact.areExactMembers, Bool.and_eq_true] at exact
    have first := (isValue_compact value exact.1).isMember (isString_stringText name)
    obtain ⟨members, areMembers, same⟩ := areMembers_compact rest exact.2 first
    rw [compact, List.cons_append, List.cons_append, same]
    exact .object areMembers

/-- What follows an item of an array completes the array. -/
theorem areItems_compact (rest : List Json) (exact : isExact.areExact rest = true) {item : List Char}
    (isItem : IsItem item) : ∃ items, AreItems items ∧ item ++ compactItems rest = items ++ [']'] := by
  match rest with
  | [] => exact ⟨item, .last isItem, rfl⟩
  | next :: others =>
    rw [isExact.areExact, Bool.and_eq_true] at exact
    obtain ⟨items, areItems, same⟩ := areItems_compact others exact.2 (isValue_compact next exact.1).isItem
    refine ⟨item ++ ',' :: items, .further isItem areItems, ?_⟩
    rw [compactItems, List.cons_append, same]
    simp

theorem areMembers_compact (rest : List (String × Json)) (exact : isExact.areExactMembers rest = true)
    {member : List Char} (isMember : IsMember member) :
    ∃ members, AreMembers members ∧ member ++ compactMembers rest = members ++ ['\x7d'] := by
  match rest with
  | [] => exact ⟨member, .last isMember, rfl⟩
  | (name, value) :: others =>
    rw [isExact.areExactMembers, Bool.and_eq_true] at exact
    have following := (isValue_compact value exact.1).isMember (isString_stringText name)
    obtain ⟨members, areMembers, same⟩ := areMembers_compact others exact.2 following
    refine ⟨member ++ ',' :: members, .further isMember areMembers, ?_⟩
    rw [compactMembers, List.cons_append, List.cons_append, same]
    simp

end

end AssemblyInfo.Json

import AssemblyInfo.Proofs.Json.Fragment
import AssemblyInfo.Proofs.Json.Grammar
import AssemblyInfo.Proofs.Json.Printable

/-!
# Where a JSON text ends

A JSON text says itself where it ends: its brackets close what they open, and commas stand within them. So the
text of an array can be taken apart in one way only, and arrays with one text have items with the same texts.
-/

namespace AssemblyInfo.Json

/-- Where the next character stands: outside of strings, in one, or behind a backslash in one. -/
inductive Position where
  | outside | inString | escaped
  deriving DecidableEq

def opens (c : Char) : Bool :=
  c == '[' || c == '\x7b'

def closes (c : Char) : Bool :=
  c == ']' || c == '\x7d'

/-- `extent position depth chars` is `chars` up to the comma or bracket that ends a value, within `depth` open
brackets. -/
def extent : Position → Nat → List Char → List Char
  | _, _, [] => []
  | .escaped, depth, c :: rest => c :: extent .inString depth rest
  | .inString, depth, c :: rest =>
    if c = '\\' then c :: extent .escaped depth rest
    else if c = '"' then c :: extent .outside depth rest
    else c :: extent .inString depth rest
  | .outside, depth, c :: rest =>
    if c = '"' then c :: extent .inString depth rest
    else if opens c then c :: extent .outside (depth + 1) rest
    else if depth = 0 ∧ (c = ',' ∨ closes c = true) then []
    else c :: extent .outside (if closes c then depth - 1 else depth) rest

/-! ### Numbers and words -/

/-- `isPlain c` holds of the characters that stand for nothing but themselves outside of strings. -/
def isPlain (c : Char) : Bool :=
  c != '"' && c != ',' && !opens c && !closes c

theorem extent_plain {c : Char} (plain : isPlain c = true) (depth : Nat) (rest : List Char) :
    extent .outside depth (c :: rest) = c :: extent .outside depth rest := by
  simp only [isPlain, Bool.and_eq_true, bne_iff_ne, Bool.not_eq_true'] at plain
  obtain ⟨⟨⟨noQuote, noComma⟩, noOpening⟩, noClosing⟩ := plain
  simp [extent, noQuote, noComma, noOpening, noClosing]

theorem extent_plain_append {chars : List Char} (plain : ∀ c ∈ chars, isPlain c = true) (depth : Nat)
    (rest : List Char) : extent .outside depth (chars ++ rest) = chars ++ extent .outside depth rest := by
  induction chars with
  | nil => rfl
  | cons c chars ih =>
    rw [List.forall_mem_cons] at plain
    rw [List.cons_append, extent_plain plain.1, ih plain.2, List.cons_append]

theorem isPlain_of_isNumeric {c : Char} (numeric : Decimal.isNumeric c = true) : isPlain c = true := by
  have other : ∀ d, Decimal.isNumeric d = false → c ≠ d := by
    rintro d letter rfl
    rw [letter] at numeric
    cases numeric
  simp [isPlain, opens, closes, other '"' rfl, other ',' rfl, other '[' rfl, other '\x7b' rfl, other ']' rfl,
    other '\x7d' rfl]

theorem isPlain_of_allNumeric {chars : List Char} (all : Decimal.allNumeric chars = true) :
    ∀ c ∈ chars, isPlain c = true :=
  fun c member => isPlain_of_isNumeric (List.all_eq_true.1 all c member)

theorem isPlain_floatText (x : Float) : ∀ c ∈ floatText x, isPlain c = true := by
  unfold floatText
  rcases Decimal.floatTextWith_cases x with ⟨chars, -, all, same⟩ | same | same | ⟨-, same⟩ <;> rw [same]
  · exact isPlain_of_allNumeric all
  all_goals exact List.all_eq_true.1 rfl

/-! ### Strings -/

theorem extent_inString {c : Char} (noQuote : c ≠ '"') (noEscape : c ≠ '\\') (depth : Nat) (rest : List Char) :
    extent .inString depth (c :: rest) = c :: extent .inString depth rest := by
  rw [extent, if_neg noEscape, if_neg noQuote]

theorem extent_escape (c : Char) (depth : Nat) (rest : List Char) :
    extent .inString depth ('\\' :: c :: rest) = '\\' :: c :: extent .inString depth rest := rfl

theorem extent_digits {digits : List Char} (all : ∀ digit ∈ digits, (Text.hexValue? digit).isSome = true)
    (depth : Nat) (rest : List Char) :
    extent .inString depth (digits ++ rest) = digits ++ extent .inString depth rest := by
  induction digits with
  | nil => rfl
  | cons digit digits ih =>
    rw [List.forall_mem_cons] at all
    have noQuote : digit ≠ '"' := by
      rintro rfl
      cases all.1
    have noEscape : digit ≠ '\\' := by
      rintro rfl
      cases all.1
    rw [List.cons_append, extent_inString noQuote noEscape, ih all.2, List.cons_append]

theorem extent_piece {piece : List Char} (one : IsPiece piece) (depth : Nat) (rest : List Char) :
    extent .inString depth (piece ++ rest) = piece ++ extent .inString depth rest := by
  cases one with
  | plain visible noQuote noEscape => exact extent_inString noQuote noEscape depth rest
  | short known => exact extent_escape _ depth rest
  | unit four all =>
    rw [List.cons_append, List.cons_append, extent_escape, extent_digits all, List.cons_append, List.cons_append]

theorem extent_string {chars : List Char} (string : IsString chars) (depth : Nat) (rest : List Char) :
    extent .outside depth (chars ++ rest) = chars ++ extent .outside depth rest := by
  have inside : ∀ pieces : List (List Char), (∀ piece ∈ pieces, IsPiece piece) →
      extent .inString depth (pieces.flatten ++ '"' :: rest) = pieces.flatten ++ '"' :: extent .outside depth rest := by
    intro pieces each
    induction pieces with
    | nil => rfl
    | cons piece pieces ih =>
      rw [List.forall_mem_cons] at each
      rw [List.flatten_cons, List.append_assoc, extent_piece each.1, ih each.2, List.append_assoc]
  cases string with
  | @pieces pieces each =>
    rw [List.cons_append, List.append_assoc, List.singleton_append, extent, if_pos rfl, inside pieces each,
      List.cons_append, List.append_assoc, List.singleton_append]

theorem extent_stringText (s : String) (depth : Nat) (rest : List Char) :
    extent .outside depth (stringText s ++ rest) = stringText s ++ extent .outside depth rest :=
  extent_string (isString_stringText s) depth rest

/-! ### Values -/

theorem extent_opening {c : Char} (opening : opens c = true) (depth : Nat) (rest : List Char) :
    extent .outside depth (c :: rest) = c :: extent .outside (depth + 1) rest := by
  have noQuote : c ≠ '"' := by
    rintro rfl
    cases opening
  rw [extent, if_neg noQuote, if_pos opening]

theorem extent_comma (depth : Nat) (rest : List Char) :
    extent .outside (depth + 1) (',' :: rest) = ',' :: extent .outside (depth + 1) rest := by
  simp [extent, opens, closes]

theorem extent_closing {c : Char} (closing : closes c = true) (depth : Nat) (rest : List Char) :
    extent .outside (depth + 1) (c :: rest) = c :: extent .outside depth rest := by
  have noQuote : c ≠ '"' := by
    rintro rfl
    cases closing
  have noOpening : opens c = false := by
    rw [closes, Bool.or_eq_true, beq_iff_eq, beq_iff_eq] at closing
    rcases closing with rfl | rfl <;> rfl
  simp [extent, noQuote, noOpening, closing]

mutual

/-- A value is passed over, brackets and all. -/
theorem extent_compact (depth : Nat) (rest : List Char) : ∀ json : Json,
    extent .outside depth (json.compact ++ rest) = json.compact ++ extent .outside depth rest
  | .null => extent_plain_append (List.all_eq_true.1 rfl) depth rest
  | .bool true => extent_plain_append (List.all_eq_true.1 rfl) depth rest
  | .bool false => extent_plain_append (List.all_eq_true.1 rfl) depth rest
  | .int n => extent_plain_append (isPlain_of_allNumeric (Decimal.allNumeric_integerText n)) depth rest
  | .float x => extent_plain_append (isPlain_floatText x) depth rest
  | .text s => extent_stringText s depth rest
  | .array [] => by
    rw [compact, List.cons_append, extent_opening rfl, List.singleton_append, extent_closing rfl]
    rfl
  | .array (item :: others) => by
    simp only [compact, List.cons_append, List.append_assoc]
    rw [extent_opening rfl, extent_compact, extent_compactItems]
  | .object [] => by
    rw [compact, List.cons_append, extent_opening rfl, List.singleton_append, extent_closing rfl]
    rfl
  | .object ((name, value) :: others) => by
    simp only [compact, List.cons_append, List.append_assoc]
    rw [extent_opening rfl, extent_stringText, extent_plain rfl, extent_compact, extent_compactMembers]

theorem extent_compactItems (depth : Nat) (rest : List Char) : ∀ items : List Json,
    extent .outside (depth + 1) (compactItems items ++ rest) = compactItems items ++ extent .outside depth rest
  | [] => extent_closing rfl depth rest
  | item :: others => by
    simp only [compactItems, List.cons_append, List.append_assoc]
    rw [extent_comma, extent_compact, extent_compactItems]

theorem extent_compactMembers (depth : Nat) (rest : List Char) : ∀ members : List (String × Json),
    extent .outside (depth + 1) (compactMembers members ++ rest) = compactMembers members ++ extent .outside depth rest
  | [] => extent_closing rfl depth rest
  | (name, value) :: others => by
    simp only [compactMembers, List.cons_append, List.append_assoc]
    rw [extent_comma, extent_stringText, extent_plain rfl, extent_compact, extent_compactMembers]

end

/-- What a comma or a bracket follows, or nothing, can be told from it. -/
theorem compact_append_inj {first second : Json} {rest more : List Char} (ends : extent .outside 0 rest = [])
    (endsThen : extent .outside 0 more = []) (same : first.compact ++ rest = second.compact ++ more) :
    first.compact = second.compact ∧ rest = more := by
  have alike := congrArg (extent .outside 0) same
  rw [extent_compact, extent_compact, ends, endsThen, List.append_nil, List.append_nil] at alike
  rw [alike, List.append_cancel_left_eq] at same
  exact ⟨alike, same⟩

/-! ### Arrays -/

/-- `IsText chars` says that `chars` is the text of a JSON value. -/
def IsText (chars : List Char) : Prop :=
  ∃ json : Json, json.compact = chars

theorem ends_items (rest : List (List Char)) : extent .outside 0 (rest.flatMap (',' :: ·) ++ [']']) = [] := by
  cases rest <;> rfl

theorem items_inj {items others : List (List Char)} (each : ∀ item ∈ items, IsText item)
    (eachThen : ∀ other ∈ others, IsText other)
    (same : items.flatMap (',' :: ·) ++ [']'] = others.flatMap (',' :: ·) ++ [']']) : items = others := by
  induction items generalizing others with
  | nil =>
    cases others with
    | nil => rfl
    | cons other others => cases (List.cons.inj same).1
  | cons item items ih =>
    cases others with
    | nil => cases (List.cons.inj same).1
    | cons other others =>
      rw [List.forall_mem_cons] at each eachThen
      obtain ⟨json, rfl⟩ := each.1
      obtain ⟨jsonThen, rfl⟩ := eachThen.1
      rw [List.flatMap_cons, List.flatMap_cons, List.append_assoc, List.append_assoc] at same
      obtain ⟨first, further⟩ :=
        compact_append_inj (ends_items items) (ends_items others) (List.cons.inj same).2
      rw [first, ih each.2 eachThen.2 further]

theorem arrayText_cons_ne {item : List Char} (isText : IsText item) (rest : List (List Char)) :
    arrayText (item :: rest) ≠ arrayText [] := by
  obtain ⟨json, rfl⟩ := isText
  intro same
  have alike : extent .outside 0 (json.compact ++ (rest.flatMap (',' :: ·) ++ [']'])) = extent .outside 0 [']'] :=
    congrArg _ (List.cons.inj same).2
  rw [extent_compact, ends_items, List.append_nil] at alike
  have some := allBlank_compact json
  rw [alike] at some
  cases some

/-- Arrays with one text have items with the same texts. -/
theorem arrayText_inj {items others : List (List Char)} (each : ∀ item ∈ items, IsText item)
    (eachThen : ∀ other ∈ others, IsText other) (same : arrayText items = arrayText others) : items = others := by
  cases items with
  | nil =>
    cases others with
    | nil => rfl
    | cons other others => exact absurd same.symm (arrayText_cons_ne (List.forall_mem_cons.1 eachThen).1 others)
  | cons item items =>
    cases others with
    | nil => exact absurd same (arrayText_cons_ne (List.forall_mem_cons.1 each).1 items)
    | cons other others =>
      rw [List.forall_mem_cons] at each eachThen
      obtain ⟨json, rfl⟩ := each.1
      obtain ⟨jsonThen, rfl⟩ := eachThen.1
      obtain ⟨first, further⟩ :=
        compact_append_inj (ends_items items) (ends_items others) (List.cons.inj same).2
      rw [first, items_inj each.2 eachThen.2 further]

end AssemblyInfo.Json

import AssemblyInfo.Proofs.Calendar.Shown
import AssemblyInfo.Proofs.Json.Fragment
import AssemblyInfo.Proofs.Text.Pattern
import AssemblyInfo.Proofs.Text.Quoted
import Mathlib.Data.List.Nodup

/-!
# Reading scalars as they are shown

How a scalar is shown can be read in one way only: words and numbers stop where something ends, dates and
quoted texts have an end of their own, and so have tuples. What is read says what the JSON text is. So
scalars that are shown alike have one JSON text.
-/

namespace AssemblyInfo
open Text

/-! ### Scalars -/

namespace Value

/-- `value.IsScalar` says that `value` is null, a flag, a number, a text, bytes, a date or a time, or a tuple
of such values. -/
inductive IsScalar : Value → Prop
  | null : IsScalar .null
  | bool (flag : Bool) : IsScalar (.bool flag)
  | int (n : Int) : IsScalar (.int n)
  | float {x : Float} (number : Decimal.magnitude x ≠ .notANumber) : IsScalar (.float x)
  | notANumber (label : Nat) : IsScalar (.notANumber label)
  | text (s : String) : IsScalar (.text s)
  | bytes (data : List UInt8) : IsScalar (.bytes data)
  | date (d : Calendar.Date) : IsScalar (.date d)
  | moment (m : Calendar.Moment) : IsScalar (.moment m)
  | tuple {items : List Value} (each : ∀ item ∈ items, IsScalar item) : IsScalar (.tuple items)
  | later {part : Unit → Value} (scalar : IsScalar (part ())) : IsScalar (.later part)

end Value

/-! ### Appearances -/

/-- How a scalar can start. -/
inductive Style where
  | word | text | bytes | time | tuple
  deriving DecidableEq

/-- `styleOf? c` is the style of scalars that start with `c`; none starts with what ends one. -/
def styleOf? (c : Char) : Option Style :=
  if c = '\'' || c = '"' then some .text
  else if c = 'b' then some .bytes
  else if c = 'd' then some .time
  else if c = '(' then some .tuple
  else if c = ',' || c = ')' then none
  else some .word

/-- The words among the scalars, and their JSON texts. -/
def words : List (List Char × List Char) :=
  [("None".toList, "null".toList), ("True".toList, "true".toList), ("False".toList, "false".toList),
    ("inf".toList, "Infinity".toList), ("-inf".toList, "-Infinity".toList), ("nan".toList, Json.notANumber.compact)]

/-- How a scalar is shown, and its JSON text. -/
structure Appearance where
  style : Style
  shown : List Char
  text : List Char

namespace Appearance

/-- `appearance.OfScalar` says that `appearance` is the one of a scalar. -/
inductive OfScalar : Appearance → Prop
  | word {word : List Char × List Char} (known : word ∈ words) : OfScalar ⟨.word, word.1, word.2⟩
  | number {chars : List Char} (some : chars ≠ []) (all : Decimal.allNumeric chars = true) :
      OfScalar ⟨.word, chars, chars⟩
  | text (s : String) : OfScalar ⟨.text, quotedChars s.toList, Json.stringText s⟩
  | bytes (data : List UInt8) : OfScalar ⟨.bytes, (quotedBytes data).toList, Json.stringText (quotedBytes data)⟩
  | date (d : Calendar.Date) : OfScalar ⟨.time, d.shown.toList, Json.stringText (String.ofList d.text)⟩
  | moment (m : Calendar.Moment) : OfScalar ⟨.time, m.shown.toList, Json.stringText (String.ofList m.text)⟩
  | tuple {parts : List Appearance} (each : ∀ part ∈ parts, OfScalar part) :
      OfScalar ⟨.tuple, Value.tupleText (parts.map shown), Json.arrayText (parts.map text)⟩

theorem styleOf?_of_isNumeric {c : Char} (numeric : Decimal.isNumeric c = true) : styleOf? c = some .word := by
  have other : ∀ d, Decimal.isNumeric d = false → c ≠ d := by
    rintro d letter rfl
    rw [letter] at numeric
    cases numeric
  simp [styleOf?, other '\'' rfl, other '"' rfl, other 'b' rfl, other 'd' rfl, other '(' rfl, other ',' rfl,
    other ')' rfl]

theorem tupleText_eq_cons (parts : List (List Char)) : ∃ rest, Value.tupleText parts = '(' :: rest := by
  unfold Value.tupleText
  split <;> exact ⟨_, rfl⟩

theorem OfScalar.start {appearance : Appearance} (one : appearance.OfScalar) :
    ∃ c rest, appearance.shown = c :: rest ∧ styleOf? c = some appearance.style := by
  cases one with
  | word known =>
    simp only [words, List.mem_cons, List.not_mem_nil, or_false] at known
    rcases known with rfl | rfl | rfl | rfl | rfl | rfl <;> exact ⟨_, _, rfl, rfl⟩
  | @number chars some all =>
    obtain ⟨c, rest, rfl⟩ := List.exists_cons_of_ne_nil some
    rw [Decimal.allNumeric_cons, Bool.and_eq_true] at all
    exact ⟨c, rest, rfl, styleOf?_of_isNumeric all.1⟩
  | text s =>
    refine ⟨_, _, rfl, ?_⟩
    rcases isQuote_quoteFor s.toList with quote | quote <;> rw [quote] <;> rfl
  | bytes data => exact ⟨'b', _, String.toList_ofList, rfl⟩
  | date d =>
    have same := Calendar.date_shown_append d []
    rw [List.append_nil] at same
    dsimp only
    exact ⟨'d', _, same, rfl⟩
  | moment m =>
    have same := Calendar.moment_shown_append m []
    rw [List.append_nil] at same
    dsimp only
    exact ⟨'d', _, same, rfl⟩
  | tuple each =>
    obtain ⟨rest, same⟩ := tupleText_eq_cons (List.map shown _)
    exact ⟨'(', rest, same, rfl⟩

/-! ### Words and numbers -/

/-- `isInner c` holds of the characters that can stand within a word or a number. -/
def isInner (c : Char) : Bool :=
  c != ',' && c != ')'

/-- `Ended rest` says that a word or a number ends in front of `rest`. -/
def Ended (rest : List Char) : Prop :=
  rest.takeWhile isInner = []

theorem isInner_of_allNumeric {chars : List Char} (all : Decimal.allNumeric chars = true) :
    ∀ c ∈ chars, isInner c = true := by
  intro c member
  have numeric := List.all_eq_true.1 all c member
  rw [isInner, Bool.and_eq_true, bne_iff_ne, bne_iff_ne]
  constructor <;> rintro rfl <;> cases numeric

theorem isInner_of_word : ∀ word ∈ words, ∀ c ∈ word.1, isInner c = true := by
  have all : ∀ word ∈ words, word.1.all isInner = true := by
    simp only [words, List.forall_mem_cons]
    exact ⟨rfl, rfl, rfl, rfl, rfl, rfl, List.forall_mem_nil _⟩
  exact fun word known => List.all_eq_true.1 (all word known)

theorem allNumeric_word : ∀ word ∈ words, Decimal.allNumeric word.1 = false := by
  simp only [words, List.forall_mem_cons]
  exact ⟨rfl, rfl, rfl, rfl, rfl, rfl, List.forall_mem_nil _⟩

theorem word_inj {word other : List Char × List Char} (known : word ∈ words) (knownThen : other ∈ words)
    (same : word.1 = other.1) : word = other :=
  List.inj_on_of_nodup_map (show (words.map Prod.fst).Nodup by decide) known knownThen same

/-! ### Reading -/

/-- `first.IsReadable` says that what is shown as `first` can be read in one way only. -/
def IsReadable (first : Appearance) : Prop :=
  ∀ (second : Appearance) (rest more : List Char), second.OfScalar → Ended rest → Ended more →
    first.shown ++ rest = second.shown ++ more → first.text = second.text ∧ rest = more

theorem OfScalar.style_eq {first second : Appearance} (one : first.OfScalar) (two : second.OfScalar)
    {rest more : List Char} (same : first.shown ++ rest = second.shown ++ more) : first.style = second.style := by
  obtain ⟨c, inside, shown, style⟩ := one.start
  obtain ⟨d, others, shownThen, styleThen⟩ := two.start
  rw [shown, shownThen, List.cons_append, List.cons_append, List.cons.injEq] at same
  rw [same.1, styleThen] at style
  exact (Option.some.inj style).symm

/-! ### Tuples -/

/-- `tupleTail alone parts` is what follows an item of a tuple, which stands `alone` or after others, if
`parts` are the items after it. -/
def tupleTail : Bool → List (List Char) → List Char
  | true, [] => [',', ')']
  | false, [] => [')']
  | _, part :: rest => ',' :: ' ' :: (part ++ tupleTail false rest)

theorem ended_tupleTail (alone : Bool) (parts : List (List Char)) (rest : List Char) :
    Ended (tupleTail alone parts ++ rest) := by
  cases alone <;> cases parts <;> rfl

theorem separated_cons (part : List Char) (rest : List (List Char)) :
    Value.separated (part :: rest) ++ [')'] = part ++ tupleTail false rest := by
  induction rest generalizing part with
  | nil => simp [Value.separated, tupleTail]
  | cons next others ih =>
    have later := ih next
    simp only [Value.separated] at later
    simp [Value.separated, tupleTail, ← later]

theorem tupleText_cons (part : List Char) (rest : List (List Char)) :
    Value.tupleText (part :: rest) = '(' :: (part ++ tupleTail true rest) := by
  cases rest with
  | nil => rfl
  | cons next others =>
    rw [Value.tupleText, List.cons_append, separated_cons]
    · rfl
    · simp

theorem tupleTail_cons (alone : Bool) (part : List Char) (rest : List (List Char)) :
    tupleTail alone (part :: rest) = ',' :: ' ' :: (part ++ tupleTail false rest) := by
  cases alone <;> rfl

theorem tupleTail_inj {parts others : List Appearance} (readable : ∀ part ∈ parts, part.IsReadable)
    (ofScalars : ∀ other ∈ others, other.OfScalar) {alone aloneThen : Bool} {rest more : List Char}
    (same : tupleTail alone (parts.map shown) ++ rest = tupleTail aloneThen (others.map shown) ++ more) :
    parts.map text = others.map text ∧ rest = more := by
  -- After the first item no other stands alone, so the induction runs over tails of both kinds.
  induction parts generalizing others alone aloneThen with
  | nil =>
    cases others with
    | nil => cases alone <;> cases aloneThen <;> simp_all [tupleTail]
    | cons other others =>
      rw [List.map_cons, tupleTail_cons] at same
      cases alone <;> simp [tupleTail] at same
  | cons part parts ih =>
    cases others with
    | nil =>
      rw [List.map_cons, tupleTail_cons] at same
      cases aloneThen <;> simp [tupleTail] at same
    | cons other others =>
      rw [List.forall_mem_cons] at readable ofScalars
      simp only [List.map_cons, tupleTail_cons, List.cons_append, List.append_assoc, List.cons.injEq,
        true_and] at same
      obtain ⟨first, further⟩ :=
        readable.1 other _ _ ofScalars.1 (ended_tupleTail _ _ _) (ended_tupleTail _ _ _) same
      obtain ⟨texts, after⟩ := ih readable.2 ofScalars.2 further
      exact ⟨by rw [List.map_cons, List.map_cons, first, texts], after⟩

/-- No scalar starts with the end of a tuple. -/
theorem OfScalar.ne_end {appearance : Appearance} (one : appearance.OfScalar) (rest more : List Char) :
    appearance.shown ++ rest ≠ ')' :: more := by
  obtain ⟨c, inside, shown, style⟩ := one.start
  rw [shown, List.cons_append]
  intro same
  rw [(List.cons.inj same).1] at style
  cases style

theorem tupleText_inj {parts others : List Appearance} (readable : ∀ part ∈ parts, part.IsReadable)
    (ofScalars : ∀ part ∈ parts, part.OfScalar) (ofScalarsThen : ∀ other ∈ others, other.OfScalar)
    {rest more : List Char}
    (same : Value.tupleText (parts.map shown) ++ rest = Value.tupleText (others.map shown) ++ more) :
    parts.map text = others.map text ∧ rest = more := by
  cases parts with
  | nil =>
    cases others with
    | nil => exact ⟨rfl, List.append_cancel_left same⟩
    | cons other others =>
      rw [List.map_cons, tupleText_cons, List.cons_append, List.append_assoc] at same
      exact absurd (List.cons.inj same).2.symm ((ofScalarsThen other List.mem_cons_self).ne_end _ _)
  | cons part parts =>
    cases others with
    | nil =>
      rw [List.map_cons, tupleText_cons, List.cons_append, List.append_assoc] at same
      exact absurd (List.cons.inj same).2 ((ofScalars part List.mem_cons_self).ne_end _ _)
    | cons other others =>
      rw [List.forall_mem_cons] at readable ofScalarsThen
      simp only [List.map_cons, tupleText_cons, List.cons_append, List.append_assoc, List.cons.injEq,
        true_and] at same
      obtain ⟨first, further⟩ :=
        readable.1 other _ _ ofScalarsThen.1 (ended_tupleTail _ _ _) (ended_tupleTail _ _ _) same
      obtain ⟨texts, after⟩ := tupleTail_inj readable.2 ofScalarsThen.2 further
      exact ⟨by rw [List.map_cons, List.map_cons, first, texts], after⟩

/-! ### One reading for each style -/

theorem isReadable_word {word : List Char × List Char} (known : word ∈ words) :
    IsReadable ⟨.word, word.1, word.2⟩ := by
  intro second rest more two ends endsThen same
  have styles := (OfScalar.word known).style_eq two same
  cases two with
  | word knownThen =>
    obtain ⟨shown, after⟩ := run_inj (isInner_of_word _ known) (isInner_of_word _ knownThen) ends endsThen same
    exact ⟨congrArg Prod.snd (word_inj known knownThen shown), after⟩
  | number some all =>
    obtain ⟨shown, -⟩ := run_inj (isInner_of_word _ known) (isInner_of_allNumeric all) ends endsThen same
    rw [← shown, allNumeric_word _ known] at all
    cases all
  | text | bytes | date | moment | tuple => cases styles

theorem isReadable_number {chars : List Char} (some : chars ≠ []) (all : Decimal.allNumeric chars = true) :
    IsReadable ⟨.word, chars, chars⟩ := by
  intro second rest more two ends endsThen same
  have styles := (OfScalar.number some all).style_eq two same
  cases two with
  | word known =>
    obtain ⟨shown, -⟩ := run_inj (isInner_of_allNumeric all) (isInner_of_word _ known) ends endsThen same
    rw [shown, allNumeric_word _ known] at all
    cases all
  | number someThen allThen =>
    exact run_inj (isInner_of_allNumeric all) (isInner_of_allNumeric allThen) ends endsThen same
  | text | bytes | date | moment | tuple => cases styles

theorem isReadable_text (s : String) : IsReadable ⟨.text, quotedChars s.toList, Json.stringText s⟩ := by
  intro second rest more two _ _ same
  have styles := (OfScalar.text s).style_eq two same
  cases two with
  | text t =>
    dsimp only at same
    obtain ⟨chars, after⟩ := quotedChars_inj same
    exact ⟨by rw [String.toList_inj.1 chars], after⟩
  | word | number | bytes | date | moment | tuple => cases styles

theorem isReadable_bytes (data : List UInt8) :
    IsReadable ⟨.bytes, (quotedBytes data).toList, Json.stringText (quotedBytes data)⟩ := by
  intro second rest more two _ _ same
  have styles := (OfScalar.bytes data).style_eq two same
  cases two with
  | bytes others =>
    dsimp only at same
    obtain ⟨rfl, after⟩ := quotedBytes_inj same
    exact ⟨rfl, after⟩
  | word | number | text | date | moment | tuple => cases styles

theorem date_shown_ne_moment (d : Calendar.Date) (m : Calendar.Moment) (rest more : List Char) :
    d.shown.toList ++ rest ≠ m.shown.toList ++ more := by
  rw [Calendar.date_shown_append, Calendar.moment_shown_append]
  simp

theorem isReadable_date (d : Calendar.Date) :
    IsReadable ⟨.time, d.shown.toList, Json.stringText (String.ofList d.text)⟩ := by
  intro second rest more two _ _ same
  have styles := (OfScalar.date d).style_eq two same
  cases two with
  | date other =>
    dsimp only at same
    obtain ⟨rfl, after⟩ := Calendar.date_shown_inj same
    exact ⟨rfl, after⟩
  | moment m =>
    dsimp only at same
    exact absurd same (date_shown_ne_moment d m rest more)
  | word | number | text | bytes | tuple => cases styles

theorem isReadable_moment (m : Calendar.Moment) :
    IsReadable ⟨.time, m.shown.toList, Json.stringText (String.ofList m.text)⟩ := by
  intro second rest more two _ _ same
  have styles := (OfScalar.moment m).style_eq two same
  cases two with
  | date d =>
    dsimp only at same
    exact absurd same.symm (date_shown_ne_moment d m more rest)
  | moment other =>
    dsimp only at same
    obtain ⟨rfl, after⟩ := Calendar.moment_shown_inj same
    exact ⟨rfl, after⟩
  | word | number | text | bytes | tuple => cases styles

theorem isReadable_tuple {parts : List Appearance} (each : ∀ part ∈ parts, part.OfScalar)
    (readable : ∀ part ∈ parts, part.IsReadable) :
    IsReadable ⟨.tuple, Value.tupleText (parts.map shown), Json.arrayText (parts.map text)⟩ := by
  intro second rest more two _ _ same
  have styles := (OfScalar.tuple each).style_eq two same
  cases two with
  | tuple eachThen =>
    dsimp only at same
    obtain ⟨texts, after⟩ := tupleText_inj readable each eachThen same
    exact ⟨congrArg Json.arrayText texts, after⟩
  | word | number | text | bytes | date | moment => cases styles

/-- What is shown as a scalar can be read in one way only. -/
theorem OfScalar.isReadable {first : Appearance} (one : first.OfScalar) : first.IsReadable := by
  induction one with
  | word known => exact isReadable_word known
  | number some all => exact isReadable_number some all
  | text s => exact isReadable_text s
  | bytes data => exact isReadable_bytes data
  | date d => exact isReadable_date d
  | moment m => exact isReadable_moment m
  | tuple each ih => exact isReadable_tuple each ih

end Appearance

/-! ### Values -/

namespace Value

/-- `value.AppearsAs appearance` says that `value` is shown, and has a JSON text, as in `appearance`. -/
structure AppearsAs (value : Value) (appearance : Appearance) : Prop where
  ofScalar : appearance.OfScalar
  shown : value.shown = appearance.shown
  text : value.fragment = .ok appearance.text

theorem exists_appearsAs_items {items : List Value} (each : ∀ item ∈ items, ∃ part, item.AppearsAs part) :
    ∃ parts : List Appearance, (∀ part ∈ parts, part.OfScalar) ∧
      shownItems items = parts.map Appearance.shown ∧
      items.map fragment = (parts.map Appearance.text).map Except.ok := by
  induction items with
  | nil => exact ⟨[], List.forall_mem_nil _, rfl, rfl⟩
  | cons item rest ih =>
    rw [List.forall_mem_cons] at each
    obtain ⟨part, first⟩ := each.1
    obtain ⟨parts, ofScalars, shown, texts⟩ := ih each.2
    refine ⟨part :: parts, List.forall_mem_cons.2 ⟨first.ofScalar, ofScalars⟩, ?_, ?_⟩
    · rw [shownItems, first.shown, shown, List.map_cons]
    · rw [List.map_cons, first.text, texts, List.map_cons, List.map_cons]

theorem exists_appearsAs_float {x : Float} (number : Decimal.magnitude x ≠ .notANumber) :
    ∃ appearance, (float x).AppearsAs appearance := by
  rcases Decimal.floatTextWith_cases x with ⟨chars, some, all, same⟩ | same | same | ⟨none, -⟩
  · exact ⟨_, .number some all, same _, congrArg Except.ok (same _)⟩
  · exact ⟨_, @Appearance.OfScalar.word ("inf".toList, "Infinity".toList) (by simp [words]), same _,
      congrArg Except.ok (same _)⟩
  · exact ⟨_, @Appearance.OfScalar.word ("-inf".toList, "-Infinity".toList) (by simp [words]), same _,
      congrArg Except.ok (same _)⟩
  · exact absurd none number

theorem IsScalar.exists_appearsAs {value : Value} (scalar : value.IsScalar) :
    value.isWritable = true → ∃ appearance, value.AppearsAs appearance := by
  induction scalar with
  | null =>
    exact fun _ => ⟨_, @Appearance.OfScalar.word ("None".toList, "null".toList) (by simp [words]), rfl, rfl⟩
  | bool flag =>
    intro _
    cases flag with
    | true => exact ⟨_, @Appearance.OfScalar.word ("True".toList, "true".toList) (by simp [words]), rfl, rfl⟩
    | false => exact ⟨_, @Appearance.OfScalar.word ("False".toList, "false".toList) (by simp [words]), rfl, rfl⟩
  | int n =>
    intro writable
    rw [isWritable, Bool.not_eq_true'] at writable
    obtain ⟨c, rest, written, -⟩ := Decimal.exists_integerText n
    refine ⟨_, .number (written ▸ List.cons_ne_nil c rest) (Decimal.allNumeric_integerText n), rfl, ?_⟩
    rw [fragment, toJson, writable, if_neg Bool.false_ne_true]
    rfl
  | float number => exact fun _ => exists_appearsAs_float number
  | notANumber label =>
    have known : ("nan".toList, Json.notANumber.compact) ∈ words := by simp [words]
    exact fun _ => ⟨_, .word known, rfl, rfl⟩
  | text s => exact fun _ => ⟨_, .text s, rfl, rfl⟩
  | bytes data =>
    have display : (Value.bytes data).display = quotedBytes data := String.ofList_toList
    have same : (Value.bytes data).fragment = .ok (Json.stringText (Value.bytes data).display) := rfl
    exact fun _ => ⟨_, .bytes data, rfl, by rw [same, display]⟩
  | date d =>
    refine fun _ => ⟨_, .date d, ?_, rfl⟩
    dsimp only
    rfl
  | moment m => exact fun _ => ⟨_, .moment m, rfl, rfl⟩
  | @tuple items each ih =>
    intro writable
    have other : ∀ kind shownAs fields, Value.tuple items ≠ .dataclass kind shownAs fields := by
      rintro kind shownAs fields ⟨⟩
    obtain ⟨parts, ofScalars, shown, texts⟩ :=
      exists_appearsAs_items fun item member => ih item member (isWritable_part writable member other)
    refine ⟨_, .tuple ofScalars, congrArg tupleText shown, ?_⟩
    rw [fragment_tuple, fragment_list, texts, inOrder_map_ok]
    rfl
  | later scalar ih =>
    intro writable
    obtain ⟨appearance, appears⟩ := ih writable
    exact ⟨appearance, appears.ofScalar, appears.shown, appears.text⟩

/-- Scalars that are shown alike have one JSON text. -/
theorem IsScalar.fragment_eq {value other : Value} (scalar : value.IsScalar) (scalarThen : other.IsScalar)
    (writable : value.isWritable = true) (writableThen : other.isWritable = true)
    (same : value.shown = other.shown) : value.fragment = other.fragment := by
  obtain ⟨first, appears⟩ := scalar.exists_appearsAs writable
  obtain ⟨second, appearsThen⟩ := scalarThen.exists_appearsAs writableThen
  rw [appears.shown, appearsThen.shown] at same
  have alike : first.shown ++ [] = second.shown ++ [] := by rw [same]
  obtain ⟨texts, -⟩ := appears.ofScalar.isReadable second [] [] appearsThen.ofScalar rfl rfl alike
  rw [appears.text, appearsThen.text, texts]

end Value

end AssemblyInfo

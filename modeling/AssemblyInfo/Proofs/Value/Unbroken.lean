import AssemblyInfo.Model.Build
import AssemblyInfo.Proofs.Json.Printable

/-!
# Values on one line

The text of a value holds no line feed if none of the texts in it does: quotes escape line feeds, and
numbers, dates and the marks of collections have none.
-/

namespace AssemblyInfo
open Text

theorem newline_notMem_append {first second : List Char} (one : '\n' ∉ first) (other : '\n' ∉ second) :
    '\n' ∉ first ++ second := by
  rw [List.mem_append, not_or]
  exact ⟨one, other⟩

theorem newline_notMem_cons {c : Char} {rest : List Char} (other : '\n' ≠ c) (single : '\n' ∉ rest) :
    '\n' ∉ c :: rest := by
  rw [List.mem_cons, not_or]
  exact ⟨other, single⟩

/-! ### Quoted texts -/

namespace Text

theorem newline_notMem_hexDigits (width n : Nat) : '\n' ∉ hexDigits width n :=
  newline_notMem_of_allAsciiPrintable (allAsciiPrintable_hexDigits width n)

theorem newline_notMem_escapeCode (n : Nat) : '\n' ∉ escapeCode n := by
  unfold escapeCode
  repeat' split
  all_goals exact newline_notMem_cons (by decide) (newline_notMem_cons (by decide) (newline_notMem_hexDigits _ n))

theorem newline_notMem_escapeShort? {quote c : Char} {escape : List Char} (notFeed : quote ≠ '\n')
    (escaped : escapeShort? quote c = some escape) : '\n' ∉ escape := by
  unfold escapeShort? at escaped
  split at escaped
  · rename_i special
    obtain rfl := Option.some.inj escaped
    rw [Bool.or_eq_true, decide_eq_true_eq, decide_eq_true_eq] at special
    have other : '\n' ≠ c := by
      rintro rfl
      rcases special with same | same
      · exact notFeed same.symm
      · cases same
    exact newline_notMem_cons (by decide) (newline_notMem_cons other List.not_mem_nil)
  · repeat' split at escaped
    all_goals cases escaped
    all_goals decide

theorem ne_newline_of_not_escaped {quote c : Char} (notFeed : quote ≠ '\n')
    (plain : escapeShort? quote c = none) : '\n' ≠ c := by
  rintro rfl
  have other : ('\n' = quote || '\n' = '\\') = false := by
    simp [notFeed.symm]
  rw [escapeShort?, other] at plain
  cases plain

theorem newline_notMem_quotedChar {quote : Char} (notFeed : quote ≠ '\n') (c : Char) :
    '\n' ∉ quotedChar quote c := by
  unfold quotedChar
  split
  · rename_i escape escaped
    exact newline_notMem_escapeShort? notFeed escaped
  · rename_i plain
    split
    · exact newline_notMem_cons (ne_newline_of_not_escaped notFeed plain) List.not_mem_nil
    · exact newline_notMem_escapeCode _

theorem newline_notMem_quotedByte {quote : Char} (notFeed : quote ≠ '\n') (byte : UInt8) :
    '\n' ∉ quotedByte quote byte := by
  unfold quotedByte
  split
  · rename_i escape escaped
    exact newline_notMem_escapeShort? notFeed escaped
  · rename_i plain
    split
    · exact newline_notMem_cons (ne_newline_of_not_escaped notFeed plain) List.not_mem_nil
    · exact newline_notMem_escapeCode _

theorem quoteFor_ne_newline (chars : List Char) : quoteFor chars ≠ '\n' := by
  unfold quoteFor
  split <;> decide

theorem newline_notMem_flatMap {α : Type} {items : List α} {text : α → List Char}
    (each : ∀ item ∈ items, '\n' ∉ text item) : '\n' ∉ items.flatMap text := by
  rw [List.mem_flatMap]
  rintro ⟨item, member, newline⟩
  exact each item member newline

theorem newline_notMem_quotedChars (chars : List Char) : '\n' ∉ quotedChars chars := by
  have notFeed := quoteFor_ne_newline chars
  unfold quotedChars
  exact newline_notMem_append
    (newline_notMem_cons notFeed.symm (newline_notMem_flatMap fun c _ => newline_notMem_quotedChar notFeed c))
    (newline_notMem_cons notFeed.symm List.not_mem_nil)

theorem newline_notMem_quotedBytes (bytes : List UInt8) : '\n' ∉ (quotedBytes bytes).toList := by
  have notFeed := quoteFor_ne_newline (bytes.map fun byte => Char.ofNat byte.toNat)
  unfold quotedBytes
  simp only [String.toList_ofList]
  exact newline_notMem_cons (by decide) (newline_notMem_append
    (newline_notMem_cons notFeed.symm (newline_notMem_flatMap fun byte _ => newline_notMem_quotedByte notFeed byte))
    (newline_notMem_cons notFeed.symm List.not_mem_nil))

end Text

/-! ### Numbers and dates -/

theorem newline_notMem_intercalate {separator : List Char} (single : '\n' ∉ separator)
    {parts : List (List Char)} (each : ∀ part ∈ parts, '\n' ∉ part) : '\n' ∉ separator.intercalate parts := by
  induction parts with
  | nil => exact List.not_mem_nil
  | cons part rest ih =>
    rw [List.forall_mem_cons] at each
    cases rest with
    | nil =>
      have whole : separator.intercalate [part] = part ++ [] := rfl
      rw [whole]
      exact newline_notMem_append each.1 List.not_mem_nil
    | cons next others =>
      have split : separator.intercalate (part :: next :: others) =
          part ++ (separator ++ separator.intercalate (next :: others)) := by
        rw [List.intercalate, List.intersperse_cons_cons, List.flatten_cons, List.flatten_cons]
        rfl
      rw [split]
      exact newline_notMem_append each.1 (newline_notMem_append single (ih each.2))

namespace Calendar
open Decimal

theorem newline_notMem_naturalText (n : Nat) : '\n' ∉ naturalText n :=
  newline_notMem_of_allAsciiPrintable (allAsciiPrintable_naturalText n)

theorem newline_notMem_integerText (n : Int) : '\n' ∉ integerText n :=
  newline_notMem_of_allAsciiPrintable (allAsciiPrintable_integerText n)

theorem newline_notMem_padded (width n : Nat) : '\n' ∉ padded width n :=
  newline_notMem_append
    (newline_notMem_of_allAsciiPrintable (allAsciiPrintable_replicate rfl _)) (newline_notMem_naturalText n)

theorem newline_notMem_dateText (date : Date) : '\n' ∉ date.text := by
  have numbers := newline_notMem_padded
  unfold Date.text
  simp only [List.append_assoc, List.cons_append, List.mem_append, List.mem_cons, not_or]
  exact ⟨numbers _ _, by decide, numbers _ _, by decide, numbers _ _⟩

theorem newline_notMem_offsetText (minutes : Int) : '\n' ∉ offsetText minutes := by
  have numbers := newline_notMem_padded
  have sign : '\n' ≠ (if minutes < 0 then '-' else '+') := by
    split <;> decide
  unfold offsetText
  simp only [List.cons_append, List.mem_append, List.mem_cons, not_or]
  exact ⟨sign, numbers _ _, by decide, numbers _ _⟩

theorem newline_notMem_momentText (moment : Moment) : '\n' ∉ moment.text := by
  have numbers := newline_notMem_padded
  have fraction : '\n' ∉ (if moment.microsecond = 0 then [] else '.' :: padded 6 moment.microsecond) := by
    split
    · exact List.not_mem_nil
    · exact newline_notMem_cons (by decide) (numbers _ _)
  have zone : '\n' ∉ (moment.offset.map offsetText).getD [] := by
    cases moment.offset with
    | none => exact List.not_mem_nil
    | some minutes => exact newline_notMem_offsetText minutes
  unfold Moment.text
  simp only [List.append_assoc, List.cons_append, List.mem_append, List.mem_cons, not_or]
  exact ⟨newline_notMem_dateText _, by decide, numbers _ _, by decide, numbers _ _, by decide, numbers _ _,
    fraction, zone⟩

theorem newline_notMem_joined {parts : List String} (each : ∀ part ∈ parts, '\n' ∉ part.toList) :
    '\n' ∉ (", ".intercalate parts).toList := by
  rw [String.toList_intercalate]
  apply newline_notMem_intercalate (by decide)
  intro part member
  obtain ⟨text, found, rfl⟩ := List.mem_map.1 member
  exact each text found

theorem newline_notMem_argumentsText (numbers : List Nat) : '\n' ∉ (argumentsText numbers).toList := by
  apply newline_notMem_joined
  intro part member
  obtain ⟨n, _, rfl⟩ := List.mem_map.1 member
  rw [String.toList_ofList]
  exact newline_notMem_naturalText n

theorem newline_notMem_spanText (minutes : Int) : '\n' ∉ (spanText minutes).toList := by
  have part : ∀ (name : String) (n : Int), '\n' ∉ name.toList →
      ∀ text ∈ (if n = 0 then [] else [name ++ "=" ++ String.ofList (integerText n)]), '\n' ∉ text.toList := by
    intro name n single text member
    split at member
    · cases member
    · rw [List.mem_singleton.1 member]
      simp only [String.toList_append, String.toList_ofList, List.mem_append, not_or]
      exact ⟨⟨single, by decide⟩, newline_notMem_integerText n⟩
  have whole : ∀ parts : List String, (∀ text ∈ parts, '\n' ∉ text.toList) →
      '\n' ∉ (if parts.isEmpty then "0" else ", ".intercalate parts).toList := by
    intro parts each
    split
    · decide
    · exact newline_notMem_joined each
  unfold spanText
  simp only [String.toList_append, List.mem_append, not_or]
  refine ⟨⟨by decide, whole _ fun text member => ?_⟩, by decide⟩
  rcases List.mem_append.1 member with days | seconds
  · exact part "days" _ (by decide) text days
  · exact part "seconds" _ (by decide) text seconds

theorem newline_notMem_dateShown (date : Date) : '\n' ∉ date.shown.toList := by
  unfold Date.shown
  simp only [String.toList_append, List.mem_append, not_or]
  exact ⟨⟨by decide, newline_notMem_argumentsText _⟩, by decide⟩

theorem newline_notMem_momentShown (moment : Moment) : '\n' ∉ moment.shown.toList := by
  unfold Moment.shown
  simp only [String.toList_append, List.mem_append, not_or]
  refine ⟨⟨⟨by decide, newline_notMem_argumentsText _⟩, ?_⟩, by decide⟩
  split
  · decide
  · decide
  · simp only [String.toList_append, List.mem_append, not_or]
    exact ⟨⟨by decide, newline_notMem_spanText _⟩, by decide⟩

end Calendar

/-! ### Values -/

namespace Value

mutual

/-- `value.isUnbroken` says that no text in `value` holds a line feed; of a dataclass that is how it is shown. -/
def isUnbroken : Value → Bool
  | .text s => !s.toList.contains '\n'
  | .list items | .tuple items | .set _ items => areUnbroken items
  | .map entries => areUnbrokenEntries entries
  | .record fields => areUnbrokenFields fields
  | .dataclass _ shownAs fields => !(shownAs (shownMembers fields)).contains '\n'
  | .later part => (part ()).isUnbroken
  | _ => true

def areUnbroken : List Value → Bool
  | [] => true
  | item :: rest => item.isUnbroken && areUnbroken rest

def areUnbrokenEntries : List (Value × Value) → Bool
  | [] => true
  | (key, value) :: rest => key.isUnbroken && value.isUnbroken && areUnbrokenEntries rest

def areUnbrokenFields : List (String × Value) → Bool
  | [] => true
  | (name, value) :: rest => !name.toList.contains '\n' && value.isUnbroken && areUnbrokenFields rest

end

theorem isUnbroken_text {s : String} : (text s).isUnbroken = true ↔ '\n' ∉ s.toList := by
  rw [isUnbroken]
  simp

theorem isUnbroken_now (value : Value) : value.now.isUnbroken = value.isUnbroken := by
  match value with
  | .later part =>
    rw [isUnbroken]
    exact isUnbroken_now (part ())
  | .null | .bool _ | .int _ | .float _ | .notANumber _ | .text _ | .bytes _ | .date _ | .moment _
  | .list _ | .tuple _ | .set .. | .map _ | .record _ | .dataclass .. | .again _ => rfl

theorem areUnbroken_eq_true {items : List Value} :
    areUnbroken items = true ↔ ∀ item ∈ items, item.isUnbroken = true := by
  induction items with
  | nil => simp [areUnbroken]
  | cons item rest ih => rw [areUnbroken, Bool.and_eq_true, ih, List.forall_mem_cons]

theorem isUnbroken_key {entries : List (Value × Value)} (unbroken : areUnbrokenEntries entries = true) :
    ∀ entry ∈ entries, entry.1.isUnbroken = true := by
  induction entries with
  | nil =>
    intro entry member
    cases member
  | cons first rest ih =>
    obtain ⟨key, value⟩ := first
    rw [areUnbrokenEntries, Bool.and_eq_true, Bool.and_eq_true] at unbroken
    exact List.forall_mem_cons.2 ⟨unbroken.1.1, ih unbroken.2⟩

theorem newline_notMem_separated {parts : List (List Char)} (each : ∀ part ∈ parts, '\n' ∉ part) :
    '\n' ∉ separated parts :=
  newline_notMem_intercalate (by decide) each

theorem newline_notMem_tupleText {parts : List (List Char)} (each : ∀ part ∈ parts, '\n' ∉ part) :
    '\n' ∉ tupleText parts := by
  unfold tupleText
  split
  · rename_i part
    exact newline_notMem_append (newline_notMem_cons (by decide) (each part List.mem_cons_self)) (by decide)
  · exact newline_notMem_append (newline_notMem_cons (by decide) (newline_notMem_separated each)) (by decide)

theorem newline_notMem_braced {parts : List (List Char)} (each : ∀ part ∈ parts, '\n' ∉ part) :
    '\n' ∉ braced parts :=
  newline_notMem_append (newline_notMem_cons (by decide) (newline_notMem_separated each)) (by decide)

theorem newline_notMem_setText (frozen : Bool) {parts : List (List Char)} (each : ∀ part ∈ parts, '\n' ∉ part) :
    '\n' ∉ setText frozen parts := by
  unfold setText
  split
  · decide
  · exact newline_notMem_braced each
  · decide
  · exact newline_notMem_append (newline_notMem_append (by decide) (newline_notMem_braced each)) (by decide)

mutual

theorem newline_notMem_shown (value : Value) (unbroken : value.isUnbroken = true) : '\n' ∉ value.shown := by
  match value with
  | .null => decide
  | .bool flag => cases flag <;> decide
  | .int n => exact Calendar.newline_notMem_integerText n
  | .float x => exact newline_notMem_of_allAsciiPrintable (Decimal.allAsciiPrintable_floatTextWith rfl rfl x)
  | .notANumber _ =>
    have name : '\n' ∉ "nan".toList := by decide
    exact name
  | .text s => exact newline_notMem_quotedChars _
  | .bytes data => exact newline_notMem_quotedBytes data
  | .date d => exact Calendar.newline_notMem_dateShown d
  | .moment m => exact Calendar.newline_notMem_momentShown m
  | .list items =>
    have parts := newline_notMem_separated (newline_notMem_shownItems unbroken)
    exact newline_notMem_append (newline_notMem_cons (by decide) parts) (by decide)
  | .tuple items => exact newline_notMem_tupleText (newline_notMem_shownItems unbroken)
  | .set frozen items => exact newline_notMem_setText frozen (newline_notMem_shownItems unbroken)
  | .map entries => exact newline_notMem_braced (newline_notMem_shownEntries unbroken)
  | .record fields =>
    have parts := newline_notMem_separated (newline_notMem_shownFields unbroken)
    exact newline_notMem_append (newline_notMem_append (by decide) parts) (by decide)
  | .dataclass _ shownAs fields =>
    have single : (!(shownAs (shownMembers fields)).contains '\n') = true := unbroken
    change '\n' ∉ shownAs (shownMembers fields)
    simpa using single
  | .again _ =>
    have dots : '\n' ∉ "[...]".toList := by decide
    exact dots
  | .later part => exact newline_notMem_shown (part ()) unbroken

theorem newline_notMem_shownItems {items : List Value} (unbroken : areUnbroken items = true) :
    ∀ part ∈ shownItems items, '\n' ∉ part := by
  match items with
  | [] =>
    intro part member
    cases member
  | item :: rest =>
    rw [areUnbroken, Bool.and_eq_true] at unbroken
    rw [shownItems]
    exact List.forall_mem_cons.2 ⟨newline_notMem_shown item unbroken.1, newline_notMem_shownItems unbroken.2⟩

theorem newline_notMem_shownEntries {entries : List (Value × Value)}
    (unbroken : areUnbrokenEntries entries = true) : ∀ part ∈ shownEntries entries, '\n' ∉ part := by
  match entries with
  | [] =>
    intro part member
    cases member
  | (key, value) :: rest =>
    rw [areUnbrokenEntries, Bool.and_eq_true, Bool.and_eq_true] at unbroken
    obtain ⟨⟨keyUnbroken, valueUnbroken⟩, later⟩ := unbroken
    rw [shownEntries]
    refine List.forall_mem_cons.2 ⟨?_, newline_notMem_shownEntries later⟩
    exact newline_notMem_append (newline_notMem_shown key keyUnbroken) (newline_notMem_cons (by decide)
      (newline_notMem_cons (by decide) (newline_notMem_shown value valueUnbroken)))

theorem newline_notMem_shownFields {fields : List (String × Value)}
    (unbroken : areUnbrokenFields fields = true) : ∀ part ∈ shownFields fields, '\n' ∉ part := by
  match fields with
  | [] =>
    intro part member
    cases member
  | (name, value) :: rest =>
    rw [areUnbrokenFields, Bool.and_eq_true, Bool.and_eq_true] at unbroken
    obtain ⟨⟨nameUnbroken, valueUnbroken⟩, later⟩ := unbroken
    rw [shownFields]
    refine List.forall_mem_cons.2 ⟨?_, newline_notMem_shownFields later⟩
    exact newline_notMem_append (by simpa using nameUnbroken)
      (newline_notMem_cons (by decide) (newline_notMem_shown value valueUnbroken))

end

theorem newline_notMem_display (value : Value) (unbroken : value.isUnbroken = true) :
    '\n' ∉ value.display.toList := by
  match value with
  | .text s => exact isUnbroken_text.1 unbroken
  | .date d =>
    rw [display, String.toList_ofList]
    exact Calendar.newline_notMem_dateText d
  | .moment m =>
    rw [display, String.toList_ofList]
    exact Calendar.newline_notMem_momentText m
  | .later part => exact newline_notMem_display (part ()) unbroken
  | .null | .bool _ | .int _ | .float _ | .notANumber _ | .bytes _ | .list _ | .tuple _ | .set ..
  | .map _ | .record _ | .dataclass .. | .again _ =>
    rw [display, String.toList_ofList]
    · exact newline_notMem_shown _ unbroken
    all_goals exact fun _ impossible => Value.noConfusion impossible

theorem newline_notMem_writtenText {value : Value} (unbroken : value.isUnbroken = true) {written : String}
    (found : value.writtenText = .ok written) : '\n' ∉ written.toList := by
  unfold writtenText Value.written at found
  split at found
  · obtain rfl := Except.ok.inj found
    exact newline_notMem_display value unbroken
  · cases found

/-- The items of a value without line feeds have none. -/
theorem isUnbroken_iterated {value : Value} (unbroken : value.isUnbroken = true) {items : List Value}
    (found : value.iterated = .ok items) : ∀ item ∈ items, item.isUnbroken = true := by
  rw [← isUnbroken_now] at unbroken
  unfold iterated at found
  split at found
  · rename_i s isText
    obtain rfl := Except.ok.inj found
    rw [isText, isUnbroken_text] at unbroken
    intro item member
    obtain ⟨c, present, rfl⟩ := List.mem_map.1 member
    rw [isUnbroken_text, String.toList_ofList, List.mem_singleton]
    rintro rfl
    exact unbroken present
  · obtain rfl := Except.ok.inj found
    intro item member
    obtain ⟨byte, _, rfl⟩ := List.mem_map.1 member
    rfl
  all_goals try
    rename_i isCollection
    obtain rfl := Except.ok.inj found
    rw [isCollection] at unbroken
  · exact areUnbroken_eq_true.1 unbroken
  · exact areUnbroken_eq_true.1 unbroken
  · exact areUnbroken_eq_true.1 unbroken
  · intro item member
    obtain ⟨entry, present, rfl⟩ := List.mem_map.1 member
    exact isUnbroken_key unbroken entry present
  · cases found

end Value

theorem mem_of_mem_unquote {text : String} {c : Char} (member : c ∈ (unquote text).toList) :
    c ∈ text.toList := by
  unfold unquote at member
  split at member
  · rw [String.toList_ofList, stripQuotes, List.mem_reverse] at member
    have inner := (List.dropWhile_sublist _).subset member
    exact (List.dropWhile_sublist _).subset (List.mem_reverse.1 inner)
  · exact member

theorem newline_notMem_unquoteValue {value : Value} (unbroken : value.isUnbroken = true) {name : String}
    (found : unquoteValue value = .ok name) : '\n' ∉ name.toList := by
  have short : ∀ {length : Nat} {fault : Fault},
      (if length < 2 then value.writtenText else .error fault) = .ok name → '\n' ∉ name.toList := by
    intro length fault written
    split at written
    · exact Value.newline_notMem_writtenText unbroken written
    · cases written
  unfold unquoteValue at found
  simp only at found
  split at found
  · rename_i s isText
    obtain rfl := Except.ok.inj found
    rw [← Value.isUnbroken_now, isText, Value.isUnbroken_text] at unbroken
    exact fun newline => unbroken (mem_of_mem_unquote newline)
  all_goals first
    | exact short found
    | cases found

end AssemblyInfo

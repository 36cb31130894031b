import AssemblyInfo.Proofs.Json.Extent
import AssemblyInfo.Proofs.Json.Reordered
import AssemblyInfo.Proofs.Text.Sorted
import AssemblyInfo.Proofs.Value.Shown

/-!
# Orders of enumeration

The items of a set are sorted by their texts before they are written. So the JSON text of a value says nothing of
the order in which its sets are enumerated, unless in one of them two items that are written differently can
change places: their texts are the same, or depend on the order in which the items themselves are enumerated.
Scalars have the same text and are written differently only if one of them is written as a string, as a text,
bytes, a date or a time is, and the other is not.
-/

namespace AssemblyInfo

/-! ### What JSON texts start with -/

namespace Json

theorem exists_floatText (x : Float) : ∃ c rest, floatText x = c :: rest ∧ c ≠ '"' := by
  unfold floatText
  rcases Decimal.floatTextWith_cases x with ⟨chars, some, all, same⟩ | same | same | ⟨-, same⟩ <;> rw [same]
  · obtain ⟨c, rest, rfl⟩ := List.exists_cons_of_ne_nil some
    refine ⟨c, rest, rfl, ?_⟩
    rintro rfl
    cases all
  · exact ⟨'I', _, rfl, by decide⟩
  · exact ⟨'-', _, rfl, by decide⟩
  · exact ⟨'N', _, rfl, by decide⟩

/-- Only a string starts with a quote. -/
theorem exists_compact {json : Json} (other : ∀ s, json ≠ .text s) :
    ∃ c rest, json.compact = c :: rest ∧ c ≠ '"' := by
  cases json with
  | null => exact ⟨'n', _, rfl, by decide⟩
  | bool flag =>
    cases flag with
    | true => exact ⟨'t', _, rfl, by decide⟩
    | false => exact ⟨'f', _, rfl, by decide⟩
  | int n =>
    obtain ⟨c, rest, written, start⟩ := Decimal.exists_integerText n
    exact ⟨c, rest, written, ne_of_integerText start (by decide) rfl⟩
  | float x => exact exists_floatText x
  | text s => exact absurd rfl (other s)
  | array items => cases items <;> exact ⟨'[', _, rfl, by decide⟩
  | object members => cases members <;> exact ⟨'\x7b', _, rfl, by decide⟩

end Json

namespace Value

/-! ### Ties -/

/-- `value.isWrittenAsText` says that the JSON text of `value` is a string. -/
def isWrittenAsText : Value → Bool
  | .text _ | .bytes _ | .date _ | .moment _ => true
  | .later part => (part ()).isWrittenAsText
  | _ => false

/-- `Clash items` says that two of `items` have one text, and one of them is written as a string and the other
is not. -/
def Clash (items : List Value) : Prop :=
  ∃ first ∈ items, ∃ second ∈ items,
    first.display = second.display ∧ first.isWrittenAsText = true ∧ second.isWrittenAsText = false

instance (items : List Value) : Decidable (Clash items) :=
  inferInstanceAs (Decidable (∃ first ∈ items, ∃ second ∈ items,
    first.display = second.display ∧ first.isWrittenAsText = true ∧ second.isWrittenAsText = false))

theorem fragment_of_isWrittenAsText : ∀ value : Value, value.isWrittenAsText = true →
    value.fragment = .ok (Json.stringText value.display)
  | .later part, string => fragment_of_isWrittenAsText (part ()) string
  | .text _, _ | .bytes _, _ | .date _, _ | .moment _, _ => rfl
  | .null, string | .bool _, string | .int _, string | .float _, string | .notANumber _, string | .list _, string
  | .tuple _, string | .set .., string | .map _, string | .record _, string | .dataclass .., string | .again _, string => by cases string

theorem display_of_not_isWrittenAsText : ∀ value : Value, value.isWrittenAsText = false →
    value.display = String.ofList value.shown
  | .later part, other => display_of_not_isWrittenAsText (part ()) other
  | .text _, other | .bytes _, other | .date _, other | .moment _, other => by cases other
  | .null, _ | .bool _, _ | .int _, _ | .float _, _ | .notANumber _, _ | .list _, _
  | .tuple _, _ | .set .., _ | .map _, _ | .record _, _ | .dataclass .., _ | .again _, _ => rfl

theorem map_ne_text {α : Type} {outcome : Except Fault α} {f : α → Json} {s : String}
    (other : ∀ content, f content ≠ .text s) : outcome.map f ≠ .ok (.text s) := by
  intro formed
  obtain ⟨content, -, same⟩ := map_eq_ok.1 formed
  exact other content same

theorem toJson_ne_text {s : String} (value : Value) (other : value.isWrittenAsText = false) :
    value.toJson ≠ .ok (.text s) := by
  cases value with
  | later part =>
    rw [toJson]
    exact toJson_ne_text (part ()) other
  | text | bytes | date | moment => cases other
  | null | bool | float | notANumber | again =>
    intro same
    cases same
  | int n =>
    rw [toJson]
    intro same
    split at same <;> cases same
  | set frozen items =>
    rw [toJson]
    split
    · exact map_ne_text fun _ same => by cases same
    · intro same
      cases same
  | list | tuple | map | record => exact map_ne_text fun _ same => by cases same
  | dataclass kind shownAs fields =>
    rw [toJson]
    intro same
    obtain ⟨copies, -, same⟩ := bind_eq_ok.1 same
    obtain ⟨members, -, same⟩ := bind_eq_ok.1 same
    cases same

/-- Scalars with one text that are written alike have one JSON text. -/
theorem IsScalar.fragment_eq_of_display {first second : Value} (scalar : first.IsScalar)
    (scalarThen : second.IsScalar) (writable : first.isWritable = true) (writableThen : second.isWritable = true)
    (same : first.display = second.display) (alike : first.isWrittenAsText = second.isWrittenAsText) :
    first.fragment = second.fragment := by
  cases string : first.isWrittenAsText with
  | true =>
    rw [fragment_of_isWrittenAsText first string, fragment_of_isWrittenAsText second (alike ▸ string), same]
  | false =>
    rw [display_of_not_isWrittenAsText first string, display_of_not_isWrittenAsText second (alike ▸ string)] at same
    exact scalar.fragment_eq scalarThen writable writableThen (String.ofList_injective same)

/-! ### Sets -/

/-- `value.jsonText` is the characters of the JSON text of `value`, if it has one. -/
def jsonText (value : Value) : List Char :=
  value.fragment.toOption.getD []

theorem fragment_eq_jsonText {value : Value} (written : value.fragment.isOk = true) :
    value.fragment = .ok value.jsonText := by
  obtain ⟨chars, same⟩ := isOk_iff.1 written
  rw [jsonText, same]
  rfl

theorem isText_jsonText {value : Value} (written : value.fragment.isOk = true) : Json.IsText value.jsonText := by
  obtain ⟨json, -, same⟩ := map_eq_ok.1 (fragment_eq_jsonText written)
  exact ⟨json, same⟩

/-- `writtenItems items` is the JSON texts of `items` in the order in which they are written. -/
def writtenItems (items : List Value) : List (List Char) :=
  sortedByText (items.map fun item => (item.display, item.jsonText))

theorem writtenItems_perm (items : List Value) : (writtenItems items).Perm (items.map jsonText) := by
  have perm := sortedByText_perm (items.map fun item => (item.display, item.jsonText))
  rwa [List.map_map] at perm

theorem fragment_set_of_all {items : List Value} (frozen : Bool) (writable : areWritable items = true)
    (each : ∀ item ∈ items, item.fragment.isOk = true) :
    (set frozen items).fragment = .ok (Json.arrayText (writtenItems items)) := by
  have entries : items.map (fun item => (item.display, item.fragment)) =
      (items.map fun item => (item.display, item.jsonText)).map fun entry => (entry.1, Except.ok entry.2) := by
    rw [List.map_map]
    exact List.map_congr_left fun item member => congrArg (item.display, ·) (fragment_eq_jsonText (each item member))
  rw [fragment_set, if_pos writable, entries, sortedByText_map, inOrder_map_ok]
  rfl

theorem of_isOk_fragment_set {frozen : Bool} {items : List Value} (written : (set frozen items).fragment.isOk = true) :
    areWritable items = true ∧ ∀ item ∈ items, item.fragment.isOk = true := by
  rwa [isOk_fragment_set, Bool.and_eq_true, List.all_eq_true] at written

/-- Sets with one text have items with the same texts, in the order in which they are written. -/
theorem writtenItems_eq {frozen frozenThen : Bool} {items others : List Value}
    (written : (set frozen items).fragment.isOk = true)
    (same : (set frozenThen others).fragment = (set frozen items).fragment) :
    writtenItems others = writtenItems items := by
  have writtenThen : (set frozenThen others).fragment.isOk = true := by rw [same, written]
  obtain ⟨writable, each⟩ := of_isOk_fragment_set written
  obtain ⟨writableThen, eachThen⟩ := of_isOk_fragment_set writtenThen
  have texts {items : List Value} (each : ∀ item ∈ items, item.fragment.isOk = true) :
      ∀ chars ∈ writtenItems items, Json.IsText chars := by
    intro chars member
    obtain ⟨item, within, rfl⟩ := List.mem_map.1 ((writtenItems_perm items).mem_iff.1 member)
    exact isText_jsonText (each item within)
  rw [fragment_set_of_all _ writable each, fragment_set_of_all _ writableThen eachThen] at same
  exact Json.arrayText_inj (texts eachThen) (texts each) (Except.ok.inj same)

/-! ### Clashes -/

/-- `value.HasClash` says that in a set in `value`, at whatever depth, two items that are written differently can
change places: one can be enumerated so that it comes first, and so that it does not. -/
inductive HasClash : Value → Prop
  | set {frozen : Bool} {items : List Value} {first second a b c d : Value} (member : first ∈ items)
      (memberThen : second ∈ items) (toA : Reordered first a) (toB : Reordered first b) (toC : Reordered second c)
      (toD : Reordered second d) (before : a.display ≤ c.display) (after : d.display ≤ b.display)
      (differ : first.fragment ≠ second.fragment) : HasClash (.set frozen items)
  | item {frozen : Bool} {items : List Value} {item : Value} (member : item ∈ items) (inner : HasClash item) :
      HasClash (.set frozen items)
  | list {items : List Value} {item : Value} (member : item ∈ items) (inner : HasClash item) : HasClash (.list items)
  | tuple {items : List Value} {item : Value} (member : item ∈ items) (inner : HasClash item) :
      HasClash (.tuple items)
  | map {entries : List (Value × Value)} {entry : Value × Value} (member : entry ∈ entries)
      (inner : HasClash entry.2) : HasClash (.map entries)
  | record {fields : List (String × Value)} {field : String × Value} (member : field ∈ fields)
      (inner : HasClash field.2) : HasClash (.record fields)
  | dataclass {kind name : String} {shownAs : List (List Char) → List Char}
      {fields : List (String × Except Fault Value)} {value : Value} (member : (name, .ok value) ∈ fields)
      (inner : HasClash value) : HasClash (.dataclass kind shownAs fields)
  | later {part : Unit → Value} (inner : HasClash (part ())) : HasClash (.later part)

theorem fragment_pairs {pairs : List (Value × Value)} (each : ∀ pair ∈ pairs, pair.2.fragment = pair.1.fragment) :
    (list (pairs.map Prod.snd)).fragment = (list (pairs.map Prod.fst)).fragment := by
  rw [fragment_list, fragment_list, List.map_map, List.map_map]
  exact congrArg (fun outcomes => (inOrder outcomes).map Json.arrayText) (List.map_congr_left each)

theorem fragment_map_pairs {entries : List (Value × Value × Value)}
    (each : ∀ entry ∈ entries, entry.2.2.fragment = entry.2.1.fragment) :
    (map (entries.map fun entry => (entry.1, entry.2.2))).fragment =
      (map (entries.map fun entry => (entry.1, entry.2.1))).fragment := by
  rw [fragment_map, fragment_map, List.map_map, List.map_map]
  refine congrArg (fun outcomes => (inOrder outcomes).map Json.objectText) (List.map_congr_left ?_)
  intro entry member
  rw [Function.comp_apply, Function.comp_apply, each entry member]

theorem fragment_record_pairs {fields : List (String × Value × Value)}
    (each : ∀ field ∈ fields, field.2.2.fragment = field.2.1.fragment) :
    (record (fields.map fun field => (field.1, field.2.2))).fragment =
      (record (fields.map fun field => (field.1, field.2.1))).fragment := by
  rw [fragment_record, fragment_record, List.map_map, List.map_map]
  refine congrArg (fun outcomes => (inOrder outcomes).map Json.objectText) (List.map_congr_left ?_)
  intro field member
  rw [Function.comp_apply, Function.comp_apply, each field member]

theorem isOk_of_parts {value part : Value} (written : value.fragment.isOk = true) (within : part ∈ value.parts) :
    part.fragment.isOk = true := by
  rw [fragment, isOk_map, isOk_iff] at written ⊢
  obtain ⟨json, formed⟩ := written
  exact exists_ok_of_parts formed part within

theorem isOk_fieldsAsDict_of_fragment {kind : String} {shownAs : List (List Char) → List Char}
    {fields : List (String × Except Fault Value)} (written : (dataclass kind shownAs fields).fragment.isOk = true) :
    (fieldsAsDict fields).isOk = true := by
  rw [isOk_fragment_dataclass, Bool.and_eq_true] at written
  exact written.1

theorem fragment_dataclass_of_copied {kind : String} {shownAs : List (List Char) → List Char}
    {fields : List (String × Except Fault Value)} (copied : (fieldsAsDict fields).isOk = true) :
    (dataclass kind shownAs fields).fragment =
      (inOrder (fields.map fun field => field.2.bind fun value => value.fragment.map (field.1, ·))).map
        Json.objectText := by
  obtain ⟨copies, same⟩ := isOk_iff.1 copied
  rw [fragment_dataclass, same]
  rfl

theorem fragment_dataclass_pairs {kind : String} {shownAs : List (List Char) → List Char}
    {fields : List (String × Except Fault (Value × Value))}
    (copied : (fieldsAsDict (fields.map fun field => (field.1, field.2.map Prod.fst))).isOk = true)
    (copiedThen : (fieldsAsDict (fields.map fun field => (field.1, field.2.map Prod.snd))).isOk = true)
    (each : ∀ field ∈ fields, ∀ pair, field.2 = .ok pair → pair.2.fragment = pair.1.fragment) :
    (dataclass kind shownAs (fields.map fun field => (field.1, field.2.map Prod.snd))).fragment =
      (dataclass kind shownAs (fields.map fun field => (field.1, field.2.map Prod.fst))).fragment := by
  rw [fragment_dataclass_of_copied copied, fragment_dataclass_of_copied copiedThen, List.map_map, List.map_map]
  refine congrArg (fun outcomes => (inOrder outcomes).map Json.objectText) (List.map_congr_left ?_)
  intro field member
  rw [Function.comp_apply, Function.comp_apply]
  cases held : field.2 with
  | error fault => rfl
  | ok pair => simp only [Except.map, Except.bind, each field member pair held]

/-- Items that cannot change places are written in one order, however they are enumerated. -/
theorem writtenItems_of_apart {pairs others : List (Value × Value)} (perm : pairs.Perm others)
    (kept : ∀ pair ∈ pairs, pair.2.jsonText = pair.1.jsonText)
    (apart : ∀ a ∈ pairs, ∀ b ∈ pairs, a.1.display ≤ b.1.display → b.2.display ≤ a.2.display →
      a.1.jsonText = b.1.jsonText) :
    writtenItems (others.map Prod.snd) = writtenItems (pairs.map Prod.fst) := by
  unfold writtenItems
  rw [List.map_map, List.map_map]
  have before := sortedByText_entries (fun pair : Value × Value => pair.1.display) (fun pair => pair.1.jsonText) pairs
  have after := sortedByText_entries (fun pair : Value × Value => pair.2.display) (fun pair => pair.2.jsonText) others
  refine after.trans (Eq.trans ?_ before.symm)
  have sorted := Text.pairwise_sorted (fun pair : Value × Value => pair.1.display) pairs
  have sortedThen := Text.pairwise_sorted (fun pair : Value × Value => pair.2.display) others
  have same : (others.mergeSort fun a b => decide (a.2.display ≤ b.2.display)).map (fun pair => pair.2.jsonText) =
      (others.mergeSort fun a b => decide (a.2.display ≤ b.2.display)).map fun pair => pair.1.jsonText :=
    List.map_congr_left fun pair member => kept pair (perm.mem_iff.2 (List.mem_mergeSort.1 member))
  rw [same]
  refine (Text.map_eq_of_apart (sorted.imp of_decide_eq_true) (sortedThen.imp of_decide_eq_true)
    (((List.mergeSort_perm pairs _).trans perm).trans (List.mergeSort_perm others _).symm) ?_).symm
  intro a member b memberThen
  exact apart a (List.mem_mergeSort.1 member) b (List.mem_mergeSort.1 memberThen)

/-- Where no items clash, every order of enumeration gives one text. -/
theorem Reordered.fragment_eq {value other : Value} (reordered : Reordered value other) :
    ¬ value.HasClash → value.fragment.isOk = true → other.fragment = value.fragment := by
  induction reordered with
  | same value => exact fun _ _ => rfl
  | @set frozen pairs others each perm ih =>
    intro free written
    have whole : Reordered (.set frozen (pairs.map Prod.fst)) (.set frozen (others.map Prod.snd)) := .set each perm
    have writtenThen := whole.isOk_fragment.trans written
    obtain ⟨writable, all⟩ := of_isOk_fragment_set written
    obtain ⟨writableThen, allThen⟩ := of_isOk_fragment_set writtenThen
    have kept : ∀ pair ∈ pairs, pair.2.fragment = pair.1.fragment := fun pair member =>
      ih pair member (fun inner => free (.item (List.mem_map_of_mem member) inner)) (all _ (List.mem_map_of_mem member))
    have texts := writtenItems_of_apart perm (fun pair member => by rw [jsonText, jsonText, kept pair member]) ?_
    · rw [fragment_set_of_all _ writable all, fragment_set_of_all _ writableThen allThen, texts]
    · intro a member b memberThen before after
      by_contra differ
      refine free (.set (List.mem_map_of_mem member) (List.mem_map_of_mem memberThen) (.same a.1) (each a member)
        (.same b.1) (each b memberThen) before after fun same => differ ?_)
      rw [jsonText, jsonText, same]
  | list each ih =>
    exact fun free written => fragment_pairs fun pair member =>
      ih pair member (fun inner => free (.list (List.mem_map_of_mem member) inner))
        (isOk_of_parts written (List.mem_map_of_mem member))
  | tuple each ih =>
    exact fun free written => fragment_pairs fun pair member =>
      ih pair member (fun inner => free (.tuple (List.mem_map_of_mem member) inner))
        (isOk_of_parts written (List.mem_map_of_mem member))
  | map each ih =>
    refine fun free written => fragment_map_pairs fun entry member => ?_
    have here := List.mem_map_of_mem (f := fun entry : Value × Value × Value => (entry.1, entry.2.1)) member
    exact ih entry member (fun inner => free (.map here inner)) (isOk_of_parts written (value_mem_parts here))
  | record each ih =>
    refine fun free written => fragment_record_pairs fun field member => ?_
    have here := List.mem_map_of_mem (f := fun field : String × Value × Value => (field.1, field.2.1)) member
    exact ih field member (fun inner => free (.record here inner)) (isOk_of_parts written (field_mem_parts here))
  | @dataclass kind shownAs fields each ih =>
    intro free written
    have whole : Reordered (.dataclass kind shownAs (fields.map fun field => (field.1, field.2.map Prod.fst)))
        (.dataclass kind shownAs (fields.map fun field => (field.1, field.2.map Prod.snd))) := .dataclass each
    refine fragment_dataclass_pairs (isOk_fieldsAsDict_of_fragment written)
      (isOk_fieldsAsDict_of_fragment (whole.isOk_fragment.trans written)) fun field member pair held => ?_
    have here : (field.1, .ok pair.1) ∈ fields.map fun field => (field.1, field.2.map Prod.fst) :=
      List.mem_map.2 ⟨field, member, by rw [held]; rfl⟩
    exact ih field member pair held (fun inner => free (.dataclass here inner))
      (isOk_of_parts written (member_mem_parts here))
  | later inner ih => exact fun free written => ih (fun clash => free (.later clash)) written

/-! ### Clashes that show -/

theorem ne_of_fragment_ne {first second : Value} (written : first.fragment.isOk = true)
    (writtenThen : second.fragment.isOk = true) (differ : first.fragment ≠ second.fragment) :
    first.jsonText ≠ second.jsonText := by
  intro same
  rw [fragment_eq_jsonText written, fragment_eq_jsonText writtenThen, same] at differ
  exact differ rfl

/-- An item that is written differently shows in the set, in whatever order the items are written. -/
theorem fragment_set_at {frozen : Bool} {before after : List Value} {item other : Value}
    (written : (set frozen (before ++ item :: after)).fragment.isOk = true) (writtenThen : other.fragment.isOk = true)
    (differ : other.fragment ≠ item.fragment) :
    (set frozen (before ++ other :: after)).fragment ≠ (set frozen (before ++ item :: after)).fragment := by
  intro same
  have inside : item.fragment.isOk = true :=
    (of_isOk_fragment_set written).2 item (List.mem_append_right _ List.mem_cons_self)
  have texts := (writtenItems_perm (before ++ other :: after)).symm
  rw [writtenItems_eq written same] at texts
  have whole := texts.trans (writtenItems_perm (before ++ item :: after))
  rw [List.map_append, List.map_append, List.map_cons, List.map_cons] at whole
  -- Both hold the same texts besides that of the one item.
  have first : (other.jsonText :: (before.map jsonText ++ after.map jsonText)).Perm
      (item.jsonText :: (before.map jsonText ++ after.map jsonText)) :=
    List.perm_middle.symm.trans (whole.trans List.perm_middle)
  have alone := (List.perm_append_right_iff (before.map jsonText ++ after.map jsonText)).1
    (show ([other.jsonText] ++ _).Perm ([item.jsonText] ++ _) from first)
  exact ne_of_fragment_ne writtenThen inside differ (List.singleton_perm_singleton.1 alone)

/-- Where one item moves from one side of another to the other side, the set is written in two ways. -/
theorem fragment_set_moved {frozen : Bool} {low key high : Value} {rest : List Value}
    (written : (set frozen (low :: key :: rest)).fragment.isOk = true) (before : low.display ≤ key.display)
    (after : key.display ≤ high.display) (same : high.jsonText = low.jsonText) (differ : low.jsonText ≠ key.jsonText) :
    (set frozen (key :: high :: rest)).fragment ≠ (set frozen (low :: key :: rest)).fragment := by
  intro alike
  have texts := writtenItems_eq written alike
  unfold writtenItems sortedByText at texts
  simp only [List.map_cons, same] at texts
  exact differ (Text.eq_of_moved before after texts.symm)

theorem exists_perm_cons {item : Value} {items : List Value} (member : item ∈ items) :
    ∃ rest, items.Perm (item :: rest) :=
  (List.singleton_sublist.2 member).exists_perm_append

/-- An item that moves past another one makes for an order of enumeration with another text. -/
theorem exists_reordered_of_moved {frozen : Bool} {items : List Value} {first second low key high : Value}
    (written : (set frozen items).fragment.isOk = true) (member : first ∈ items) (memberThen : second ∈ items)
    (toLow : Reordered first low) (toHigh : Reordered first high) (toKey : Reordered second key)
    (before : low.display ≤ key.display) (after : key.display ≤ high.display)
    (same : high.fragment = low.fragment) (differ : low.fragment ≠ key.fragment)
    (apart : first ≠ second) :
    ∃ other, Reordered (set frozen items) other ∧ other.fragment ≠ (set frozen items).fragment := by
  obtain ⟨others, perm⟩ := exists_perm_cons member
  have within : second ∈ others := (List.mem_cons.1 (perm.mem_iff.1 memberThen)).resolve_left apart.symm
  obtain ⟨rest, permThen⟩ := exists_perm_cons within
  have order : items.Perm (first :: second :: rest) := perm.trans (permThen.cons first)
  have one : Reordered (.set frozen items) (.set frozen (low :: key :: rest)) := .front order toLow toKey
  have two : Reordered (.set frozen items) (.set frozen (key :: high :: rest)) :=
    .front (order.trans (.swap _ _ _)) toKey toHigh
  have writtenOne := one.isOk_fragment.trans written
  have each := (of_isOk_fragment_set writtenOne).2
  have texts : high.jsonText = low.jsonText := by rw [jsonText, jsonText, same]
  have moved := fragment_set_moved writtenOne before after texts
    (ne_of_fragment_ne (each low List.mem_cons_self) (each key (List.mem_cons_of_mem _ List.mem_cons_self)) differ)
  by_cases alike : (set frozen (low :: key :: rest)).fragment = (set frozen items).fragment
  · exact ⟨_, two, fun twice => moved (twice.trans alike.symm)⟩
  · exact ⟨_, one, alike⟩

/-- Two items that can change places make for an order of enumeration with another text. -/
theorem exists_reordered_of_clash {frozen : Bool} {items : List Value} {first second a b c d : Value}
    (written : (set frozen items).fragment.isOk = true) (member : first ∈ items) (memberThen : second ∈ items)
    (toA : Reordered first a) (toB : Reordered first b) (toC : Reordered second c) (toD : Reordered second d)
    (before : a.display ≤ c.display) (after : d.display ≤ b.display) (differ : first.fragment ≠ second.fragment) :
    ∃ other, Reordered (set frozen items) other ∧ other.fragment ≠ (set frozen items).fragment := by
  by_cases kept : ∀ item ∈ items, ∀ other, Reordered item other → other.fragment = item.fragment
  · have apart : first ≠ second := fun same => differ (by rw [same])
    have alike (value : Value) (toValue : Reordered first value) := kept first member value toValue
    have alikeThen (value : Value) (toValue : Reordered second value) := kept second memberThen value toValue
    -- Of the two that are to change places, one can move past the other by itself.
    rcases String.le_total a.display d.display with order | order
    · exact exists_reordered_of_moved written member memberThen toA toB toD order after
        ((alike b toB).trans (alike a toA).symm) (by rw [alike a toA, alikeThen d toD]; exact differ) apart
    · exact exists_reordered_of_moved written memberThen member toD toC toA order before
        ((alikeThen c toC).trans (alikeThen d toD).symm) (by rw [alike a toA, alikeThen d toD]; exact differ.symm)
        apart.symm
  · simp only [not_forall] at kept
    obtain ⟨item, within, other, reordered, shows⟩ := kept
    have itemWritten := (of_isOk_fragment_set written).2 item within
    obtain ⟨front, back, rfl⟩ := List.append_of_mem within
    exact ⟨_, reordered.set_at frozen front back,
      fragment_set_at written (reordered.isOk_fragment.trans itemWritten) shows⟩

theorem exists_keyText {entries : List (Value × Value)} {entry : Value × Value} {text : List Char}
    (formed : (map entries).fragment = .ok text) (member : entry ∈ entries) :
    ∃ name, Json.keyText entry.1 = .ok name := by
  obtain ⟨json, made, -⟩ := map_eq_ok.1 formed
  rw [toJson] at made
  obtain ⟨members, all, -⟩ := map_eq_ok.1 made
  exact (exists_ok_of_entriesToJson all entry member).1

/-- `value.Shows` says that some order of enumeration gives another text of `value`, if it has one. -/
def Shows (value : Value) : Prop :=
  ∀ text, value.fragment = .ok text →
    ∃ other content, Reordered value other ∧ other.fragment = .ok content ∧ content ≠ text

namespace Shows

variable {value part item : Value} {text : List Char}

theorem exists_other (shows : part.Shows) (formed : value.fragment = .ok text) (within : part ∈ value.parts) :
    ∃ original other content, part.fragment = .ok original ∧ Reordered part other ∧
      other.fragment = .ok content ∧ content ≠ original := by
  obtain ⟨original, written⟩ := isOk_iff.1 (isOk_of_parts (isOk_iff.2 ⟨text, formed⟩) within)
  obtain ⟨other, content, reordered, writtenThen, differ⟩ := shows original written
  exact ⟨original, other, content, written, reordered, writtenThen, differ⟩

theorem in_list {items : List Value} (shows : item.Shows) (member : item ∈ items) : (Value.list items).Shows := by
  intro text formed
  obtain ⟨original, other, content, written, reordered, writtenThen, differ⟩ := shows.exists_other formed member
  obtain ⟨before, after, rfl⟩ := List.append_of_mem member
  rw [fragment_list, List.map_append, List.map_cons, written] at formed
  obtain ⟨made, formedThen, apart⟩ := map_inOrder_at formed (Json.arrayText_ne differ.symm)
  refine ⟨_, made, reordered.list_at before after, ?_, apart⟩
  rw [fragment_list, List.map_append, List.map_cons, writtenThen, formedThen]

theorem in_tuple {items : List Value} (shows : item.Shows) (member : item ∈ items) : (Value.tuple items).Shows := by
  intro text formed
  obtain ⟨original, other, content, written, reordered, writtenThen, differ⟩ := shows.exists_other formed member
  obtain ⟨before, after, rfl⟩ := List.append_of_mem member
  rw [fragment_tuple, fragment_list, List.map_append, List.map_cons, written] at formed
  obtain ⟨made, formedThen, apart⟩ := map_inOrder_at formed (Json.arrayText_ne differ.symm)
  refine ⟨_, made, reordered.tuple_at before after, ?_, apart⟩
  rw [fragment_tuple, fragment_list, List.map_append, List.map_cons, writtenThen, formedThen]

theorem in_set {frozen : Bool} {items : List Value} (shows : item.Shows) (member : item ∈ items) :
    (Value.set frozen items).Shows := by
  intro text formed
  obtain ⟨original, other, content, written, reordered, writtenThen, differ⟩ := shows.exists_other formed member
  obtain ⟨before, after, rfl⟩ := List.append_of_mem member
  have whole := reordered.set_at frozen before after
  obtain ⟨made, formedThen⟩ := whole.exists_ok formed
  have apart := fragment_set_at (isOk_iff.2 ⟨text, formed⟩) (isOk_iff.2 ⟨content, writtenThen⟩)
    (by rw [written, writtenThen]; exact fun same => differ (Except.ok.inj same))
  exact ⟨_, made, whole, formedThen, fun same => apart (by rw [formed, formedThen, same])⟩

theorem in_map {entries : List (Value × Value)} {entry : Value × Value} (shows : entry.2.Shows)
    (member : entry ∈ entries) : (Value.map entries).Shows := by
  intro text formed
  obtain ⟨original, other, content, written, reordered, writtenThen, differ⟩ :=
    shows.exists_other formed (value_mem_parts member)
  obtain ⟨name, named⟩ := exists_keyText formed member
  obtain ⟨before, after, rfl⟩ := List.append_of_mem member
  rw [fragment_map, List.map_append, List.map_cons, named, written] at formed
  obtain ⟨made, formedThen, apart⟩ := map_inOrder_at formed (Json.objectText_ne differ.symm name)
  refine ⟨_, made, reordered.map_at entry.1 before after, ?_, apart⟩
  rw [fragment_map, List.map_append, List.map_cons, named, writtenThen]
  exact formedThen

theorem in_record {fields : List (String × Value)} {field : String × Value} (shows : field.2.Shows)
    (member : field ∈ fields) : (Value.record fields).Shows := by
  intro text formed
  obtain ⟨original, other, content, written, reordered, writtenThen, differ⟩ :=
    shows.exists_other formed (field_mem_parts member)
  obtain ⟨before, after, rfl⟩ := List.append_of_mem member
  rw [fragment_record, List.map_append, List.map_cons, written] at formed
  obtain ⟨made, formedThen, apart⟩ := map_inOrder_at formed (Json.objectText_ne differ.symm field.1)
  refine ⟨_, made, reordered.record_at field.1 before after, ?_, apart⟩
  rw [fragment_record, List.map_append, List.map_cons, writtenThen]
  exact formedThen

theorem in_dataclass {kind name : String} {shownAs : List (List Char) → List Char}
    {fields : List (String × Except Fault Value)} (shows : item.Shows) (member : (name, .ok item) ∈ fields) :
    (Value.dataclass kind shownAs fields).Shows := by
  intro text formed
  obtain ⟨original, other, content, written, reordered, writtenThen, differ⟩ :=
    shows.exists_other formed (member_mem_parts member)
  obtain ⟨before, after, rfl⟩ := List.append_of_mem member
  have whole := reordered.dataclass_at kind shownAs name before after
  have done := isOk_iff.2 ⟨text, formed⟩
  rw [fragment_dataclass_of_copied (isOk_fieldsAsDict_of_fragment done), List.map_append, List.map_cons] at formed
  simp only [Except.bind, written] at formed
  obtain ⟨made, formedThen, apart⟩ := map_inOrder_at formed (Json.objectText_ne differ.symm name)
  refine ⟨_, made, whole, ?_, apart⟩
  rw [fragment_dataclass_of_copied (isOk_fieldsAsDict_of_fragment (whole.isOk_fragment.trans done)), List.map_append,
    List.map_cons]
  simp only [Except.bind, writtenThen]
  exact formedThen

theorem in_later {part : Unit → Value} (shows : (part ()).Shows) : (Value.later part).Shows := by
  intro text formed
  obtain ⟨other, content, reordered, writtenThen, differ⟩ := shows text formed
  exact ⟨.later fun _ => other, content, .later reordered, writtenThen, differ⟩

end Shows

/-- Where two items clash, some order of enumeration gives another text. -/
theorem HasClash.shows {value : Value} (clash : HasClash value) : value.Shows := by
  induction clash with
  | set member memberThen toA toB toC toD before after differ =>
    intro text formed
    obtain ⟨other, reordered, apart⟩ :=
      exists_reordered_of_clash (isOk_iff.2 ⟨text, formed⟩) member memberThen toA toB toC toD before after differ
    obtain ⟨content, written⟩ := reordered.exists_ok formed
    exact ⟨other, content, reordered, written, fun same => apart (by rw [written, formed, same])⟩
  | item member inner ih => exact ih.in_set member
  | list member inner ih => exact ih.in_list member
  | tuple member inner ih => exact ih.in_tuple member
  | map member inner ih => exact ih.in_map member
  | record member inner ih => exact ih.in_record member
  | dataclass member inner ih => exact ih.in_dataclass member
  | later inner ih => exact ih.in_later

/-- Every order of enumeration gives the text of a value, or none if it has none, exactly if no two items of a set in
it clash, or it has none. -/
theorem serialise_reordered (value : Value) :
    (∀ other, value.Reordered other → other.serialise.toOption = value.serialise.toOption) ↔
      ((∃ text, value.serialise = .ok text) → ¬ value.HasClash) := by
  constructor
  · rintro all ⟨text, written⟩ clash
    rw [serialise_eq] at written
    obtain ⟨chars, formed, -⟩ := map_eq_ok.1 written
    obtain ⟨other, content, reordered, writtenThen, differ⟩ := clash.shows chars formed
    have same := all other reordered
    rw [serialise_eq, serialise_eq, writtenThen, formed] at same
    exact differ (String.ofList_injective (Option.some.inj same))
  · intro free other reordered
    rw [serialise_eq, serialise_eq]
    cases formed : value.fragment with
    | ok chars =>
      have same := reordered.fragment_eq (free ⟨_, by rw [serialise_eq, formed]; rfl⟩) (isOk_iff.2 ⟨chars, formed⟩)
      rw [same, formed]
    | error fault =>
      have none := reordered.isOk_fragment
      cases formedThen : other.fragment with
      | ok content =>
        rw [formed, formedThen] at none
        cases none
      | error fault => rfl

/-! ### Scalars -/

theorem shownItems_eq_map (items : List Value) : shownItems items = items.map shown := by
  induction items with
  | nil => rfl
  | cons item rest ih => rw [shownItems, ih, List.map_cons]

/-- There is nothing to enumerate in a scalar. -/
theorem Reordered.shown_eq {value other : Value} (reordered : Reordered value other) :
    value.IsScalar → other.shown = value.shown ∧ other.display = value.display := by
  induction reordered with
  | same value => exact fun _ => ⟨rfl, rfl⟩
  | set | list | map | record | dataclass => nofun
  | @tuple pairs each ih =>
    intro scalar
    cases scalar with
    | tuple scalars =>
      have alike : shownItems (pairs.map Prod.snd) = shownItems (pairs.map Prod.fst) := by
        rw [shownItems_eq_map, shownItems_eq_map, List.map_map, List.map_map]
        exact List.map_congr_left fun pair member => (ih pair member (scalars _ (List.mem_map_of_mem member))).1
      exact ⟨congrArg tupleText alike, congrArg (fun parts => String.ofList (tupleText parts)) alike⟩
  | later inner ih =>
    intro scalar
    cases scalar with
    | later scalar => exact ih scalar

theorem IsScalar.not_hasClash {value : Value} (scalar : value.IsScalar) : ¬ value.HasClash := by
  induction scalar with
  | tuple each ih =>
    intro clash
    cases clash with
    | tuple member inner => exact ih _ member inner
  | later scalar ih =>
    intro clash
    cases clash with
    | later inner => exact ih inner
  | null | bool | int | float | notANumber | text | bytes | date | moment => nofun

theorem start_of_not_isWrittenAsText {value : Value} {text : List Char} (other : value.isWrittenAsText = false)
    (written : value.fragment = .ok text) : ∃ c rest, text = c :: rest ∧ c ≠ '"' := by
  obtain ⟨json, formed, rfl⟩ := map_eq_ok.1 written
  refine Json.exists_compact fun s same => ?_
  rw [same] at formed
  exact toJson_ne_text value other formed

/-- Scalars clash exactly if they have one text and one of them is written as a string and the other is not. -/
theorem hasClash_set_iff {frozen : Bool} {items : List Value} (scalars : ∀ item ∈ items, item.IsScalar)
    (writable : areWritable items = true) : (set frozen items).HasClash ↔ Clash items := by
  rw [areWritable_eq_all, List.all_eq_true] at writable
  constructor
  · intro clash
    cases clash with
    | @set _ _ first second a b c d member memberThen toA toB toC toD before after differ =>
      have scalar := scalars first member
      have scalarThen := scalars second memberThen
      rw [(toA.shown_eq scalar).2, (toC.shown_eq scalarThen).2] at before
      rw [(toB.shown_eq scalar).2, (toD.shown_eq scalarThen).2] at after
      have same := String.le_antisymm before after
      have alike := fun alike => differ (scalar.fragment_eq_of_display scalarThen (writable first member)
        (writable second memberThen) same alike)
      cases string : first.isWrittenAsText <;> cases stringThen : second.isWrittenAsText
      · exact absurd (string.trans stringThen.symm) alike
      · exact ⟨second, memberThen, first, member, same.symm, stringThen, string⟩
      · exact ⟨first, member, second, memberThen, same, string, stringThen⟩
      · exact absurd (string.trans stringThen.symm) alike
    | item member inner => exact absurd inner (scalars _ member).not_hasClash
  · rintro ⟨first, member, second, memberThen, same, string, other⟩
    have below : first.display ≤ second.display := same ▸ String.le_refl _
    have above : second.display ≤ first.display := same ▸ String.le_refl _
    refine .set member memberThen (.same first) (.same first) (.same second) (.same second) below above fun alike => ?_
    have written := fragment_of_isWrittenAsText first string
    obtain ⟨c, rest, start, apart⟩ := start_of_not_isWrittenAsText other (alike.symm.trans written)
    exact apart (List.cons.inj start).1.symm

theorem IsScalar.isOk_fragment {value : Value} (scalar : value.IsScalar) (writable : value.isWritable = true) :
    value.fragment.isOk = true := by
  obtain ⟨appearance, appears⟩ := scalar.exists_appearsAs writable
  exact isOk_iff.2 ⟨_, appears.text⟩

theorem fragment_set_of_scalars {items : List Value} (frozen : Bool) (scalars : ∀ item ∈ items, item.IsScalar)
    (writable : areWritable items = true) :
    (set frozen items).fragment = .ok (Json.arrayText (writtenItems items)) := by
  refine fragment_set_of_all frozen writable fun item member => ?_
  rw [areWritable_eq_all, List.all_eq_true] at writable
  exact (scalars item member).isOk_fragment (writable item member)

/-- Frozen sets may clash though no two of their items have one text: which of these two is written first depends on
how the first one is enumerated. -/
example : (Value.set false [.set true [.text "a", .text "b"], .set true [.text "aa"]]).HasClash := by
  have swapped : Reordered (.set true [.text "a", .text "b"]) (.set true [.text "b", .text "a"]) :=
    .perm true (.swap _ _ _)
  refine .set List.mem_cons_self (List.mem_cons_of_mem _ List.mem_cons_self) (.same _) swapped (.same _) (.same _)
    (by decide +kernel) (by decide +kernel) fun alike => ?_
  have one : (Value.set true [.text "aa"]).fragment.isOk = true :=
    isOk_iff.2 ⟨_, fragment_set_of_scalars true (List.forall_mem_singleton.2 (.text "aa")) rfl⟩
  have sizes := congrArg List.length (writtenItems_eq one alike)
  rw [(writtenItems_perm _).length_eq, (writtenItems_perm _).length_eq] at sizes
  cases sizes

/-- A set of scalars of several kinds. Two of them have one text, but both are written as strings. -/
def mixed : List Value :=
  [.int 10, .text "9", .tuple [.text "9", .null], .bytes [0x39], .text "b'9'", .bool true, .tuple [.int 9]]

theorem isScalar_mixed : ∀ item ∈ mixed, item.IsScalar := by
  simp only [mixed, List.forall_mem_cons]
  refine ⟨.int _, .text _, .tuple ?_, .bytes _, .text _, .bool _, .tuple ?_, List.forall_mem_nil _⟩
  · exact List.forall_mem_cons.2 ⟨.text _, List.forall_mem_singleton.2 .null⟩
  · exact List.forall_mem_singleton.2 (.int _)

theorem not_hasClash_mixed : ¬ (Value.list [.null, .set false mixed]).HasClash := by
  have apart : ¬ Clash mixed := by decide +kernel
  intro clash
  cases clash with
  | list member inner =>
    rcases List.mem_pair.1 member with rfl | rfl
    · cases inner
    · exact apart ((hasClash_set_iff isScalar_mixed (by decide +kernel)).1 inner)

theorem serialise_reordered_mixed :
    (Value.list [.null, .set false mixed]).Reordered (.list [.null, .set false mixed.reverse]) ∧
      (Value.list [.null, .set false mixed.reverse]).serialise.toOption =
        (Value.list [.null, .set false mixed]).serialise.toOption := by
  have reordered : (Value.set false mixed).Reordered (.set false mixed.reverse) :=
    .perm false (List.reverse_perm mixed).symm
  have whole := reordered.list_at [.null] []
  exact ⟨whole, (serialise_reordered _).2 (fun _ => not_hasClash_mixed) _ whole⟩

/-- Numbers and a text of digits, which clashes with one of them. -/
def numbered : List Value :=
  [.int 63, .int 1, .int 2, .int 3, .int 4, .int 159, .text "159"]

def renumbered : List Value :=
  [.text "159", .int 159, .int 1, .int 2, .int 3, .int 63, .int 4]

theorem perm_renumbered : numbered.Perm renumbered := by
  have places : [0, 1, 2, 3, 4, 5, 6].Perm [6, 5, 1, 2, 3, 0, 4] := by decide
  exact places.map fun place => numbered.getD place .null

theorem isScalar_numbered : ∀ item ∈ numbered, item.IsScalar := by
  simp only [numbered, List.forall_mem_cons]
  exact ⟨.int _, .int _, .int _, .int _, .int _, .int _, .text _, List.forall_mem_nil _⟩

/-- One set is written in two ways, as the order in which it is enumerated decides between the number and the text
that clash. -/
theorem serialise_numbered : numbered.Perm renumbered ∧
    (Value.list [.set false numbered, .set false renumbered]).serialise =
      .ok "[[1,159,\"159\",2,3,4,63],[1,\"159\",159,2,3,4,63]]" := by
  have entries : numbered.map (fun item => (item.display, item.jsonText)) =
      [("63", ['6', '3']), ("1", ['1']), ("2", ['2']), ("3", ['3']), ("4", ['4']), ("159", ['1', '5', '9']),
        ("159", ['"', '1', '5', '9', '"'])] := by
    decide +kernel
  have entriesThen : renumbered.map (fun item => (item.display, item.jsonText)) =
      [("159", ['"', '1', '5', '9', '"']), ("159", ['1', '5', '9']), ("1", ['1']), ("2", ['2']), ("3", ['3']),
        ("63", ['6', '3']), ("4", ['4'])] := by
    decide +kernel
  have scalars : ∀ item ∈ renumbered, item.IsScalar :=
    fun item member => isScalar_numbered item (perm_renumbered.mem_iff.2 member)
  have first := fragment_set_of_scalars false isScalar_numbered (by decide +kernel)
  have second := fragment_set_of_scalars false scalars (by decide +kernel)
  rw [writtenItems, entries] at first
  rw [writtenItems, entriesThen] at second
  simp [sortedByText, List.mergeSort, List.MergeSort.Internal.splitInTwo] at first second
  refine ⟨perm_renumbered, ?_⟩
  rw [serialise_eq, fragment_list, List.map_cons, List.map_cons, first, second]
  rfl

end Value

end AssemblyInfo

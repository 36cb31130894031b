import AssemblyInfo.Proofs.Json.Flaw

/-!
# Texts of parts

The JSON text of a collection is put together from the texts of its parts, and is not there if one of them
is not. So collections whose parts have the same texts have the same text.
-/

namespace AssemblyInfo

namespace Json

/-- `arrayText texts` is an array of items with the given texts. -/
def arrayText : List (List Char) → List Char
  | [] => ['[', ']']
  | first :: rest => '[' :: (first ++ (rest.flatMap (',' :: ·) ++ [']']))

/-- `objectText members` is an object of members with the given names and texts. -/
def objectText : List (String × List Char) → List Char
  | [] => ['\x7b', '\x7d']
  | (name, first) :: rest =>
    '\x7b' :: (stringText name ++ ':' :: (first ++
      (rest.flatMap (fun member => ',' :: (stringText member.1 ++ ':' :: member.2)) ++ ['\x7d'])))

theorem compact_array (items : List Json) : (Json.array items).compact = arrayText (items.map compact) := by
  have further : ∀ rest : List Json,
      compactItems rest = (rest.map compact).flatMap (',' :: ·) ++ [']'] := by
    intro rest
    induction rest with
    | nil => rfl
    | cons item rest ih => simp [compactItems, ih]
  cases items with
  | nil => rfl
  | cons item rest => rw [compact, further, List.map_cons, arrayText, List.cons_append]

theorem compact_object (members : List (String × Json)) :
    (Json.object members).compact = objectText (members.map fun member => (member.1, member.2.compact)) := by
  have further : ∀ rest : List (String × Json), compactMembers rest =
      (rest.map fun member => (member.1, member.2.compact)).flatMap
        (fun member => ',' :: (stringText member.1 ++ ':' :: member.2)) ++ ['\x7d'] := by
    intro rest
    induction rest with
    | nil => rfl
    | cons member rest ih => simp [compactMembers, ih]
  cases members with
  | nil => rfl
  | cons member rest => simp [compact, further, objectText]

theorem arrayText_ne {a b : List Char} (differ : a ≠ b) (before after : List (List Char)) :
    arrayText (before ++ a :: after) ≠ arrayText (before ++ b :: after) := by
  cases before <;> simp [arrayText, differ]

theorem objectText_ne {a b : List Char} (differ : a ≠ b) (name : String) (before after : List (String × List Char)) :
    objectText (before ++ (name, a) :: after) ≠ objectText (before ++ (name, b) :: after) := by
  cases before <;> simp [objectText, differ]

end Json

theorem inOrder_map {α β : Type} (f : α → β) (outcomes : List (Except Fault α)) :
    inOrder (outcomes.map (Except.map f)) = (inOrder outcomes).map (List.map f) := by
  induction outcomes with
  | nil => rfl
  | cons first rest ih =>
    cases first with
    | error fault => rfl
    | ok result =>
      rw [List.map_cons, Except.map, inOrder, inOrder, ih]
      cases inOrder rest <;> rfl

theorem inOrder_map_ok {α : Type} (results : List α) : inOrder (results.map Except.ok) = .ok results := by
  induction results with
  | nil => rfl
  | cons result rest ih =>
    rw [List.map_cons, inOrder, ih]
    rfl

theorem inOrder_append {α : Type} (first second : List (Except Fault α)) :
    inOrder (first ++ second) = (inOrder first).bind fun before => (inOrder second).map (before ++ ·) := by
  induction first with
  | nil =>
    change inOrder second = (inOrder second).map ([] ++ ·)
    cases inOrder second <;> rfl
  | cons outcome rest ih =>
    cases outcome with
    | error fault => rfl
    | ok result =>
      rw [List.cons_append, inOrder, inOrder, ih]
      cases inOrder rest with
      | error fault => rfl
      | ok more => cases inOrder second <;> rfl

/-- Another result in one place makes for another outcome, if what is made of the results tells the two apart. -/
theorem map_inOrder_at {α β : Type} {writer : List α → β} {before after : List (Except Fault α)} {a b : α} {result : β}
    (formed : (inOrder (before ++ .ok a :: after)).map writer = .ok result)
    (told : ∀ first last, writer (first ++ a :: last) ≠ writer (first ++ b :: last)) :
    ∃ other, (inOrder (before ++ .ok b :: after)).map writer = .ok other ∧ other ≠ result := by
  rw [inOrder_append, inOrder] at formed ⊢
  cases first : inOrder before with
  | error fault =>
    rw [first] at formed
    cases formed
  | ok start =>
    cases last : inOrder after with
    | error fault =>
      rw [first, last] at formed
      cases formed
    | ok rest =>
      rw [first, last] at formed
      obtain rfl := Except.ok.inj formed
      exact ⟨_, rfl, (told start rest).symm⟩

theorem sortedByText_map {α β : Type} (f : α → β) (entries : List (String × α)) :
    sortedByText (entries.map fun entry => (entry.1, f entry.2)) = (sortedByText entries).map f := by
  unfold sortedByText
  rw [← List.map_mergeSort (r := fun a b => decide (a.1 ≤ b.1)) (fun _ _ _ _ => rfl), List.map_map, List.map_map]
  rfl

/-- Items are sorted as the entries that are made of them. -/
theorem sortedByText_entries {α β : Type} (text : α → String) (content : α → β) (items : List α) :
    sortedByText (items.map fun item => (text item, content item)) =
      (items.mergeSort fun a b => decide (text a ≤ text b)).map content := by
  unfold sortedByText
  rw [← List.map_mergeSort (r := fun a b => decide (text a ≤ text b)) (fun _ _ _ _ => rfl), List.map_map]
  rfl

theorem sortedByText_perm {α : Type} (entries : List (String × α)) :
    (sortedByText entries).Perm (entries.map Prod.snd) :=
  (List.mergeSort_perm _ _).map Prod.snd

namespace Value

/-- `value.fragment` is the characters of the JSON text of `value`. -/
def fragment (value : Value) : Except Fault (List Char) :=
  value.toJson.map Json.compact

theorem serialise_eq (value : Value) : value.serialise = value.fragment.map String.ofList := by
  unfold serialise fragment
  cases value.toJson <;> rfl

theorem itemsToJson_eq_inOrder (items : List Value) : itemsToJson items = inOrder (items.map toJson) := by
  induction items with
  | nil => rfl
  | cons item rest ih =>
    rw [itemsToJson, List.map_cons, ih]
    cases item.toJson <;> rfl

/-- The text of an array is made of the texts of its items. -/
theorem fragment_items (outcomes : List (Except Fault Json)) :
    ((inOrder outcomes).map Json.array).map Json.compact =
      (inOrder (outcomes.map (Except.map Json.compact))).map Json.arrayText := by
  rw [inOrder_map]
  cases inOrder outcomes with
  | error fault => rfl
  | ok items => exact congrArg Except.ok (Json.compact_array items)

theorem fragment_list (items : List Value) :
    (list items).fragment = (inOrder (items.map fragment)).map Json.arrayText := by
  rw [fragment, toJson, itemsToJson_eq_inOrder, fragment_items, List.map_map]
  rfl

theorem fragment_tuple (items : List Value) : (tuple items).fragment = (list items).fragment := rfl

theorem fragment_set (frozen : Bool) (items : List Value) :
    (set frozen items).fragment = if areWritable items then
      (inOrder (sortedByText (items.map fun item => (item.display, item.fragment)))).map Json.arrayText
    else .error .longInteger := by
  rw [fragment, toJson]
  split
  · have sorted := sortedByText_map (Except.map Json.compact) (keyedToJson items)
    rw [keyedToJson_eq_map, List.map_map] at sorted
    rw [fragment_items, keyedToJson_eq_map, ← sorted]
    rfl
  · rfl

theorem entriesToJson_eq_inOrder (entries : List (Value × Value)) :
    entriesToJson entries = inOrder (entries.map fun entry =>
      (Json.keyText entry.1).bind fun name => entry.2.toJson.map (name, ·)) := by
  induction entries with
  | nil => rfl
  | cons entry rest ih =>
    rw [entriesToJson, List.map_cons, ih]
    cases Json.keyText entry.1 with
    | error fault => rfl
    | ok name => cases entry.2.toJson <;> rfl

theorem fieldsToJson_eq_inOrder (fields : List (String × Value)) :
    fieldsToJson fields = inOrder (fields.map fun field => field.2.toJson.map (field.1, ·)) := by
  induction fields with
  | nil => rfl
  | cons field rest ih =>
    rw [fieldsToJson, List.map_cons, ih]
    cases field.2.toJson <;> rfl

/-- The text of an object is made of its names and the texts of its members. -/
theorem fragment_members (outcomes : List (Except Fault (String × Json))) :
    ((inOrder outcomes).map Json.object).map Json.compact =
      (inOrder (outcomes.map (Except.map fun member => (member.1, member.2.compact)))).map Json.objectText := by
  rw [inOrder_map]
  cases inOrder outcomes with
  | error fault => rfl
  | ok members => exact congrArg Except.ok (Json.compact_object members)

theorem fragment_map (entries : List (Value × Value)) :
    (map entries).fragment = (inOrder (entries.map fun entry =>
      (Json.keyText entry.1).bind fun name => entry.2.fragment.map (name, ·))).map Json.objectText := by
  rw [fragment, toJson, entriesToJson_eq_inOrder, fragment_members, List.map_map]
  congr 2
  refine List.map_congr_left fun entry _ => ?_
  unfold fragment
  rw [Function.comp_apply]
  cases Json.keyText entry.1 with
  | error fault => rfl
  | ok name =>
    simp only [Except.bind]
    cases entry.2.toJson <;> rfl

theorem fragment_record (fields : List (String × Value)) :
    (record fields).fragment =
      (inOrder (fields.map fun field => field.2.fragment.map (field.1, ·))).map Json.objectText := by
  rw [fragment, toJson, fieldsToJson_eq_inOrder, fragment_members, List.map_map]
  congr 2
  refine List.map_congr_left fun field _ => ?_
  unfold fragment
  rw [Function.comp_apply]
  cases field.2.toJson <;> rfl

theorem membersToJson_eq_inOrder (fields : List (String × Except Fault Value)) :
    membersToJson fields =
      inOrder (fields.map fun field => field.2.bind fun value => value.toJson.map (field.1, ·)) := by
  induction fields with
  | nil => rfl
  | cons field rest ih =>
    obtain ⟨name, held⟩ := field
    cases held with
    | error fault => rfl
    | ok value =>
      rw [membersToJson, List.map_cons, ih]
      simp only [Except.bind]
      cases value.toJson <;> rfl

theorem fragment_dataclass (kind : String) (shownAs : List (List Char) → List Char)
    (fields : List (String × Except Fault Value)) :
    (dataclass kind shownAs fields).fragment = (fieldsAsDict fields).bind fun _ =>
      (inOrder (fields.map fun field => field.2.bind fun value => value.fragment.map (field.1, ·))).map
        Json.objectText := by
  rw [fragment, toJson]
  cases fieldsAsDict fields with
  | error fault => rfl
  | ok copies =>
    change ((membersToJson fields).map Json.object).map Json.compact = (inOrder _).map Json.objectText
    rw [membersToJson_eq_inOrder, fragment_members, List.map_map]
    congr 2
    refine List.map_congr_left fun field _ => ?_
    unfold fragment
    rw [Function.comp_apply]
    cases field.2 with
    | error fault => rfl
    | ok value =>
      simp only [Except.bind]
      cases value.toJson <;> rfl

end Value

end AssemblyInfo

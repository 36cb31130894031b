import AssemblyInfo.Proofs.Json.Flaw

/-!
# Dataclasses are written as their copies

The copy of a value has the JSON form of the value, so a dataclass is written as the mapping that it is
copied into. A copy fails for a part that cannot be copied, and never for a key that is a name.
-/

namespace AssemblyInfo.Value

/-! ### Keys -/

/-- What can be a key of a JSON object is its own copy, up to what is worked out, and can be filed. -/
theorem asKey_of_isName : ∀ key : Value, key.isName = true → key.asDict.bind asKey = .ok key.now
  | .later part => fun name => asKey_of_isName (part ()) name
  | .null | .bool _ | .int _ | .float _ | .notANumber _ | .text _ => fun _ => rfl
  | .bytes _ | .date _ | .moment _ | .list _ | .tuple _ | .set .. | .map _ | .record _ | .dataclass .. | .again _ => nofun

theorem of_asKey {copy filed : Value} (hashed : copy.asKey = .ok filed) : copy.unhashable? = none ∧ copy = filed := by
  rw [asKey] at hashed
  split at hashed
  · cases hashed
  · rename_i hashable
    exact ⟨hashable, Except.ok.inj hashed⟩

theorem not_isName_of_asKey {key : Value} {fault : Fault} (refused : key.asDict.bind asKey = .error fault) :
    key.isName = false := by
  by_contra name
  rw [asKey_of_isName key (Bool.of_not_eq_false name)] at refused
  cases refused

/-! ### What is refused -/

theorem exists_error_of_itemsAsDict {items : List Value} {fault : Fault}
    (failed : itemsAsDict items = .error fault) : ∃ item ∈ items, item.asDict = .error fault := by
  induction items with
  | nil => cases failed
  | cons item rest ih =>
    rw [itemsAsDict] at failed
    rcases bind_eq_error.1 failed with first | ⟨copy, -, failed⟩
    · exact ⟨item, List.mem_cons_self, first⟩
    rcases bind_eq_error.1 failed with later | ⟨more, -, failed⟩
    · obtain ⟨inner, member, refused⟩ := ih later
      exact ⟨inner, List.mem_cons_of_mem _ member, refused⟩
    · cases failed

theorem exists_error_of_entriesAsDict {entries : List (Value × Value)} {fault : Fault}
    (failed : entriesAsDict entries = .error fault) :
    ∃ entry ∈ entries, entry.1.asDict.bind asKey = .error fault ∨ entry.2.asDict = .error fault := by
  induction entries with
  | nil => cases failed
  | cons first rest ih =>
    obtain ⟨key, value⟩ := first
    rw [entriesAsDict] at failed
    rcases bind_eq_error.1 failed with uncopied | ⟨name, copied, failed⟩
    · exact ⟨_, List.mem_cons_self, Or.inl (bind_eq_error.2 (Or.inl uncopied))⟩
    rcases bind_eq_error.1 failed with first | ⟨copy, -, failed⟩
    · exact ⟨_, List.mem_cons_self, Or.inr first⟩
    rcases bind_eq_error.1 failed with unfiled | ⟨filed, -, failed⟩
    · exact ⟨_, List.mem_cons_self, Or.inl (bind_eq_error.2 (Or.inr ⟨name, copied, unfiled⟩))⟩
    rcases bind_eq_error.1 failed with later | ⟨more, -, failed⟩
    · obtain ⟨inner, member, refused⟩ := ih later
      exact ⟨inner, List.mem_cons_of_mem _ member, refused⟩
    · cases failed

theorem exists_error_of_fieldsAsDict {fields : List (String × Except Fault Value)} {fault : Fault}
    (failed : fieldsAsDict fields = .error fault) :
    ∃ field ∈ fields, field.2 = .error fault ∨ ∃ value, field.2 = .ok value ∧ value.asDict = .error fault := by
  induction fields with
  | nil => cases failed
  | cons first rest ih =>
    obtain ⟨name, held⟩ := first
    cases held with
    | error other =>
      obtain rfl := Except.error.inj failed
      exact ⟨_, List.mem_cons_self, Or.inl rfl⟩
    | ok value =>
      rw [fieldsAsDict] at failed
      rcases bind_eq_error.1 failed with first | ⟨copy, -, failed⟩
      · exact ⟨_, List.mem_cons_self, Or.inr ⟨value, rfl, first⟩⟩
      rcases bind_eq_error.1 failed with later | ⟨more, -, failed⟩
      · obtain ⟨inner, member, refused⟩ := ih later
        exact ⟨inner, List.mem_cons_of_mem _ member, refused⟩
      · cases failed

/-! ### What a copy is written as -/

/-- `value.CopiesAlike` says that a copy of `value` has the JSON form of `value`. -/
def CopiesAlike (value : Value) : Prop :=
  ∀ copy, value.asDict = .ok copy → copy.toJson = value.toJson

theorem itemsToJson_of_copies {items copies : List Value} (alike : ∀ item ∈ items, item.CopiesAlike)
    (copied : itemsAsDict items = .ok copies) : itemsToJson copies = itemsToJson items := by
  induction items generalizing copies with
  | nil =>
    obtain rfl := Except.ok.inj copied
    rfl
  | cons item rest ih =>
    rw [List.forall_mem_cons] at alike
    rw [itemsAsDict] at copied
    obtain ⟨copy, first, copied⟩ := bind_eq_ok.1 copied
    obtain ⟨more, later, copied⟩ := bind_eq_ok.1 copied
    obtain rfl := Except.ok.inj copied
    rw [itemsToJson, itemsToJson, alike.1 copy first, ih alike.2 later]

/-- A key that can be filed keeps its kind as it is copied. -/
theorem keyText_of_copy {copy : Value} (filed : copy.unhashable? = none) :
    ∀ key : Value, key.asDict = .ok copy → Json.keyText copy = Json.keyText key
  | .later part => fun copied => keyText_of_copy filed (part ()) copied
  | .null | .bool _ | .int _ | .float _ | .notANumber _ | .text _ | .bytes _ | .date _ | .moment _
  | .set .. | .record _ => fun copied => by rw [← Except.ok.inj copied]
  | .list _ | .map _ | .dataclass .. => fun copied => by
    obtain ⟨parts, -, same⟩ := map_eq_ok.1 copied
    rw [← same] at filed
    cases filed
  | .tuple _ => fun copied => by
    obtain ⟨parts, -, same⟩ := map_eq_ok.1 copied
    rw [← same]
    rfl
  | .again _ => nofun

theorem entriesToJson_of_copies {entries copies : List (Value × Value)}
    (alike : ∀ entry ∈ entries, entry.2.CopiesAlike) (copied : entriesAsDict entries = .ok copies) :
    entriesToJson copies = entriesToJson entries := by
  induction entries generalizing copies with
  | nil =>
    obtain rfl := Except.ok.inj copied
    rfl
  | cons entry rest ih =>
    obtain ⟨key, value⟩ := entry
    rw [List.forall_mem_cons] at alike
    rw [entriesAsDict] at copied
    obtain ⟨name, named, copied⟩ := bind_eq_ok.1 copied
    obtain ⟨copy, first, copied⟩ := bind_eq_ok.1 copied
    obtain ⟨filed, hashed, copied⟩ := bind_eq_ok.1 copied
    obtain ⟨more, later, copied⟩ := bind_eq_ok.1 copied
    obtain rfl := Except.ok.inj copied
    obtain ⟨hashable, rfl⟩ := of_asKey hashed
    rw [entriesToJson, entriesToJson, keyText_of_copy hashable key named, alike.1 copy first, ih alike.2 later]

theorem entriesToJson_of_fields {fields : List (String × Except Fault Value)} {copies : List (Value × Value)}
    (alike : ∀ name value, (name, .ok value) ∈ fields → value.CopiesAlike)
    (copied : fieldsAsDict fields = .ok copies) : entriesToJson copies = membersToJson fields := by
  induction fields generalizing copies with
  | nil =>
    obtain rfl := Except.ok.inj copied
    rfl
  | cons field rest ih =>
    obtain ⟨name, held⟩ := field
    cases held with
    | error fault => cases copied
    | ok value =>
      rw [fieldsAsDict] at copied
      obtain ⟨copy, first, copied⟩ := bind_eq_ok.1 copied
      obtain ⟨more, later, copied⟩ := bind_eq_ok.1 copied
      obtain rfl := Except.ok.inj copied
      rw [entriesToJson, membersToJson, alike name value List.mem_cons_self copy first,
        ih (fun name value member => alike name value (List.mem_cons_of_mem _ member)) later, Json.keyText, ok_bind]

/-- A copy has the JSON form of what it is a copy of. -/
theorem copiesAlike (value : Value) : value.CopiesAlike := by
  induction value using inductionOnParts with
  | step value ih =>
    intro copy copied
    cases value with
    | list items | tuple items =>
      obtain ⟨copies, each, rfl⟩ := map_eq_ok.1 copied
      have same : itemsToJson copies = itemsToJson items := itemsToJson_of_copies ih each
      rw [toJson, toJson, same]
    | map entries =>
      obtain ⟨copies, each, rfl⟩ := map_eq_ok.1 copied
      rw [toJson, toJson, entriesToJson_of_copies (fun entry member => ih _ (value_mem_parts member)) each]
    | dataclass kind shownAs fields =>
      obtain ⟨copies, each, rfl⟩ := map_eq_ok.1 copied
      rw [toJson, toJson, each, entriesToJson_of_fields (fun name value member => ih _ (member_mem_parts member)) each]
      rfl
    | later part => exact ih (part ()) List.mem_cons_self copy copied
    | again => cases copied
    | null | bool | int | float | notANumber | text | bytes | date | moment | set | record =>
      rw [← Except.ok.inj copied]

/-- A dataclass is copied first, and then its copy is written. -/
theorem toJson_dataclass (kind : String) (shownAs : List (List Char) → List Char)
    (fields : List (String × Except Fault Value)) :
    (dataclass kind shownAs fields).toJson = (dataclass kind shownAs fields).asDict.bind toJson := by
  cases copied : (dataclass kind shownAs fields).asDict with
  | ok copy => exact (copiesAlike _ copy copied).symm
  | error fault =>
    rw [toJson, map_eq_error.1 copied]
    rfl

/-- A field that is not set stands in the way, wherever it comes. -/
example (shownAs : List (List Char) → List Char) :
    (dataclass "Data" shownAs [("title", .ok (.text "x")), ("guid", .error (.unset "Data" "guid"))]).toJson =
      .error (.unset "Data" "guid") := rfl

end AssemblyInfo.Value

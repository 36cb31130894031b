import AssemblyInfo.Json.OfValue
import AssemblyInfo.Proofs.Outcome
import AssemblyInfo.Proofs.Value.Now
import Mathlib.Data.List.Basic
import Mathlib.Logic.Relation

/-!
# Values without a JSON form

A value has a JSON form unless a part of it stands in the way: the place where a collection would start
again, a mapping with a key that is no name, an integer that is too long to be written, or a dataclass that
cannot be copied. A value that is refused is refused for such a part.
-/

namespace AssemblyInfo.Value

/-! ### What is worked out -/

theorem toJson_now (value : Value) : value.now.toJson = value.toJson := by
  match value with
  | .later part =>
    rw [toJson]
    exact toJson_now (part ())
  | .null | .bool _ | .int _ | .float _ | .notANumber _ | .text _ | .bytes _ | .date _ | .moment _
  | .list _ | .tuple _ | .set .. | .map _ | .record _ | .dataclass .. | .again _ => rfl

theorem serialise_now (value : Value) : value.now.serialise = value.serialise := by
  rw [serialise, serialise, toJson_now]

/-! ### Parts -/

/-- `value.parts` is the values that `value` is made of. -/
def parts : Value → List Value
  | .list items | .tuple items | .set _ items => items
  | .map entries => entries.flatMap fun entry => [entry.1, entry.2]
  | .record fields => fields.map Prod.snd
  | .dataclass _ _ fields => fields.filterMap fun field => field.2.toOption
  | .later part => [part ()]
  | _ => []

/-- `value.Holds part` says that `part` is `value`, or stands in it at whatever depth. -/
def Holds : Value → Value → Prop :=
  Relation.ReflTransGen fun outer inner => inner ∈ outer.parts

/-- `key.isName` says that `key` can be a key of a JSON object: a text, number, flag or null. -/
def isName : Value → Bool
  | .null | .bool _ | .int _ | .float _ | .notANumber _ | .text _ => true
  | .later part => (part ()).isName
  | _ => false

/-- `Flaw part fault` says that `part`, by itself, has no JSON form because of `fault`. -/
inductive Flaw : Value → Fault → Prop
  | circular : Flaw (.again false) .circular
  | endless : Flaw (.again true) .endless
  | badKey {entries : List (Value × Value)} {entry : Value × Value} (member : entry ∈ entries)
      (noName : entry.1.isName = false) : Flaw (.map entries) (.badKey entry.1.kind)
  | longInteger {n : Int} (long : Decimal.isLong n.natAbs = true) : Flaw (.int n) .longInteger
  | uncopied {kind : String} {shownAs : List (List Char) → List Char} {fields : List (String × Except Fault Value)}
      {fault : Fault} (refused : fieldsAsDict fields = .error fault) : Flaw (.dataclass kind shownAs fields) fault

/-- `value.Flawed fault` says that some part of `value` has no JSON form because of `fault`. -/
def Flawed (value : Value) (fault : Fault) : Prop :=
  ∃ part, value.Holds part ∧ Flaw part fault

theorem Flaw.flawed {value : Value} {fault : Fault} (flaw : Flaw value fault) : value.Flawed fault :=
  ⟨value, .refl, flaw⟩

theorem Flawed.of_part {value part : Value} {fault : Fault} (within : part ∈ value.parts)
    (flawed : part.Flawed fault) : value.Flawed fault := by
  obtain ⟨inner, holds, flaw⟩ := flawed
  exact ⟨inner, .head within holds, flaw⟩

/-! ### Induction over parts -/

mutual

/-- What holds of every value whose parts it holds of holds of all values. -/
@[elab_as_elim]
theorem inductionOnParts {motive : Value → Prop}
    (step : ∀ value : Value, (∀ part ∈ value.parts, motive part) → motive value) :
    ∀ value : Value, motive value
  | .list items => step _ (inductionOnItems step items)
  | .tuple items => step _ (inductionOnItems step items)
  | .set _ items => step _ (inductionOnItems step items)
  | .map entries => step _ (inductionOnEntries step entries)
  | .record fields => step _ (inductionOnFields step fields)
  | .dataclass _ _ fields => step _ (inductionOnMembers step fields)
  | .later part => step _ (List.forall_mem_singleton.2 (inductionOnParts step (part ())))
  | .null | .bool _ | .int _ | .float _ | .notANumber _ | .text _ | .bytes _ | .date _ | .moment _ | .again _ =>
    step _ (List.forall_mem_nil _)

theorem inductionOnItems {motive : Value → Prop}
    (step : ∀ value : Value, (∀ part ∈ value.parts, motive part) → motive value) :
    ∀ items : List Value, ∀ item ∈ items, motive item
  | [] => List.forall_mem_nil _
  | item :: rest => List.forall_mem_cons.2 ⟨inductionOnParts step item, inductionOnItems step rest⟩

theorem inductionOnEntries {motive : Value → Prop}
    (step : ∀ value : Value, (∀ part ∈ value.parts, motive part) → motive value) :
    ∀ entries : List (Value × Value), ∀ part ∈ (map entries).parts, motive part
  | [] => List.forall_mem_nil _
  | (key, value) :: rest => List.forall_mem_cons.2 ⟨inductionOnParts step key,
      List.forall_mem_cons.2 ⟨inductionOnParts step value, inductionOnEntries step rest⟩⟩

theorem inductionOnFields {motive : Value → Prop}
    (step : ∀ value : Value, (∀ part ∈ value.parts, motive part) → motive value) :
    ∀ fields : List (String × Value), ∀ part ∈ (record fields).parts, motive part
  | [] => List.forall_mem_nil _
  | (_, value) :: rest =>
    List.forall_mem_cons.2 ⟨inductionOnParts step value, inductionOnFields step rest⟩

theorem inductionOnMembers {motive : Value → Prop}
    (step : ∀ value : Value, (∀ part ∈ value.parts, motive part) → motive value) :
    ∀ fields : List (String × Except Fault Value), ∀ part ∈ fields.filterMap fun field => field.2.toOption, motive part
  | [] => List.forall_mem_nil _
  | (_, .error _) :: rest => inductionOnMembers step rest
  | (_, .ok value) :: rest =>
    List.forall_mem_cons.2 ⟨inductionOnParts step value, inductionOnMembers step rest⟩

end

theorem key_mem_parts {entries : List (Value × Value)} {entry : Value × Value} (member : entry ∈ entries) :
    entry.1 ∈ (map entries).parts :=
  List.mem_flatMap.2 ⟨entry, member, List.mem_cons_self⟩

theorem value_mem_parts {entries : List (Value × Value)} {entry : Value × Value} (member : entry ∈ entries) :
    entry.2 ∈ (map entries).parts :=
  List.mem_flatMap.2 ⟨entry, member, List.mem_cons_of_mem _ List.mem_cons_self⟩

theorem field_mem_parts {fields : List (String × Value)} {field : String × Value} (member : field ∈ fields) :
    field.2 ∈ (record fields).parts :=
  List.mem_map_of_mem member

theorem member_mem_parts {kind name : String} {shownAs : List (List Char) → List Char}
    {fields : List (String × Except Fault Value)} {value : Value}
    (member : (name, .ok value) ∈ fields) : value ∈ (dataclass kind shownAs fields).parts :=
  List.mem_filterMap.2 ⟨_, member, rfl⟩

/-! ### Keys -/

theorem keyText_int (n : Int) : Json.keyText (.int n) =
    if Decimal.isLong n.natAbs then .error .longInteger else .ok (String.ofList (Decimal.integerText n)) := by
  rw [Json.keyText, writtenText, written, isWritable]
  cases Decimal.isLong n.natAbs <;> rfl

theorem isName_of_keyText {name : String} : ∀ key : Value, Json.keyText key = .ok name → key.isName = true
  | .later part => isName_of_keyText (part ())
  | .null | .bool _ | .int _ | .float _ | .notANumber _ | .text _ => fun _ => rfl
  | .bytes _ | .date _ | .moment _ | .list _ | .tuple _ | .set .. | .map _ | .record _ | .dataclass .. | .again _ => nofun

/-- A key is refused for what it is, or as an integer that is too long. -/
theorem refused_of_keyText {fault : Fault} : ∀ key : Value, Json.keyText key = .error fault →
    (key.isName = false ∧ fault = .badKey key.kind) ∨ (fault = .longInteger ∧ key.isWritable = false)
  | .later part => refused_of_keyText (part ())
  | .int n => by
    intro refused
    rw [keyText_int] at refused
    split at refused
    · rename_i long
      exact Or.inr ⟨(Except.error.inj refused).symm, by rw [isWritable, long]; rfl⟩
    · cases refused
  | .null | .bool _ | .float _ | .notANumber _ | .text _ => nofun
  | .bytes _ | .date _ | .moment _ | .list _ | .tuple _ | .set .. | .map _ | .record _ | .dataclass .. | .again _ =>
    fun refused => Or.inl ⟨rfl, (Except.error.inj refused).symm⟩

theorem toJson_of_keyText {name : String} :
    ∀ key : Value, Json.keyText key = .ok name → ∃ json, key.toJson = .ok json
  | .later part => fun named => toJson_of_keyText (part ()) named
  | .int n => by
    intro named
    rw [keyText_int] at named
    rw [toJson]
    split at named
    · cases named
    · rename_i short
      exact ⟨_, if_neg short⟩
  | .null | .bool _ | .float _ | .notANumber _ | .text _ => fun _ => ⟨_, rfl⟩
  | .bytes _ | .date _ | .moment _ | .list _ | .tuple _ | .set .. | .map _ | .record _ | .dataclass .. | .again _ => nofun

/-! ### Parts of what has a JSON form -/

theorem mem_sortedByText {α : Type} {entries : List (String × α)} {content : α} :
    content ∈ sortedByText entries ↔ ∃ entry ∈ entries, entry.2 = content := by
  unfold sortedByText
  rw [List.mem_map]
  simp only [List.mem_mergeSort]

theorem keyedToJson_eq_map (items : List Value) :
    keyedToJson items = items.map fun item => (item.display, item.toJson) := by
  induction items with
  | nil => rfl
  | cons item rest ih => rw [keyedToJson, ih, List.map_cons]

theorem mem_sorted_keyedToJson {items : List Value} {outcome : Except Fault Json} :
    outcome ∈ sortedByText (keyedToJson items) ↔ ∃ item ∈ items, item.toJson = outcome := by
  rw [mem_sortedByText, keyedToJson_eq_map]
  simp

theorem exists_ok_of_inOrder {α : Type} {outcomes : List (Except Fault α)} {results : List α}
    (all : inOrder outcomes = .ok results) : ∀ outcome ∈ outcomes, ∃ result, outcome = .ok result := by
  induction outcomes generalizing results with
  | nil =>
    intro outcome member
    cases member
  | cons first rest ih =>
    cases first with
    | error fault => cases all
    | ok result =>
      rw [inOrder] at all
      obtain ⟨more, later, -⟩ := map_eq_ok.1 all
      exact List.forall_mem_cons.2 ⟨⟨result, rfl⟩, ih later⟩

theorem mem_of_inOrder_error {α : Type} {outcomes : List (Except Fault α)} {fault : Fault}
    (failed : inOrder outcomes = .error fault) : .error fault ∈ outcomes := by
  induction outcomes with
  | nil => cases failed
  | cons first rest ih =>
    cases first with
    | error other =>
      obtain rfl : other = fault := Except.error.inj failed
      exact List.mem_cons_self
    | ok result =>
      rw [inOrder] at failed
      exact List.mem_cons_of_mem _ (ih (map_eq_error.1 failed))

theorem exists_ok_of_itemsToJson {items : List Value} {jsons : List Json}
    (formed : itemsToJson items = .ok jsons) : ∀ item ∈ items, ∃ json, item.toJson = .ok json := by
  induction items generalizing jsons with
  | nil =>
    intro item member
    cases member
  | cons item rest ih =>
    rw [itemsToJson] at formed
    obtain ⟨json, first, formed⟩ := bind_eq_ok.1 formed
    obtain ⟨more, later, -⟩ := bind_eq_ok.1 formed
    exact List.forall_mem_cons.2 ⟨⟨json, first⟩, ih later⟩

theorem exists_ok_of_entriesToJson {entries : List (Value × Value)} {members : List (String × Json)}
    (formed : entriesToJson entries = .ok members) :
    ∀ entry ∈ entries, (∃ name, Json.keyText entry.1 = .ok name) ∧ ∃ json, entry.2.toJson = .ok json := by
  induction entries generalizing members with
  | nil =>
    intro entry member
    cases member
  | cons first rest ih =>
    obtain ⟨key, value⟩ := first
    rw [entriesToJson] at formed
    obtain ⟨name, named, formed⟩ := bind_eq_ok.1 formed
    obtain ⟨json, first, formed⟩ := bind_eq_ok.1 formed
    obtain ⟨more, later, -⟩ := bind_eq_ok.1 formed
    exact List.forall_mem_cons.2 ⟨⟨⟨name, named⟩, ⟨json, first⟩⟩, ih later⟩

theorem exists_ok_of_fieldsToJson {fields : List (String × Value)} {members : List (String × Json)}
    (formed : fieldsToJson fields = .ok members) : ∀ field ∈ fields, ∃ json, field.2.toJson = .ok json := by
  induction fields generalizing members with
  | nil =>
    intro field member
    cases member
  | cons first rest ih =>
    obtain ⟨name, value⟩ := first
    rw [fieldsToJson] at formed
    obtain ⟨json, first, formed⟩ := bind_eq_ok.1 formed
    obtain ⟨more, later, -⟩ := bind_eq_ok.1 formed
    exact List.forall_mem_cons.2 ⟨⟨json, first⟩, ih later⟩

theorem exists_ok_of_membersToJson {fields : List (String × Except Fault Value)} {members : List (String × Json)}
    (formed : membersToJson fields = .ok members) :
    ∀ field ∈ fields, ∃ value json, field.2 = .ok value ∧ value.toJson = .ok json := by
  induction fields generalizing members with
  | nil =>
    intro field member
    cases member
  | cons first rest ih =>
    obtain ⟨name, held⟩ := first
    cases held with
    | error fault => cases formed
    | ok value =>
      rw [membersToJson] at formed
      obtain ⟨json, first, formed⟩ := bind_eq_ok.1 formed
      obtain ⟨more, later, -⟩ := bind_eq_ok.1 formed
      exact List.forall_mem_cons.2 ⟨⟨value, json, rfl, first⟩, ih later⟩

theorem exists_ok_of_parts {value : Value} {json : Json} (formed : value.toJson = .ok json) :
    ∀ part ∈ value.parts, ∃ json, part.toJson = .ok json := by
  cases value with
  | list items | tuple items =>
    rw [toJson] at formed
    obtain ⟨jsons, all, -⟩ := map_eq_ok.1 formed
    exact exists_ok_of_itemsToJson all
  | set frozen items =>
    rw [toJson] at formed
    split at formed
    · obtain ⟨jsons, all, -⟩ := map_eq_ok.1 formed
      intro item member
      exact exists_ok_of_inOrder all _ (mem_sorted_keyedToJson.2 ⟨item, member, rfl⟩)
    · cases formed
  | map entries =>
    rw [toJson] at formed
    obtain ⟨members, all, -⟩ := map_eq_ok.1 formed
    intro part within
    obtain ⟨entry, member, side⟩ := List.mem_flatMap.1 within
    obtain ⟨⟨name, named⟩, value⟩ := exists_ok_of_entriesToJson all entry member
    rcases List.mem_pair.1 side with rfl | rfl
    · exact toJson_of_keyText _ named
    · exact value
  | record fields =>
    rw [toJson] at formed
    obtain ⟨members, all, -⟩ := map_eq_ok.1 formed
    intro part within
    obtain ⟨field, member, rfl⟩ := List.mem_map.1 within
    exact exists_ok_of_fieldsToJson all field member
  | dataclass kind shownAs fields =>
    rw [toJson] at formed
    obtain ⟨copies, -, formed⟩ := bind_eq_ok.1 formed
    obtain ⟨members, all, -⟩ := bind_eq_ok.1 formed
    intro part within
    obtain ⟨field, member, held⟩ := List.mem_filterMap.1 within
    obtain ⟨value, json, same, written⟩ := exists_ok_of_membersToJson all field member
    rw [same] at held
    obtain rfl := Option.some.inj held
    exact ⟨json, written⟩
  | later part =>
    rw [toJson] at formed
    exact List.forall_mem_singleton.2 ⟨json, formed⟩
  | null | bool _ | int _ | float _ | notANumber _ | text _ | bytes _ | date _ | moment _ | again _ =>
    exact List.forall_mem_nil _

theorem not_flaw_of_toJson {value : Value} {json : Json} (formed : value.toJson = .ok json) (fault : Fault) :
    ¬ Flaw value fault := by
  intro flaw
  cases flaw with
  | circular | endless => cases formed
  | badKey member noName =>
    rw [toJson] at formed
    obtain ⟨members, all, -⟩ := map_eq_ok.1 formed
    obtain ⟨⟨name, named⟩, -⟩ := exists_ok_of_entriesToJson all _ member
    rw [isName_of_keyText _ named] at noName
    cases noName
  | longInteger long =>
    rw [toJson, if_pos long] at formed
    cases formed
  | uncopied refused =>
    rw [toJson, refused] at formed
    cases formed

theorem exists_ok_of_holds {value part : Value} {json : Json} (formed : value.toJson = .ok json)
    (holds : value.Holds part) : ∃ json, part.toJson = .ok json := by
  induction holds with
  | refl => exact ⟨json, formed⟩
  | tail _ within ih =>
    obtain ⟨_, outer⟩ := ih
    exact exists_ok_of_parts outer _ within

/-- What has a JSON form has no flaw at any depth. -/
theorem not_flawed_of_toJson {value : Value} {json : Json} (formed : value.toJson = .ok json) (fault : Fault) :
    ¬ value.Flawed fault := by
  rintro ⟨part, holds, flaw⟩
  obtain ⟨inner, part⟩ := exists_ok_of_holds formed holds
  exact not_flaw_of_toJson part fault flaw

/-! ### What is refused -/

theorem exists_error_of_itemsToJson {items : List Value} {fault : Fault}
    (failed : itemsToJson items = .error fault) : ∃ item ∈ items, item.toJson = .error fault := by
  induction items with
  | nil => cases failed
  | cons item rest ih =>
    rw [itemsToJson] at failed
    rcases bind_eq_error.1 failed with first | ⟨json, -, failed⟩
    · exact ⟨item, List.mem_cons_self, first⟩
    rcases bind_eq_error.1 failed with later | ⟨more, -, failed⟩
    · obtain ⟨inner, member, refused⟩ := ih later
      exact ⟨inner, List.mem_cons_of_mem _ member, refused⟩
    · cases failed

theorem exists_error_of_entriesToJson {entries : List (Value × Value)} {fault : Fault}
    (failed : entriesToJson entries = .error fault) :
    ∃ entry ∈ entries, Json.keyText entry.1 = .error fault ∨ entry.2.toJson = .error fault := by
  induction entries with
  | nil => cases failed
  | cons first rest ih =>
    obtain ⟨key, value⟩ := first
    rw [entriesToJson] at failed
    rcases bind_eq_error.1 failed with named | ⟨name, -, failed⟩
    · exact ⟨_, List.mem_cons_self, Or.inl named⟩
    rcases bind_eq_error.1 failed with first | ⟨json, -, failed⟩
    · exact ⟨_, List.mem_cons_self, Or.inr first⟩
    rcases bind_eq_error.1 failed with later | ⟨more, -, failed⟩
    · obtain ⟨inner, member, refused⟩ := ih later
      exact ⟨inner, List.mem_cons_of_mem _ member, refused⟩
    · cases failed

theorem exists_error_of_fieldsToJson {fields : List (String × Value)} {fault : Fault}
    (failed : fieldsToJson fields = .error fault) : ∃ field ∈ fields, field.2.toJson = .error fault := by
  induction fields with
  | nil => cases failed
  | cons first rest ih =>
    obtain ⟨name, value⟩ := first
    rw [fieldsToJson] at failed
    rcases bind_eq_error.1 failed with first | ⟨json, -, failed⟩
    · exact ⟨_, List.mem_cons_self, first⟩
    rcases bind_eq_error.1 failed with later | ⟨more, -, failed⟩
    · obtain ⟨inner, member, refused⟩ := ih later
      exact ⟨inner, List.mem_cons_of_mem _ member, refused⟩
    · cases failed

/-- A field of a dataclass that has been copied can be read, and copied itself. -/
theorem exists_ok_of_fieldsAsDict {fields : List (String × Except Fault Value)} {copies : List (Value × Value)}
    (copied : fieldsAsDict fields = .ok copies) :
    ∀ field ∈ fields, ∃ value copy, field.2 = .ok value ∧ value.asDict = .ok copy := by
  induction fields generalizing copies with
  | nil =>
    intro field member
    cases member
  | cons first rest ih =>
    obtain ⟨name, held⟩ := first
    cases held with
    | error fault => cases copied
    | ok value =>
      rw [fieldsAsDict] at copied
      obtain ⟨copy, first, copied⟩ := bind_eq_ok.1 copied
      obtain ⟨more, later, -⟩ := bind_eq_ok.1 copied
      exact List.forall_mem_cons.2 ⟨⟨value, copy, rfl, first⟩, ih later⟩

theorem exists_error_of_membersToJson {fields : List (String × Except Fault Value)} {fault : Fault}
    (failed : membersToJson fields = .error fault) :
    ∃ field ∈ fields, field.2 = .error fault ∨ ∃ value, field.2 = .ok value ∧ value.toJson = .error fault := by
  induction fields with
  | nil => cases failed
  | cons first rest ih =>
    obtain ⟨name, held⟩ := first
    cases held with
    | error other =>
      obtain rfl := Except.error.inj failed
      exact ⟨_, List.mem_cons_self, Or.inl rfl⟩
    | ok value =>
      rw [membersToJson] at failed
      rcases bind_eq_error.1 failed with first | ⟨json, -, failed⟩
      · exact ⟨_, List.mem_cons_self, Or.inr ⟨value, rfl, first⟩⟩
      rcases bind_eq_error.1 failed with later | ⟨more, -, failed⟩
      · obtain ⟨inner, member, refused⟩ := ih later
        exact ⟨inner, List.mem_cons_of_mem _ member, refused⟩
      · cases failed

/-- A dataclass is refused as it is copied, or for what stands in one of its fields. -/
theorem refused_of_dataclass {kind : String} {shownAs : List (List Char) → List Char}
    {fields : List (String × Except Fault Value)} {fault : Fault}
    (refused : (dataclass kind shownAs fields).toJson = .error fault) :
    fieldsAsDict fields = .error fault ∨ ∃ name value, (name, .ok value) ∈ fields ∧ value.toJson = .error fault := by
  rw [toJson] at refused
  rcases bind_eq_error.1 refused with uncopied | ⟨copies, copied, refused⟩
  · exact Or.inl uncopied
  rcases bind_eq_error.1 refused with failed | ⟨members, -, refused⟩
  · obtain ⟨⟨name, held⟩, member, side⟩ := exists_error_of_membersToJson failed
    rcases side with unread | ⟨value, same, inner⟩
    · obtain ⟨value, copy, same, -⟩ := exists_ok_of_fieldsAsDict copied _ member
      rw [unread] at same
      cases same
    · obtain rfl : held = .ok value := same
      exact Or.inr ⟨name, value, member, inner⟩
  · cases refused

theorem areWritable_eq_all (items : List Value) : areWritable items = items.all isWritable := by
  induction items with
  | nil => rfl
  | cons item rest ih => rw [areWritable, ih, List.all_cons]

theorem areWritableEntries_eq_all (entries : List (Value × Value)) :
    areWritableEntries entries = entries.all fun entry => entry.1.isWritable && entry.2.isWritable := by
  induction entries with
  | nil => rfl
  | cons entry rest ih => rw [areWritableEntries, ih, List.all_cons]

theorem areWritableFields_eq_all (fields : List (String × Value)) :
    areWritableFields fields = fields.all fun field => field.2.isWritable := by
  induction fields with
  | nil => rfl
  | cons field rest ih => rw [areWritableFields, ih, List.all_cons]

theorem exists_part_of_not_isWritable {value : Value} (refused : value.isWritable = false) :
    Flaw value .longInteger ∨ ∃ part ∈ value.parts, part.isWritable = false := by
  cases value with
  | int n =>
    rw [isWritable, Bool.not_eq_false'] at refused
    exact Or.inl (.longInteger refused)
  | list items | tuple items | set _ items =>
    rw [isWritable, areWritable_eq_all, List.all_eq_false] at refused
    obtain ⟨item, member, one⟩ := refused
    exact Or.inr ⟨item, member, Bool.eq_false_iff.2 one⟩
  | map entries =>
    rw [isWritable, areWritableEntries_eq_all, List.all_eq_false] at refused
    obtain ⟨entry, member, one⟩ := refused
    rw [Bool.not_eq_true, Bool.and_eq_false_iff] at one
    rcases one with key | value
    · exact Or.inr ⟨entry.1, key_mem_parts member, key⟩
    · exact Or.inr ⟨entry.2, value_mem_parts member, value⟩
  | record fields =>
    rw [isWritable, areWritableFields_eq_all, List.all_eq_false] at refused
    obtain ⟨field, member, one⟩ := refused
    exact Or.inr ⟨field.2, field_mem_parts member, Bool.eq_false_iff.2 one⟩
  | later part => exact Or.inr ⟨part (), List.mem_cons_self, refused⟩
  | null | bool _ | float _ | notANumber _ | text _ | bytes _ | date _ | moment _ | dataclass _ _ _ | again _ =>
    cases refused

/-- Whatever is shown with a value can be written if the value can. The fields of a dataclass need not be. -/
theorem isWritable_part {value part : Value} (writable : value.isWritable = true) (within : part ∈ value.parts)
    (other : ∀ kind shownAs fields, value ≠ .dataclass kind shownAs fields) : part.isWritable = true := by
  cases value with
  | dataclass => exact absurd rfl (other _ _ _)
  | list items | tuple items | set _ items =>
    rw [isWritable, areWritable_eq_all, List.all_eq_true] at writable
    exact writable part within
  | map entries =>
    rw [isWritable, areWritableEntries_eq_all, List.all_eq_true] at writable
    obtain ⟨entry, member, side⟩ := List.mem_flatMap.1 within
    have both := writable entry member
    rw [Bool.and_eq_true] at both
    rcases List.mem_pair.1 side with rfl | rfl
    · exact both.1
    · exact both.2
  | record fields =>
    rw [isWritable, areWritableFields_eq_all, List.all_eq_true] at writable
    obtain ⟨field, member, rfl⟩ := List.mem_map.1 within
    exact writable field member
  | later part => rwa [List.mem_singleton.1 within]
  | null | bool _ | int _ | float _ | notANumber _ | text _ | bytes _ | date _ | moment _ | again _ => cases within

theorem flawed_of_not_isWritable (value : Value) :
    value.isWritable = false → value.Flawed .longInteger := by
  induction value using inductionOnParts with
  | step value ih =>
    intro refused
    rcases exists_part_of_not_isWritable refused with flaw | ⟨part, within, refused⟩
    · exact flaw.flawed
    · exact .of_part within (ih part within refused)

/-- A value is refused for what it is, or for one of its parts. -/
theorem flaw_or_part_of_toJson {value : Value} {fault : Fault} (refused : value.toJson = .error fault) :
    value.Flawed fault ∨ ∃ part ∈ value.parts, part.toJson = .error fault := by
  cases value with
  | int n =>
    rw [toJson] at refused
    split at refused
    · rename_i long
      obtain rfl := Except.error.inj refused
      exact Or.inl (Flaw.longInteger long).flawed
    · cases refused
  | list items | tuple items =>
    rw [toJson] at refused
    exact Or.inr (exists_error_of_itemsToJson (map_eq_error.1 refused))
  | set frozen items =>
    rw [toJson] at refused
    split at refused
    · have one := mem_of_inOrder_error (map_eq_error.1 refused)
      exact Or.inr (mem_sorted_keyedToJson.1 one)
    · rename_i unwritten
      obtain rfl := Except.error.inj refused
      exact Or.inl (flawed_of_not_isWritable (.set frozen items) (Bool.eq_false_iff.2 unwritten))
  | map entries =>
    rw [toJson] at refused
    obtain ⟨entry, member, key | value⟩ := exists_error_of_entriesToJson (map_eq_error.1 refused)
    · rcases refused_of_keyText _ key with ⟨noName, rfl⟩ | ⟨rfl, long⟩
      · exact Or.inl (Flaw.badKey member noName).flawed
      · exact Or.inl (.of_part (key_mem_parts member) (flawed_of_not_isWritable _ long))
    · exact Or.inr ⟨entry.2, value_mem_parts member, value⟩
  | record fields =>
    rw [toJson] at refused
    obtain ⟨field, member, inner⟩ := exists_error_of_fieldsToJson (map_eq_error.1 refused)
    exact Or.inr ⟨field.2, field_mem_parts member, inner⟩
  | dataclass kind shownAs fields =>
    rcases refused_of_dataclass refused with uncopied | ⟨name, value, member, inner⟩
    · exact Or.inl (Flaw.uncopied uncopied).flawed
    · exact Or.inr ⟨value, member_mem_parts member, inner⟩
  | again copied =>
    obtain rfl := Except.error.inj refused
    cases copied with
    | false => exact Or.inl Flaw.circular.flawed
    | true => exact Or.inl Flaw.endless.flawed
  | later part => exact Or.inr ⟨part (), List.mem_cons_self, refused⟩
  | null | bool _ | float _ | notANumber _ | text _ | bytes _ | date _ | moment _ => cases refused

/-- What has no JSON form has a flaw at some depth, which is why. -/
theorem flawed_of_toJson (value : Value) {fault : Fault} :
    value.toJson = .error fault → value.Flawed fault := by
  induction value using inductionOnParts with
  | step value ih =>
    intro refused
    rcases flaw_or_part_of_toJson refused with flawed | ⟨part, within, refused⟩
    · exact flawed
    · exact .of_part within (ih part within refused)

theorem flawed_of_serialise {value : Value} {fault : Fault} (refused : value.serialise = .error fault) :
    value.Flawed fault :=
  flawed_of_toJson value (map_eq_error.1 refused)

theorem not_flawed_of_serialise {value : Value} {text : String} (written : value.serialise = .ok text)
    (fault : Fault) : ¬ value.Flawed fault := by
  obtain ⟨json, formed, -⟩ := map_eq_ok.1 written
  exact not_flawed_of_toJson formed fault

/-- A value is serialised exactly if no part of it stands in the way. -/
theorem serialise_ok_iff {value : Value} :
    (∃ text, value.serialise = .ok text) ↔ ∀ fault, ¬ value.Flawed fault := by
  constructor
  · rintro ⟨text, written⟩
    exact not_flawed_of_serialise written
  · intro sound
    cases outcome : value.serialise with
    | ok text => exact ⟨text, rfl⟩
    | error fault => exact absurd (flawed_of_serialise outcome) (sound fault)

end AssemblyInfo.Value

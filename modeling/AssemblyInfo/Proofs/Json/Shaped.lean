import AssemblyInfo.Proofs.Json.Flaw
import AssemblyInfo.Proofs.Json.Grammar
import AssemblyInfo.Value.Key

/-!
# Values in the shape of JSON

Nulls, flags, integers and texts, and lists and mappings of these whose keys are texts. Such a value is
written as a JSON text from which it comes back, so no two have one text. Only an integer that is too long
to be written stands in the way.
-/

namespace AssemblyInfo

namespace Value

/-- `value.IsJsonShaped` says that `value` is made of nulls, flags, integers and texts, lists, and mappings
with texts as keys, no two of which are the same. -/
inductive IsJsonShaped : Value → Prop
  | null : IsJsonShaped .null
  | bool (flag : Bool) : IsJsonShaped (.bool flag)
  | int (n : Int) : IsJsonShaped (.int n)
  | text (s : String) : IsJsonShaped (.text s)
  | list {items : List Value} (each : ∀ item ∈ items, IsJsonShaped item) : IsJsonShaped (.list items)
  | map {entries : List (Value × Value)} {names : List String}
      (named : entries.map (fun entry => entry.1.now) = names.map .text) (distinct : names.Nodup)
      (each : ∀ entry ∈ entries, IsJsonShaped entry.2) : IsJsonShaped (.map entries)
  | later {part : Unit → Value} (shaped : IsJsonShaped (part ())) : IsJsonShaped (.later part)

mutual

/-- `value.workedOut` is `value` with nothing in it left to be worked out. -/
def workedOut : Value → Value
  | .list items => .list (workedOutItems items)
  | .tuple items => .tuple (workedOutItems items)
  | .set frozen items => .set frozen (workedOutItems items)
  | .map entries => .map (workedOutEntries entries)
  | .record fields => .record (workedOutFields fields)
  | .dataclass kind shownAs fields => .dataclass kind shownAs (workedOutMembers fields)
  | .later part => (part ()).workedOut
  | value => value

def workedOutItems : List Value → List Value
  | [] => []
  | item :: rest => item.workedOut :: workedOutItems rest

def workedOutEntries : List (Value × Value) → List (Value × Value)
  | [] => []
  | (key, value) :: rest => (key.workedOut, value.workedOut) :: workedOutEntries rest

def workedOutFields : List (String × Value) → List (String × Value)
  | [] => []
  | (name, value) :: rest => (name, value.workedOut) :: workedOutFields rest

def workedOutMembers : List (String × Except Fault Value) → List (String × Except Fault Value)
  | [] => []
  | (name, .ok value) :: rest => (name, .ok value.workedOut) :: workedOutMembers rest
  | (name, .error fault) :: rest => (name, .error fault) :: workedOutMembers rest

end

theorem workedOut_of_now {s : String} : ∀ value : Value, value.now = .text s → value.workedOut = .text s
  | .later part => fun same => workedOut_of_now (part ()) same
  | .text _ => fun same => same
  | .null | .bool _ | .int _ | .float _ | .notANumber _ | .bytes _ | .date _ | .moment _ | .list _ | .tuple _
  | .set .. | .map _ | .record _ | .dataclass .. | .again _ => nofun

theorem keyText_of_now {s : String} : ∀ key : Value, key.now = .text s → Json.keyText key = .ok s
  | .later part => fun same => keyText_of_now (part ()) same
  | .text _ => fun same => congrArg Except.ok (text.inj same)
  | .null | .bool _ | .int _ | .float _ | .notANumber _ | .bytes _ | .date _ | .moment _ | .list _ | .tuple _
  | .set .. | .map _ | .record _ | .dataclass .. | .again _ => nofun

theorem isJsonShaped_of_now {s : String} : ∀ value : Value, value.now = .text s → value.IsJsonShaped
  | .later part => fun same => .later (isJsonShaped_of_now (part ()) same)
  | .text s => fun _ => .text s
  | .null | .bool _ | .int _ | .float _ | .notANumber _ | .bytes _ | .date _ | .moment _ | .list _ | .tuple _
  | .set .. | .map _ | .record _ | .dataclass .. | .again _ => nofun

/-! ### Mappings -/

theorem putEntry_of_absent {name : String} {members : List (String × Value)} (absent : name ∉ members.map Prod.fst)
    (value : Value) :
    putEntry (.text name) value (members.map fun member => (.text member.1, member.2)) =
      (members ++ [(name, value)]).map fun member => (.text member.1, member.2) := by
  induction members with
  | nil => rfl
  | cons first rest ih =>
    rw [List.map_cons, List.mem_cons, not_or] at absent
    have other : ¬ (Value.text first.1).key = (Value.text name).key := by
      intro same
      exact absent.1 (KeyPart.text.inj (List.cons.inj same).1).symm
    rw [List.map_cons, putEntry, if_neg other, ih absent.2]
    rfl

/-- Names that are all different are set one after the other. -/
theorem mapOf_of_nodup {members : List (String × Value)} (distinct : (members.map Prod.fst).Nodup) :
    mapOf (members.map fun member => (.text member.1, member.2)) =
      .map (members.map fun member => (.text member.1, member.2)) := by
  have onto : ∀ done : List (String × Value), ((done ++ members).map Prod.fst).Nodup →
      (members.map fun member => (Value.text member.1, member.2)).foldl
          (fun entries pair => putEntry pair.1 pair.2 entries) (done.map fun member => (.text member.1, member.2)) =
        (done ++ members).map fun member => (.text member.1, member.2) := by
    clear distinct
    induction members with
    | nil => simp
    | cons member rest ih =>
      intro done distinct
      have absent : member.1 ∉ done.map Prod.fst := by
        rw [List.map_append, List.map_cons, List.nodup_append] at distinct
        intro present
        exact distinct.2.2 _ present _ List.mem_cons_self rfl
      have shifted : done ++ member :: rest = (done ++ [member]) ++ rest := by simp
      rw [shifted] at distinct ⊢
      rw [List.map_cons, List.foldl_cons, putEntry_of_absent absent]
      exact ih (done ++ [member]) distinct
  exact congrArg Value.map (onto [] distinct)

end Value

namespace Json

mutual

/-- `json.toValue` is the value that a decoder makes of `json`: objects become mappings, in which the last
value under a name counts. -/
def toValue : Json → Value
  | .null => .null
  | .bool flag => .bool flag
  | .int n => .int n
  | .float x => .float x
  | .text s => .text s
  | .array items => .list (toValues items)
  | .object members => .mapOf ((toMembers members).map fun member => (.text member.1, member.2))

def toValues : List Json → List Value
  | [] => []
  | item :: rest => item.toValue :: toValues rest

def toMembers : List (String × Json) → List (String × Value)
  | [] => []
  | (name, value) :: rest => (name, value.toValue) :: toMembers rest

end

end Json

namespace Value

/-! ### Written and read back -/

/-- `value.ComesBack` says that a decoder makes `value` of every JSON form of it. -/
def ComesBack (value : Value) : Prop :=
  ∀ json, value.toJson = .ok json → json.isExact = true ∧ json.toValue = value.workedOut

theorem itemsToJson_comeBack {items : List Value} {jsons : List Json} (each : ∀ item ∈ items, item.ComesBack)
    (formed : itemsToJson items = .ok jsons) :
    Json.isExact.areExact jsons = true ∧ Json.toValues jsons = workedOutItems items := by
  induction items generalizing jsons with
  | nil =>
    obtain rfl := Except.ok.inj formed
    exact ⟨rfl, rfl⟩
  | cons item rest ih =>
    rw [List.forall_mem_cons] at each
    rw [itemsToJson] at formed
    obtain ⟨json, first, formed⟩ := bind_eq_ok.1 formed
    obtain ⟨more, later, formed⟩ := bind_eq_ok.1 formed
    obtain rfl := Except.ok.inj formed
    obtain ⟨exact, back⟩ := each.1 json first
    obtain ⟨exactRest, backRest⟩ := ih each.2 later
    exact ⟨by rw [Json.isExact.areExact, exact, exactRest]; rfl, by rw [Json.toValues, back, backRest, workedOutItems]⟩

theorem entriesToJson_comeBack {entries : List (Value × Value)} {names : List String}
    {members : List (String × Json)} (named : entries.map (fun entry => entry.1.now) = names.map .text)
    (each : ∀ entry ∈ entries, entry.2.ComesBack) (formed : entriesToJson entries = .ok members) :
    Json.isExact.areExactMembers members = true ∧ (Json.toMembers members).map Prod.fst = names ∧
      (Json.toMembers members).map (fun member => (.text member.1, member.2)) = workedOutEntries entries := by
  induction entries generalizing names members with
  | nil =>
    obtain rfl := Except.ok.inj formed
    exact ⟨rfl, (List.map_eq_nil_iff.1 named.symm).symm, rfl⟩
  | cons entry rest ih =>
    obtain ⟨key, value⟩ := entry
    obtain ⟨name, names, rfl⟩ := List.exists_cons_of_ne_nil (l := names) (by rintro rfl; cases named)
    rw [List.map_cons, List.map_cons, List.cons.injEq] at named
    rw [List.forall_mem_cons] at each
    rw [entriesToJson, keyText_of_now key named.1, ok_bind] at formed
    obtain ⟨json, first, formed⟩ := bind_eq_ok.1 formed
    obtain ⟨more, later, formed⟩ := bind_eq_ok.1 formed
    obtain rfl := Except.ok.inj formed
    obtain ⟨exact, back⟩ := each.1 json first
    obtain ⟨exactRest, namesRest, backRest⟩ := ih named.2 each.2 later
    refine ⟨?_, ?_, ?_⟩
    · rw [Json.isExact.areExactMembers, exact, exactRest]
      rfl
    · rw [Json.toMembers, List.map_cons, namesRest]
    · rw [Json.toMembers, List.map_cons, backRest, workedOutEntries, back, workedOut_of_now key named.1]

theorem IsJsonShaped.comesBack {value : Value} : value.IsJsonShaped → value.ComesBack := by
  induction value using inductionOnParts with
  | step value ih =>
    intro shaped json formed
    cases shaped with
    | null | bool flag | text s =>
      obtain rfl := Except.ok.inj formed
      exact ⟨rfl, rfl⟩
    | int n =>
      rw [toJson] at formed
      split at formed
      · cases formed
      · obtain rfl := Except.ok.inj formed
        exact ⟨rfl, rfl⟩
    | @list items each =>
      rw [toJson] at formed
      obtain ⟨jsons, all, rfl⟩ := map_eq_ok.1 formed
      have comeBack : ∀ item ∈ items, item.ComesBack := fun item member => ih item member (each item member)
      obtain ⟨exact, back⟩ := itemsToJson_comeBack comeBack all
      exact ⟨exact, by rw [Json.toValue, back, workedOut]⟩
    | map named distinct each =>
      rw [toJson] at formed
      obtain ⟨members, all, rfl⟩ := map_eq_ok.1 formed
      obtain ⟨exact, names, back⟩ := entriesToJson_comeBack named
        (fun entry member => ih entry.2 (value_mem_parts member) (each entry member)) all
      refine ⟨exact, ?_⟩
      rw [Json.toValue, mapOf_of_nodup (by rw [names]; exact distinct), back, workedOut]
    | later shaped =>
      exact ih _ List.mem_cons_self shaped json formed

/-! ### What stands in the way -/

theorem exists_text_of_named {entries : List (Value × Value)} {names : List String}
    (named : entries.map (fun entry => entry.1.now) = names.map .text) {entry : Value × Value}
    (member : entry ∈ entries) : ∃ name, entry.1.now = .text name := by
  have key : entry.1.now ∈ names.map .text := by
    rw [← named]
    exact List.mem_map_of_mem (f := fun entry => entry.1.now) member
  obtain ⟨name, -, same⟩ := List.mem_map.1 key
  exact ⟨name, same.symm⟩

theorem IsJsonShaped.part {value part : Value} (shaped : value.IsJsonShaped) (within : part ∈ value.parts) :
    part.IsJsonShaped := by
  cases shaped with
  | null | bool _ | int _ | text _ => cases within
  | list each => exact each part within
  | map named distinct each =>
    obtain ⟨entry, member, side⟩ := List.mem_flatMap.1 within
    rcases List.mem_pair.1 side with rfl | rfl
    · obtain ⟨name, same⟩ := exists_text_of_named named member
      exact isJsonShaped_of_now _ same
    · exact each entry member
  | later shaped =>
    rw [List.mem_singleton.1 within]
    exact shaped

/-- What stands in a value in the shape of JSON is in that shape, and can be written if the value can. -/
theorem IsJsonShaped.holds {value part : Value} (shaped : value.IsJsonShaped) (holds : value.Holds part) :
    part.IsJsonShaped ∧ (value.isWritable = true → part.isWritable = true) := by
  induction holds with
  | refl => exact ⟨shaped, id⟩
  | tail _ within ih =>
    obtain ⟨outer, writable⟩ := ih
    refine ⟨outer.part within, fun whole => isWritable_part (writable whole) within ?_⟩
    rintro kind shownAs fields rfl
    cases outer

/-- Only an integer that is too long is a flaw of a value in the shape of JSON. -/
theorem IsJsonShaped.flawed {value : Value} (shaped : value.IsJsonShaped) {fault : Fault}
    (flawed : value.Flawed fault) : fault = .longInteger ∧ value.isWritable = false := by
  obtain ⟨part, holds, flaw⟩ := flawed
  obtain ⟨inner, writable⟩ := shaped.holds holds
  cases flaw with
  | circular | endless | uncopied _ => cases inner
  | badKey member noName =>
    cases inner with
    | map named distinct each =>
      obtain ⟨name, same⟩ := exists_text_of_named named member
      rw [isName_of_keyText _ (keyText_of_now _ same)] at noName
      cases noName
  | longInteger long =>
    refine ⟨rfl, Bool.eq_false_iff.2 fun whole => ?_⟩
    have short := writable whole
    rw [isWritable, long] at short
    cases short

theorem IsJsonShaped.read?_of_serialise {value : Value} (shaped : value.IsJsonShaped) {text : String}
    (written : value.serialise = .ok text) :
    Json.IsItem text.toList ∧ (Json.read? text).map Json.toValue = some value.workedOut := by
  obtain ⟨json, formed, rfl⟩ := map_eq_ok.1 written
  obtain ⟨exact, back⟩ := shaped.comesBack json formed
  refine ⟨?_, ?_⟩
  · rw [String.toList_ofList]
    exact (Json.isValue_compact json exact).isItem
  · rw [Json.read?_compact exact, Option.map_some, back]

/-- A value in the shape of JSON whose integers can all be written is written as a JSON text, from which a
decoder gets it back. So no two such values have one text. An integer that cannot be written is why the
value cannot be. -/
theorem serialise_jsonShaped {value : Value} (shaped : value.IsJsonShaped) :
    (value.isWritable = true → ∃ text, value.serialise = .ok text ∧ Json.IsItem text.toList ∧
      (Json.read? text).map Json.toValue = some value.workedOut ∧
      ∀ other : Value, other.IsJsonShaped → other.serialise = .ok text → other.workedOut = value.workedOut) ∧
    (value.isWritable = false → value.serialise = .error .longInteger) := by
  cases outcome : value.serialise with
  | error fault =>
    obtain ⟨rfl, unwritable⟩ := shaped.flawed (flawed_of_serialise outcome)
    refine ⟨fun writable => ?_, fun _ => rfl⟩
    rw [unwritable] at writable
    cases writable
  | ok text =>
    obtain ⟨isItem, back⟩ := shaped.read?_of_serialise outcome
    refine ⟨fun _ => ⟨text, rfl, isItem, back, fun other otherShaped same => ?_⟩, fun unwritable => ?_⟩
    · have otherBack := (otherShaped.read?_of_serialise same).2
      rw [back] at otherBack
      exact (Option.some.inj otherBack).symm
    · exact absurd (flawed_of_not_isWritable value unwritable) (not_flawed_of_serialise outcome _)

/-- A mapping with an escaped name, and a list with a part that is worked out later. -/
def nested : Value :=
  .map [(.text "a\"b\n😀", .list [.int (-70), .later fun _ => .text "[\\", .bool true, .null]),
    (.text "", .map [])]

theorem isJsonShaped_nested : nested.IsJsonShaped := by
  refine @IsJsonShaped.map _ ["a\"b\n😀", ""] rfl (by decide) ?_
  have items : ∀ item ∈ [int (-70), later fun _ => text "[\\", bool true, null], item.IsJsonShaped := by
    simp only [List.forall_mem_cons]
    exact ⟨.int _, .later (.text _), .bool _, .null, List.forall_mem_nil _⟩
  simp only [List.forall_mem_cons]
  exact ⟨.list items, @IsJsonShaped.map _ [] rfl List.nodup_nil (List.forall_mem_nil _), List.forall_mem_nil _⟩

theorem serialise_jsonShaped_nested :
    nested.IsJsonShaped ∧ nested.isWritable = true ∧
      ∃ text, nested.serialise = .ok text ∧ (Json.read? text).map Json.toValue = some nested.workedOut := by
  have writable : nested.isWritable = true := by decide +kernel
  obtain ⟨text, written, -, back, -⟩ := (serialise_jsonShaped isJsonShaped_nested).1 writable
  exact ⟨isJsonShaped_nested, writable, text, written, back⟩

/-- An integer of 4302 digits is in the shape of JSON, but cannot be written. -/
theorem serialise_longInteger :
    (Value.int (.ofNat (Nat.pow 16 3572))).IsJsonShaped ∧
      (Value.int (.ofNat (Nat.pow 16 3572))).serialise = .error .longInteger := by
  have long : Decimal.isLong (Int.ofNat (Nat.pow 16 3572)).natAbs = true := by decide +kernel
  refine ⟨.int _, ?_⟩
  rw [serialise, toJson, if_pos long]
  rfl

end Value

end AssemblyInfo

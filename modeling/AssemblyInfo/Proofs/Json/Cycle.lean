import AssemblyInfo.Proofs.Json.Copy
import Mathlib.Data.Finset.BooleanAlgebra
import Mathlib.Data.Fintype.Card

/-!
# Values that contain themselves

Values as they lie in memory: a collection names the places of its parts, so that several collections may
have one part, and a collection may be a part of itself. Written out from one place, such a value is cut
where it would start again. It is serialised exactly if nothing that the place leads to contains itself, is
a mapping with a key that is no name, holds an integer that is too long to be written, or is a dataclass
with a field that cannot be read or copied.
-/

namespace AssemblyInfo

/-- `value.isLeaf` says that `value` has no parts. -/
def Value.isLeaf : Value → Bool
  | .null | .bool _ | .int _ | .float _ | .notANumber _ | .text _ | .bytes _ | .date _ | .moment _ => true
  | _ => false

/-- What stands at a place: a value without parts, or a collection of what stands at other places. The keys
of a mapping stand in it, and so does what is wrong with the fields of a dataclass. -/
inductive Cell (ι : Type) where
  | leaf (value : Value) (alone : value.isLeaf = true)
  | list (items : List ι)
  | tuple (items : List ι)
  | set (frozen : Bool) (items : List ι)
  | map (entries : List (Value × ι))
  | record (fields : List (String × ι))
  | dataclass (kind : String) (shownAs : List (List Char) → List Char) (fields : List (String × Except Fault ι))

namespace Cell

variable {ι : Type}

/-- `cell.places` is where the parts of `cell` stand. -/
def places : Cell ι → List ι
  | leaf .. => []
  | list items | tuple items | set _ items => items
  | map entries => entries.map Prod.snd
  | record fields => fields.map Prod.snd
  | dataclass _ _ fields => fields.filterMap fun field => field.2.toOption

/-- `cell.value below` is the value of `cell`, where `below` gives the values at other places. -/
def value (below : ι → Value) : Cell ι → Value
  | leaf value .. => value
  | list items => .list (items.map below)
  | tuple items => .tuple (items.map below)
  | set frozen items => .set frozen (items.map below)
  | map entries => .map (entries.map fun entry => (entry.1, below entry.2))
  | record fields => .record (fields.map fun field => (field.1, below field.2))
  | dataclass kind shownAs fields => .dataclass kind shownAs (fields.map fun field => (field.1, field.2.map below))

def isDataclass : Cell ι → Bool
  | dataclass .. => true
  | _ => false

/-- `cell.Bars fault` says that what stands in `cell` itself has no JSON form because of `fault`. -/
inductive Bars : Cell ι → Fault → Prop
  | badKey {entries : List (Value × ι)} {entry : Value × ι} (member : entry ∈ entries)
      (noName : entry.1.isName = false) : Bars (map entries) (.badKey entry.1.kind)
  | longKey {entries : List (Value × ι)} {entry : Value × ι} (member : entry ∈ entries)
      (long : entry.1.isWritable = false) : Bars (map entries) .longInteger
  | longInteger {n : Int} {alone : (Value.int n).isLeaf = true} (long : Decimal.isLong n.natAbs = true) :
      Bars (leaf (.int n) alone) .longInteger
  | unread {kind name : String} {shownAs : List (List Char) → List Char} {fields : List (String × Except Fault ι)}
      {fault : Fault} (member : (name, .error fault) ∈ fields) : Bars (dataclass kind shownAs fields) fault

/-- `cell.BarsCopy fault` says that `cell` is a mapping that cannot be copied because of a key. -/
inductive BarsCopy : Cell ι → Fault → Prop
  | key {entries : List (Value × ι)} {entry : Value × ι} {fault : Fault} (member : entry ∈ entries)
      (refused : entry.1.asDict.bind Value.asKey = .error fault) : BarsCopy (map entries) fault

/-! ### What stands in the way -/

theorem key_mem_parts {entries : List (Value × ι)} {entry : Value × ι} {below : ι → Value}
    (member : entry ∈ entries) : entry.1 ∈ ((map entries).value below).parts :=
  Value.key_mem_parts (List.mem_map_of_mem (f := fun entry => (entry.1, below entry.2)) member)

theorem below_mem_parts {cell : Cell ι} {below : ι → Value} {place : ι} (part : place ∈ cell.places) :
    below place ∈ (cell.value below).parts := by
  cases cell with
  | leaf => cases part
  | list items | tuple items | set frozen items => exact List.mem_map_of_mem part
  | map entries =>
    obtain ⟨entry, member, rfl⟩ := List.mem_map.1 part
    exact Value.value_mem_parts (List.mem_map_of_mem (f := fun entry => (entry.1, below entry.2)) member)
  | record fields =>
    obtain ⟨field, member, rfl⟩ := List.mem_map.1 part
    exact Value.field_mem_parts (List.mem_map_of_mem (f := fun field => (field.1, below field.2)) member)
  | dataclass kind shownAs fields =>
    obtain ⟨⟨name, held⟩, member, same⟩ := List.mem_filterMap.1 part
    obtain rfl := eq_ok_of_toOption same
    exact Value.member_mem_parts (List.mem_map_of_mem (f := fun field => (field.1, field.2.map below)) member)

theorem Bars.exists_flawed {cell : Cell ι} {fault : Fault} (barred : cell.Bars fault) (below : ι → Value) :
    ∃ other, (cell.value below).Flawed other := by
  cases barred with
  | @badKey entries entry member noName =>
    have inside := List.mem_map_of_mem (f := fun entry => (entry.1, below entry.2)) member
    exact ⟨_, (Value.Flaw.badKey inside noName).flawed⟩
  | longKey member long => exact ⟨_, .of_part (key_mem_parts member) (Value.flawed_of_not_isWritable _ long)⟩
  | longInteger long => exact ⟨_, (Value.Flaw.longInteger long).flawed⟩
  | @unread kind shownAs name fields fault member =>
    have inside := List.mem_map_of_mem (f := fun field => (field.1, field.2.map below)) member
    cases copied : Value.fieldsAsDict (fields.map fun field => (field.1, field.2.map below)) with
    | error other => exact ⟨other, (Value.Flaw.uncopied copied).flawed⟩
    | ok copies =>
      obtain ⟨value, copy, same, -⟩ := Value.exists_ok_of_fieldsAsDict copied _ inside
      cases same

theorem BarsCopy.exists_flawed {cell : Cell ι} {fault : Fault} (barred : cell.BarsCopy fault) (below : ι → Value) :
    ∃ other, (cell.value below).Flawed other := by
  cases barred with
  | key member refused => exact Bars.exists_flawed (.badKey member (Value.not_isName_of_asKey refused)) below

/-! ### Where a fault comes from -/

/-- `cell.Passes below fault` says that `cell` is refused because of `fault` for one of its parts: as it is
written, as it is shown to be sorted, or as a dataclass is copied. -/
inductive Passes (cell : Cell ι) (below : ι → Value) : Fault → Prop
  | written {place : ι} {fault : Fault} (part : place ∈ cell.places)
      (refused : (below place).toJson = .error fault) : cell.Passes below fault
  | shown {place : ι} (part : place ∈ cell.places) (long : (below place).isWritable = false) :
      cell.Passes below .longInteger
  | copied {place : ι} {fault : Fault} (dataclass : cell.isDataclass = true) (part : place ∈ cell.places)
      (refused : (below place).asDict = .error fault) : cell.Passes below fault

section Refusal

variable {cell : Cell ι} {below : ι → Value}

theorem bars_or_part_of_not_isWritable (refused : (cell.value below).isWritable = false) :
    cell.Bars .longInteger ∨ ∃ place ∈ cell.places, (below place).isWritable = false := by
  cases cell with
  | leaf value alone =>
    cases value with
    | int n =>
      rw [value, Value.isWritable, Bool.not_eq_false'] at refused
      exact Or.inl (.longInteger refused)
    | null | bool | float | notANumber | text | bytes | date | moment => cases refused
    | list | tuple | set | map | record | dataclass | again | later => cases alone
  | list items | tuple items | set frozen items =>
    rw [value, Value.isWritable, Value.areWritable_eq_all, List.all_map, List.all_eq_false] at refused
    obtain ⟨place, part, long⟩ := refused
    exact Or.inr ⟨place, part, Bool.eq_false_iff.2 long⟩
  | map entries =>
    rw [value, Value.isWritable, Value.areWritableEntries_eq_all, List.all_map, List.all_eq_false] at refused
    obtain ⟨entry, member, long⟩ := refused
    rw [Function.comp_apply, Bool.not_eq_true, Bool.and_eq_false_iff] at long
    rcases long with key | part
    · exact Or.inl (.longKey member key)
    · exact Or.inr ⟨entry.2, List.mem_map_of_mem member, part⟩
  | record fields =>
    rw [value, Value.isWritable, Value.areWritableFields_eq_all, List.all_map, List.all_eq_false] at refused
    obtain ⟨field, member, long⟩ := refused
    exact Or.inr ⟨field.2, List.mem_map_of_mem member, Bool.eq_false_iff.2 long⟩
  | dataclass => cases refused

/-- A field of a dataclass that is not copied cannot be read, or what stands in it is not copied. -/
theorem bars_or_part_of_fieldsAsDict {kind : String} {shownAs : List (List Char) → List Char}
    {fields : List (String × Except Fault ι)} {fault : Fault}
    (refused : Value.fieldsAsDict (fields.map fun field => (field.1, field.2.map below)) = .error fault) :
    (dataclass kind shownAs fields).Bars fault ∨
      ∃ place ∈ (dataclass kind shownAs fields).places, (below place).asDict = .error fault := by
  obtain ⟨field, member, side⟩ := Value.exists_error_of_fieldsAsDict refused
  obtain ⟨⟨name, held⟩, here, rfl⟩ := List.mem_map.1 member
  rcases side with unread | ⟨value, same, uncopied⟩
  · obtain rfl : held = .error fault := map_eq_error.1 unread
    exact Or.inl (.unread here)
  · obtain ⟨place, rfl, rfl⟩ := map_eq_ok.1 same
    exact Or.inr ⟨place, List.mem_filterMap.2 ⟨_, here, rfl⟩, uncopied⟩

theorem bars_or_part_of_asDict {fault : Fault} (refused : (cell.value below).asDict = .error fault) :
    cell.Bars fault ∨ cell.BarsCopy fault ∨ ∃ place ∈ cell.places, (below place).asDict = .error fault := by
  cases cell with
  | leaf value alone =>
    cases value with
    | null | bool | int | float | notANumber | text | bytes | date | moment => cases refused
    | list | tuple | set | map | record | dataclass | again | later => cases alone
  | list items | tuple items =>
    obtain ⟨item, member, inner⟩ := Value.exists_error_of_itemsAsDict (map_eq_error.1 refused)
    obtain ⟨place, part, rfl⟩ := List.mem_map.1 member
    exact Or.inr (Or.inr ⟨place, part, inner⟩)
  | set | record => cases refused
  | map entries =>
    obtain ⟨entry, member, side⟩ := Value.exists_error_of_entriesAsDict (map_eq_error.1 refused)
    obtain ⟨inside, here, rfl⟩ := List.mem_map.1 member
    rcases side with key | part
    · exact Or.inr (Or.inl (.key here key))
    · exact Or.inr (Or.inr ⟨inside.2, List.mem_map_of_mem here, part⟩)
  | dataclass kind shownAs fields =>
    rcases bars_or_part_of_fieldsAsDict (map_eq_error.1 refused) with barred | part
    · exact Or.inl barred
    · exact Or.inr (Or.inr part)

/-- A key is refused for what it is, or for an integer in it. -/
theorem bars_of_keyText {entries : List (Value × ι)} {entry : Value × ι} (member : entry ∈ entries)
    {fault : Fault} (refused : Json.keyText entry.1 = .error fault) : (map entries).Bars fault := by
  rcases Value.refused_of_keyText _ refused with ⟨noName, rfl⟩ | ⟨rfl, long⟩
  · exact .badKey member noName
  · exact .longKey member long

theorem bars_or_passes_of_toJson {fault : Fault} (refused : (cell.value below).toJson = .error fault) :
    cell.Bars fault ∨ cell.Passes below fault := by
  cases cell with
  | leaf value alone =>
    cases value with
    | int n =>
      rw [value, Value.toJson] at refused
      split at refused
      · rename_i long
        obtain rfl := Except.error.inj refused
        exact Or.inl (.longInteger long)
      · cases refused
    | null | bool | float | notANumber | text | bytes | date | moment => cases refused
    | list | tuple | set | map | record | dataclass | again | later => cases alone
  | list items | tuple items =>
    rw [value, Value.toJson] at refused
    obtain ⟨item, member, inner⟩ := Value.exists_error_of_itemsToJson (map_eq_error.1 refused)
    obtain ⟨place, part, rfl⟩ := List.mem_map.1 member
    exact Or.inr (.written part inner)
  | set frozen items =>
    rw [value, Value.toJson] at refused
    split at refused
    · have one := Value.mem_of_inOrder_error (map_eq_error.1 refused)
      obtain ⟨item, member, inner⟩ := Value.mem_sorted_keyedToJson.1 one
      obtain ⟨place, part, rfl⟩ := List.mem_map.1 member
      exact Or.inr (.written part inner)
    · rename_i unwritten
      obtain rfl := Except.error.inj refused
      rcases @bars_or_part_of_not_isWritable _ (.set frozen items) below (Bool.eq_false_iff.2 unwritten) with
        barred | ⟨place, part, long⟩
      · exact Or.inl barred
      · exact Or.inr (.shown part long)
  | map entries =>
    rw [value, Value.toJson] at refused
    obtain ⟨entry, member, side⟩ := Value.exists_error_of_entriesToJson (map_eq_error.1 refused)
    obtain ⟨inside, here, rfl⟩ := List.mem_map.1 member
    rcases side with key | part
    · exact Or.inl (bars_of_keyText here key)
    · exact Or.inr (.written (List.mem_map_of_mem here) part)
  | record fields =>
    rw [value, Value.toJson] at refused
    obtain ⟨field, member, inner⟩ := Value.exists_error_of_fieldsToJson (map_eq_error.1 refused)
    obtain ⟨inside, here, rfl⟩ := List.mem_map.1 member
    exact Or.inr (.written (List.mem_map_of_mem here) inner)
  | dataclass kind shownAs fields =>
    rcases Value.refused_of_dataclass refused with uncopied | ⟨name, part, member, inner⟩
    · rcases @bars_or_part_of_fieldsAsDict _ _ kind shownAs _ _ uncopied with barred | ⟨place, part, uncopied⟩
      · exact Or.inl barred
      · exact Or.inr (.copied rfl part uncopied)
    · obtain ⟨⟨name, held⟩, here, same⟩ := List.mem_map.1 member
      obtain ⟨place, rfl, rfl⟩ := map_eq_ok.1 (congrArg Prod.snd same)
      exact Or.inr (.written (List.mem_filterMap.2 ⟨_, here, rfl⟩) inner)

end Refusal

end Cell

/-! ### Heaps -/

/-- What stands at every place. -/
def Heap (ι : Type) := ι → Cell ι

namespace Heap

variable {ι : Type}

/-- `heap.HasPart outer inner` says that what stands at `inner` is a part of what stands at `outer`. -/
def HasPart (heap : Heap ι) (outer inner : ι) : Prop :=
  inner ∈ (heap outer).places

/-- `heap.HasPlainPart outer inner` says that what stands at `inner` is a part of what stands at `outer`, which
is no dataclass. -/
def HasPlainPart (heap : Heap ι) (outer inner : ι) : Prop :=
  (heap outer).isDataclass = false ∧ heap.HasPart outer inner

/-- `heap.Leads place inner` says that `inner` is `place`, or stands in it at whatever depth. -/
def Leads (heap : Heap ι) : ι → ι → Prop :=
  Relation.ReflTransGen heap.HasPart

/-- `heap.ContainsItself place` says that what stands at `place` stands in itself at some depth. -/
def ContainsItself (heap : Heap ι) (place : ι) : Prop :=
  Relation.TransGen heap.HasPart place place

/-- `heap.IsCopied place` says that what stands at `place` is a part of a dataclass at some depth, or is one. -/
def IsCopied (heap : Heap ι) (place : ι) : Prop :=
  ∃ outer, (heap outer).isDataclass = true ∧ heap.Leads outer place

/-- `heap.Bars place fault` says that what stands at `place` is refused because of `fault`: it contains itself,
or its cell stands in the way. What contains itself is found as it is written, unless it is copied first,
which has no end. -/
inductive Bars (heap : Heap ι) (place : ι) : Fault → Prop
  | circular (itself : Relation.TransGen heap.HasPlainPart place place) : heap.Bars place .circular
  | endless (copied : heap.IsCopied place) (itself : heap.ContainsItself place) : heap.Bars place .endless
  | cell {fault : Fault} (barred : (heap place).Bars fault) : heap.Bars place fault
  | key {fault : Fault} (copied : heap.IsCopied place) (barred : (heap place).BarsCopy fault) :
      heap.Bars place fault

/-- `heap.copiedIn around copied place` is the places whose ways back lead through a dataclass, once `place`
has been entered: they are `copied`, or all of those `around` if a dataclass stands at `place`. -/
def copiedIn [DecidableEq ι] (heap : Heap ι) (around copied : Finset ι) (place : ι) : Finset ι :=
  if (heap place).isDataclass then insert place around else copied

/-- `heap.valueAt around copied place` is the value at `place` within the collections at the places `around`, of
which those `copied` lie around a dataclass. -/
def valueAt [Fintype ι] [DecidableEq ι] (heap : Heap ι) (around copied : Finset ι) (place : ι) : Value :=
  if _ : place ∈ around then .again (decide (place ∈ copied))
  else (heap place).value fun inner => heap.valueAt (insert place around) (heap.copiedIn around copied place) inner
termination_by aroundᶜ.card
decreasing_by
  rename_i other
  exact Finset.card_lt_card (Finset.compl_ssubset_compl.2 (Finset.ssubset_insert other))

theorem leads_barred {heap : Heap ι} {place inner : ι} {fault : Fault} (part : heap.HasPart place inner)
    (barred : ∃ reached, heap.Leads inner reached ∧ heap.Bars reached fault) :
    ∃ reached, heap.Leads place reached ∧ heap.Bars reached fault := by
  obtain ⟨reached, leads, bars⟩ := barred
  exact ⟨reached, .head part leads, bars⟩

theorem IsCopied.part {heap : Heap ι} {place inner : ι} (copied : heap.IsCopied place)
    (part : heap.HasPart place inner) : heap.IsCopied inner := by
  obtain ⟨outer, dataclass, leads⟩ := copied
  exact ⟨outer, dataclass, leads.tail part⟩

/-- `heap.Entered around copied place` says that the places `around` lead to `place`, those that are not `copied`
through no dataclass, and that a dataclass leads to `place` if some are. -/
structure Entered (heap : Heap ι) (around copied : Finset ι) (place : ι) : Prop where
  leads : ∀ outer ∈ around, Relation.TransGen heap.HasPart outer place
  plainly : ∀ outer ∈ around, outer ∉ copied → Relation.TransGen heap.HasPlainPart outer place
  inCopy : copied.Nonempty → heap.IsCopied place

theorem entered_empty (heap : Heap ι) (place : ι) : heap.Entered ∅ ∅ place where
  leads outer member := absurd member (Finset.notMem_empty outer)
  plainly outer member := absurd member (Finset.notMem_empty outer)
  inCopy some := absurd some Finset.not_nonempty_empty

theorem Entered.part [DecidableEq ι] {heap : Heap ι} {around copied : Finset ι} {place inner : ι}
    (entered : heap.Entered around copied place) (part : heap.HasPart place inner) :
    heap.Entered (insert place around) (heap.copiedIn around copied place) inner := by
  have leads : ∀ outer ∈ insert place around, Relation.TransGen heap.HasPart outer inner := by
    intro outer member
    rcases Finset.mem_insert.1 member with rfl | before
    · exact .single part
    · exact (entered.leads outer before).tail part
  cases kind : (heap place).isDataclass with
  | true =>
    rw [copiedIn, kind, if_pos rfl]
    refine ⟨leads, fun outer member other => absurd member other, fun _ => ?_⟩
    exact ⟨place, kind, .single part⟩
  | false =>
    rw [copiedIn, kind, if_neg Bool.false_ne_true]
    refine ⟨leads, fun outer member other => ?_, fun some => (entered.inCopy some).part part⟩
    rcases Finset.mem_insert.1 member with rfl | before
    · exact .single ⟨kind, part⟩
    · exact (entered.plainly outer before other).tail ⟨kind, part⟩

section Unfolding

variable [Fintype ι] [DecidableEq ι] {heap : Heap ι} {around copied : Finset ι} {place : ι}

theorem valueAt_of_mem (within : place ∈ around) :
    heap.valueAt around copied place = .again (decide (place ∈ copied)) := by
  rw [valueAt, dif_pos within]

theorem valueAt_of_not_mem (outside : place ∉ around) : heap.valueAt around copied place =
    (heap place).value (heap.valueAt (insert place around) (heap.copiedIn around copied place)) := by
  rw [valueAt, dif_neg outside]

/-! ### What is refused -/

theorem barred_of_not_isWritable (heap : Heap ι) (around copied : Finset ι) (place : ι)
    (refused : (heap.valueAt around copied place).isWritable = false) :
    ∃ inner, heap.Leads place inner ∧ heap.Bars inner .longInteger := by
  induction around, copied, place using valueAt.induct heap with
  | case1 around copied place within =>
    rw [valueAt_of_mem within] at refused
    cases refused
  | case2 around copied place outside ih =>
    rw [valueAt_of_not_mem outside] at refused
    rcases Cell.bars_or_part_of_not_isWritable refused with barred | ⟨inner, part, long⟩
    · exact ⟨place, .refl, .cell barred⟩
    · exact leads_barred part (ih inner long)

/-- What is not copied within a dataclass leads to what it is not copied for. -/
theorem barred_of_asDict (heap : Heap ι) (around copied : Finset ι) (place : ι)
    (entered : heap.Entered around copied place) (inCopy : heap.IsCopied place) {fault : Fault}
    (refused : (heap.valueAt around copied place).asDict = .error fault) :
    ∃ inner, heap.Leads place inner ∧ heap.Bars inner fault := by
  induction around, copied, place using valueAt.induct heap with
  | case1 around copied place within =>
    rw [valueAt_of_mem within] at refused
    obtain rfl := Except.error.inj refused
    exact ⟨place, .refl, .endless inCopy (entered.leads place within)⟩
  | case2 around copied place outside ih =>
    rw [valueAt_of_not_mem outside] at refused
    rcases Cell.bars_or_part_of_asDict refused with barred | barred | ⟨inner, part, refused⟩
    · exact ⟨place, .refl, .cell barred⟩
    · exact ⟨place, .refl, .key inCopy barred⟩
    · exact leads_barred part (ih inner (entered.part part) (inCopy.part part) refused)

/-- A value that is refused leads to what it is refused for, provided that each of the places `around` leads
to it. -/
theorem barred_of_toJson (heap : Heap ι) (around copied : Finset ι) (place : ι)
    (entered : heap.Entered around copied place) {fault : Fault}
    (refused : (heap.valueAt around copied place).toJson = .error fault) :
    ∃ inner, heap.Leads place inner ∧ heap.Bars inner fault := by
  induction around, copied, place using valueAt.induct heap with
  | case1 around copied place within =>
    rw [valueAt_of_mem within, Value.toJson] at refused
    obtain rfl := Except.error.inj refused
    by_cases inCopy : place ∈ copied
    · rw [decide_eq_true inCopy]
      exact ⟨place, .refl, .endless (entered.inCopy ⟨place, inCopy⟩) (entered.leads place within)⟩
    · rw [decide_eq_false inCopy]
      exact ⟨place, .refl, .circular (entered.plainly place within inCopy)⟩
  | case2 around copied place outside ih =>
    rw [valueAt_of_not_mem outside] at refused
    rcases Cell.bars_or_passes_of_toJson refused with barred | passes
    · exact ⟨place, .refl, .cell barred⟩
    · cases passes with
      | written part refused => exact leads_barred part (ih _ (entered.part part) refused)
      | shown part long => exact leads_barred part (barred_of_not_isWritable heap _ _ _ long)
      | copied dataclass part refused =>
        exact leads_barred part
          (barred_of_asDict heap _ _ _ (entered.part part) ⟨place, dataclass, .single part⟩ refused)

/-! ### What has a JSON form -/

theorem exists_ok_part {json : Json} {inner : ι} (formed : (heap.valueAt around copied place).toJson = .ok json)
    (part : heap.HasPart place inner) :
    ∃ json, (heap.valueAt (insert place around) (heap.copiedIn around copied place) inner).toJson = .ok json := by
  by_cases within : place ∈ around
  · rw [valueAt_of_mem within] at formed
    cases formed
  · rw [valueAt_of_not_mem within] at formed
    exact Value.exists_ok_of_parts formed _ (Cell.below_mem_parts part)

/-- Whatever a value leads to is written in turn, within the places on the way. -/
theorem exists_ok_leads {json : Json} {inner : ι} (formed : (heap.valueAt around copied place).toJson = .ok json)
    (leads : heap.Leads place inner) :
    ∃ wider inCopy json, around ⊆ wider ∧ (heap.valueAt wider inCopy inner).toJson = .ok json := by
  induction leads with
  | refl => exact ⟨around, copied, json, Finset.Subset.refl _, formed⟩
  | tail _ part ih =>
    obtain ⟨wider, inCopy, json, subset, formed⟩ := ih
    obtain ⟨json, formed⟩ := exists_ok_part formed part
    exact ⟨_, _, json, subset.trans (Finset.subset_insert _ _), formed⟩

theorem not_containsItself_of_toJson {json : Json}
    (formed : (heap.valueAt around copied place).toJson = .ok json) : ¬ heap.ContainsItself place := by
  intro itself
  obtain ⟨inner, part, leads⟩ := Relation.TransGen.head'_iff.1 itself
  obtain ⟨json, formed⟩ := exists_ok_part formed part
  obtain ⟨wider, inCopy, json, subset, formed⟩ := exists_ok_leads formed leads
  rw [valueAt_of_mem (subset (Finset.mem_insert_self place around))] at formed
  cases formed

theorem not_flawed_of_toJson {json : Json} (formed : (heap.valueAt around copied place).toJson = .ok json)
    (fault : Fault) :
    ¬ ((heap place).value (heap.valueAt (insert place around) (heap.copiedIn around copied place))).Flawed fault := by
  by_cases within : place ∈ around
  · rw [valueAt_of_mem within] at formed
    cases formed
  · rw [valueAt_of_not_mem within] at formed
    exact Value.not_flawed_of_toJson formed fault

theorem not_bars_of_toJson {json : Json} (formed : (heap.valueAt around copied place).toJson = .ok json)
    (fault : Fault) : ¬ heap.Bars place fault := by
  intro bars
  cases bars with
  | circular itself => exact not_containsItself_of_toJson formed (Relation.TransGen.mono (fun _ _ plain => plain.2) _ _ itself)
  | endless _ itself => exact not_containsItself_of_toJson formed itself
  | cell barred =>
    obtain ⟨other, flawed⟩ := barred.exists_flawed _
    exact not_flawed_of_toJson formed other flawed
  | key _ barred =>
    obtain ⟨other, flawed⟩ := barred.exists_flawed _
    exact not_flawed_of_toJson formed other flawed

end Unfolding

/-! ### Serialising -/

/-- A value is serialised exactly if nothing that its place leads to stands in the way, however often it is
reached; and a value that is refused is refused for something that its place leads to. -/
theorem serialise_valueAt [Fintype ι] [DecidableEq ι] (heap : Heap ι) (place : ι) :
    ((∃ text, (heap.valueAt ∅ ∅ place).serialise = .ok text) ↔
      ∀ inner, heap.Leads place inner → ∀ fault, ¬ heap.Bars inner fault) ∧
    ∀ fault, (heap.valueAt ∅ ∅ place).serialise = .error fault →
      ∃ inner, heap.Leads place inner ∧ heap.Bars inner fault := by
  have failing : ∀ fault, (heap.valueAt ∅ ∅ place).serialise = .error fault →
      ∃ inner, heap.Leads place inner ∧ heap.Bars inner fault :=
    fun fault refused => barred_of_toJson heap ∅ ∅ place (heap.entered_empty place) (map_eq_error.1 refused)
  refine ⟨⟨?_, ?_⟩, failing⟩
  · rintro ⟨text, written⟩ inner leads fault
    obtain ⟨json, formed, -⟩ := map_eq_ok.1 written
    obtain ⟨wider, inCopy, json, -, formed⟩ := exists_ok_leads formed leads
    exact not_bars_of_toJson formed fault
  · intro sound
    cases outcome : (heap.valueAt ∅ ∅ place).serialise with
    | ok text => exact ⟨text, rfl⟩
    | error fault =>
      obtain ⟨inner, leads, bars⟩ := failing fault outcome
      exact absurd bars (sound inner leads fault)

/-- A mapping with one key, an integer of 4302 digits. -/
def longKeyed : Heap Bool
  | true => .map [(.int (.ofNat (Nat.pow 16 3572)), false)]
  | false => .leaf .null rfl

theorem ends_of_transGen_longKeyed {outer inner : Bool} (leads : Relation.TransGen longKeyed.HasPart outer inner) :
    outer = true ∧ inner = false := by
  induction leads with
  | single part =>
    cases outer with
    | true => exact ⟨rfl, List.mem_singleton.1 part⟩
    | false => cases part
  | tail _ part ih =>
    rw [ih.2] at part
    cases part

/-- Nothing in `longKeyed` contains itself, and all its keys are integers. Nevertheless it is refused. -/
theorem serialise_longKeyed :
    (∀ place, ¬ longKeyed.ContainsItself place) ∧
      (∀ place entries, longKeyed place = .map entries → ∀ entry ∈ entries, entry.1.isName = true) ∧
      (longKeyed.valueAt ∅ ∅ true).serialise = .error .longInteger := by
  refine ⟨fun place itself => ?_, fun place entries stands => ?_, ?_⟩
  · obtain ⟨first, second⟩ := ends_of_transGen_longKeyed itself
    rw [first] at second
    cases second
  · cases place with
    | true =>
      obtain rfl := Cell.map.inj stands
      exact List.forall_mem_singleton.2 rfl
    | false => cases stands
  · have long : Decimal.isLong (Int.ofNat (Nat.pow 16 3572)).natAbs = true := by decide +kernel
    have key : Json.keyText (.int (.ofNat (Nat.pow 16 3572))) = .error .longInteger := by
      rw [Json.keyText, Value.writtenText, Value.written, Value.isWritable.eq_def]
      simp only [long, Bool.not_true]
      rfl
    rw [valueAt_of_not_mem (Finset.notMem_empty true), longKeyed, Cell.value, List.map_singleton,
      Value.serialise, Value.toJson, Value.entriesToJson, key]
    rfl

/-- A dataclass with a field that `fault` keeps from being read or copied. -/
def spoiled (fault : Fault) : Heap Unit :=
  fun _ => .dataclass "Point" (fun _ => []) [("x", .error fault)]

theorem not_containsItself_spoiled (fault : Fault) (place : Unit) : ¬ (spoiled fault).ContainsItself place := by
  intro itself
  obtain ⟨next, part, -⟩ := Relation.TransGen.head'_iff.1 itself
  cases part

theorem serialise_spoiled (fault : Fault) : ((spoiled fault).valueAt ∅ ∅ ()).serialise = .error fault := by
  rw [valueAt_of_not_mem (Finset.notMem_empty ()), spoiled, Cell.value]
  rfl

/-- Values without cycles and without strange keys are refused too: for a key that is too long to be written, and
for a field of a dataclass that is not set or cannot be copied. -/
theorem serialise_exceptions :
    ((∀ place, ¬ longKeyed.ContainsItself place) ∧
      (∀ place entries, longKeyed place = .map entries → ∀ entry ∈ entries, entry.1.isName = true) ∧
      (longKeyed.valueAt ∅ ∅ true).serialise = .error .longInteger) ∧
    (∀ place, ¬ (spoiled (.unset "Point" "x")).ContainsItself place) ∧
      ((spoiled (.unset "Point" "x")).valueAt ∅ ∅ ()).serialise = .error (.unset "Point" "x") ∧
      ((spoiled (.notCopyable "_thread.lock")).valueAt ∅ ∅ ()).serialise = .error (.notCopyable "_thread.lock") :=
  ⟨serialise_longKeyed, not_containsItself_spoiled _, serialise_spoiled _, serialise_spoiled _⟩

end Heap

end AssemblyInfo

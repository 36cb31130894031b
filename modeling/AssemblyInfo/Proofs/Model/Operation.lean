import AssemblyInfo.Proofs.Folded.Runs
import AssemblyInfo.Proofs.Model.Insertion
import AssemblyInfo.Proofs.Value.Now

/-!
# Operations on models

A model that is changed one operation after the other: attributes are written into it, entries are
deleted, and items of its sets are added and discarded. A call that writes an attribute does so in one
table, asks for the name space, and leaves everything else alone.
-/

namespace AssemblyInfo
open Folded Text Spelling Naming

/-! ### Tables and sets with the same contents -/

namespace Folded

theorem Table.eq_of_entries {ν α : Type} [Spelling ν] {first second : Table ν α}
    (same : first.entries = second.entries) : first = second := by
  have slots : first.store.slots = second.store.slots := by
    rw [slots_eq, slots_eq, same]
  obtain ⟨⟨firstSlots, _⟩, _⟩ := first
  obtain ⟨⟨secondSlots, _⟩, _⟩ := second
  obtain rfl : firstSlots = secondSlots := slots
  rfl

theorem Set.eq_of_items {first second : Folded.Set} (same : first.items = second.items) : first = second := by
  have slots : first.store.slots = second.store.slots := by
    rw [slots_eq, slots_eq, same]
  obtain ⟨⟨firstSlots, _⟩, _⟩ := first
  obtain ⟨⟨secondSlots, _⟩, _⟩ := second
  obtain rfl : firstSlots = secondSlots := slots
  rfl

theorem insertEntry_insertEntry {ν α : Type} [DecidableEq ν] [Spelling ν] (name : ν) (value : α)
    (entries : List (ν × α)) :
    insertEntry name value (insertEntry name value entries) = insertEntry name value entries := by
  induction entries with
  | nil => exact if_pos rfl
  | cons entry rest ih =>
    obtain ⟨present, old⟩ := entry
    by_cases same : fold present = fold name
    · rw [insertEntry, if_pos same, insertEntry, if_pos same]
    · rw [insertEntry, if_neg same, insertEntry, if_neg same, ih]

/-- `Writes name text before after` says that `text` has come under `name` in the entries `before`: in
the place and the spelling that were there, or at the end. -/
inductive Writes (name text : String) : List (String × String) → List (String × String) → Prop
  | replaced (before after : List (String × String)) {spelling old : String}
    (same : lower spelling = lower name) :
    Writes name text (before ++ (spelling, old) :: after) (before ++ (spelling, text) :: after)
  | added {entries : List (String × String)} (absent : lower name ∉ foldedKeys entries) :
    Writes name text entries (entries ++ [(name, text)])

theorem Writes.cons {name text : String} {before after : List (String × String)}
    {entry : String × String} (other : lower entry.1 ≠ lower name) (writes : Writes name text before after) :
    Writes name text (entry :: before) (entry :: after) := by
  cases writes with
  | replaced first last same => exact .replaced (entry :: first) last same
  | added absent =>
    refine .added ?_
    rw [foldedKeys_cons, List.mem_cons, not_or]
    exact ⟨other.symm, absent⟩

theorem writes_insertEntry (name text : String) (entries : List (String × String)) :
    Writes name text entries (insertEntry name text entries) := by
  induction entries with
  | nil => exact .added List.not_mem_nil
  | cons entry rest ih =>
    obtain ⟨spelling, old⟩ := entry
    rw [insertEntry]
    split
    · rename_i same
      exact .replaced [] rest same
    · rename_i other
      exact ih.cons other

theorem Set.mem_foldedItems_insert (set : Folded.Set) (item : String) :
    lower item ∈ foldedItems (set.insert item).items := by
  rw [items_insert]
  split
  · assumption
  · exact List.mem_map_of_mem (List.mem_append_right _ (List.mem_singleton_self item))

theorem Set.items_subset_insert (set : Folded.Set) (item : String) :
    set.items ⊆ (set.insert item).items := by
  rw [items_insert]
  split
  · exact List.Subset.refl _
  · exact List.subset_append_left _ _

theorem Set.insert_insert (set : Folded.Set) (item : String) :
    (set.insert item).insert item = set.insert item := by
  apply eq_of_items
  rw [items_insert, if_pos (set.mem_foldedItems_insert item)]

end Folded

namespace Model

theorem eq_of_contents {first second : Model}
    (tables : ∀ target, (first.table target).entries = (second.table target).entries)
    (sets : ∀ target, (first.set target).items = (second.set target).items) : first = second := by
  have attributes : first.attributes = second.attributes := Table.eq_of_entries (tables .attributes)
  have customs : first.customAttributes = second.customAttributes :=
    Table.eq_of_entries (tables .customAttributes)
  have metadata : first.metadataAttributes = second.metadataAttributes :=
    Table.eq_of_entries (tables .metadataAttributes)
  have nameSpaces : first.nameSpaces = second.nameSpaces := Set.eq_of_items (sets .nameSpaces)
  have internals : first.internalsVisibleTo = second.internalsVisibleTo :=
    Set.eq_of_items (sets .internalsVisibleTo)
  obtain ⟨_, _, _, _, _⟩ := first
  obtain ⟨_, _, _, _, _⟩ := second
  cases attributes
  cases customs
  cases metadata
  cases nameSpaces
  cases internals
  rfl

/-! ### Operations -/

/-- An operation on a model; names, keys, name spaces and items are texts or null. -/
inductive Operation where
  | core (target : ModelTable) (name nameSpace : Option String) (text : String)
  | wellKnown (name nameSpace : Option String) (value : Value)
  | custom (name nameSpace : Option String) (value : Value)
  | metadata (nameSpace key : Option String) (value : Value)
  | delete (target : ModelTable) (key : Option String)
  | add (target : ModelSet) (item : Option String)
  | discard (target : ModelSet) (item : Option String)

namespace Operation

/-- `operation.perform` is the edit that `operation` makes. -/
def perform : Operation → Edit
  | core target name nameSpace text => put target (.ofText? name) (.ofText? nameSpace) text
  | wellKnown name nameSpace value => putAttribute (.ofText? name) (.ofText? nameSpace) value
  | custom name nameSpace value => putCustom (.ofText? name) (.ofText? nameSpace) value
  | metadata nameSpace key value => putMetadata (.ofText? nameSpace) (.ofText? key) value
  | delete target key => removeFrom target (.ofText? key)
  | add target item => addTo target (.ofText? item)
  | discard target item => discardFrom target (.ofText? item)

/-- A call that writes an attribute: into which table, under which name, and what it asks for. -/
structure Call where
  target : ModelTable
  name : Option String
  nameSpace : Option String

/-- `operation.call?` is the call that `operation` is, if it writes an attribute. -/
def call? : Operation → Option Call
  | core target name nameSpace _ => some ⟨target, name, nameSpace⟩
  | wellKnown name nameSpace _ => some ⟨.attributes, name, nameSpace⟩
  | custom name nameSpace _ => some ⟨.customAttributes, name, nameSpace⟩
  | metadata nameSpace key _ => some ⟨.metadataAttributes, key.map quote, nameSpace⟩
  | delete .. | add .. | discard .. => none

/-- `operation.isSkipped` says that a name, key or value that `operation` cannot do without is null. -/
def isSkipped : Operation → Bool
  | wellKnown _ _ value => value.isNull
  | custom name _ value => name.isNone || value.isNull
  | metadata _ key value => key.isNone || value.isNull
  | core .. | delete .. | add .. | discard .. => false

/-- `operation.discards nameSpace` says that `operation` takes `nameSpace` out of the name spaces. -/
def discards (nameSpace : String) : Operation → Bool
  | discard .nameSpaces (some item) => lower item == lower nameSpace
  | _ => false

end Operation

/-- `model.after operations` is `model` after `operations`, whether they fail or not. -/
def after (model : Model) (operations : List Operation) : Model :=
  (runs (fun state (operation : Operation) => operation.perform state) model operations).2

theorem after_cons (model : Model) (operation : Operation) (rest : List Operation) :
    model.after (operation :: rest) = (operation.perform model).2.after rest := rfl

/-! ### What a call does -/

section Puts

variable {ν α : Type} [DecidableEq ν] [Spelling ν] [Naming Value ν]

/-- `Puts skipped edit bare target named nameSpace` says that `edit`, unless it is `skipped`, puts one text into
`target`, under a name that `named` holds of and with `nameSpace`, or is refused; and that `bare` does the same
with no name space. -/
def Puts (skipped : Bool) (edit bare : Edit ν α) (target : ModelTable) (named : Value → Prop)
    (nameSpace : Value) : Prop :=
  (skipped = true ∧ edit = unchanged ∧ bare = unchanged) ∨
    skipped = false ∧
      ((∃ fault, edit = refuse fault ∧ bare = refuse fault) ∨
        ∃ name content, named name ∧ edit = put target name nameSpace content ∧
          bare = put target name .null content)

variable {target : ModelTable} {named : Value → Prop} {nameSpace : Value}

theorem puts_unchanged : Puts true (unchanged : Edit ν α) unchanged target named nameSpace :=
  Or.inl ⟨rfl, rfl, rfl⟩

theorem puts_refuse (fault : Fault) :
    Puts false (refuse fault : Edit ν α) (refuse fault) target named nameSpace :=
  Or.inr ⟨rfl, Or.inl ⟨fault, rfl, rfl⟩⟩

theorem puts_put {name : Value} {content : α} (here : named name) :
    Puts false (put target name nameSpace content : Edit ν α) (put target name .null content) target named
      nameSpace :=
  Or.inr ⟨rfl, Or.inr ⟨name, content, here, rfl, rfl⟩⟩

variable [Content α]

theorem puts_putAttribute (name nameSpace value : Value) :
    Puts value.isNull (putAttribute name nameSpace value : Edit ν α) (putAttribute name .null value) .attributes
      (· = name) nameSpace := by
  unfold putAttribute
  split
  · rename_i null
    rw [Value.isNull_of_now null]
    exact puts_unchanged
  · rename_i flag same
    rw [Value.isNull_eq_false (by rw [same]; nofun)]
    exact puts_put rfl
  · rename_i given _
    rw [Value.isNull_eq_false given]
    split
    · exact puts_put rfl
    · exact puts_refuse _

theorem puts_putCustom (name nameSpace value : Value) :
    Puts (name.isNull || value.isNull) (putCustom name nameSpace value : Edit ν α) (putCustom name .null value)
      .customAttributes (· = name.now) nameSpace := by
  unfold putCustom
  split
  · rename_i null
    rw [Value.isNull_of_now null, Bool.true_or]
    exact puts_unchanged
  · rename_i null _
    rw [Value.isNull_of_now null, Bool.or_true]
    exact puts_unchanged
  · rename_i text same named
    rw [Value.isNull_eq_false named, Value.isNull_eq_false (by rw [same]; nofun)]
    exact puts_put rfl
  · rename_i named given _
    rw [Value.isNull_eq_false named, Value.isNull_eq_false given]
    split
    · exact puts_put rfl
    · exact puts_refuse _

theorem puts_putMetadata (nameSpace key value : Value) :
    Puts (key.isNull || value.isNull) (putMetadata nameSpace key value : Edit ν α) (putMetadata .null key value)
      .metadataAttributes (fun name => ∃ text, key.now.writtenText = .ok text ∧ name = .text (quote text)) nameSpace := by
  unfold putMetadata
  split
  · rename_i null
    rw [Value.isNull_of_now null, Bool.true_or]
    exact puts_unchanged
  · rename_i null _
    rw [Value.isNull_of_now null, Bool.or_true]
    exact puts_unchanged
  · rename_i named given
    rw [Value.isNull_eq_false named, Value.isNull_eq_false given]
    split
    · rename_i name text written _
      exact puts_put ⟨name, written, rfl⟩
    · exact puts_refuse _
    · exact puts_refuse _

end Puts

/-- `Calls skipped edit target name nameSpace` says that `edit`, unless it is `skipped`, writes one text
under `name` into `target` and asks for `nameSpace`, in every model alike, or is refused in all. -/
def Calls (skipped : Bool) (edit : Edit) (target : ModelTable) (name nameSpace : Option String) : Prop :=
  (skipped = true ∧ edit = unchanged) ∨
    skipped = false ∧
      ((∃ fault, edit = refuse fault) ∨
        ∃ key text, name = some key ∧ Inserts edit [.entry target key nameSpace text])

section Calls

variable {target : ModelTable} {name nameSpace : Option String}

theorem calls_put (name : Option String) (text : String) :
    Calls false (put target (.ofText? name) (.ofText? nameSpace) text) target name nameSpace := by
  cases name with
  | none => exact Or.inr ⟨rfl, Or.inl ⟨noLowerCase .null, rfl⟩⟩
  | some key => exact Or.inr ⟨rfl, Or.inr ⟨key, text, rfl, inserts_put target key nameSpace text⟩⟩

theorem Puts.calls {skipped : Bool} {edit bare : Edit} {named : Value → Prop}
    (puts : Puts skipped edit bare target named (.ofText? nameSpace))
    (only : ∀ value, named value → value = .ofText? name) : Calls skipped edit target name nameSpace := by
  rcases puts with ⟨skipped, same, -⟩ | ⟨rfl, ⟨fault, same, -⟩ | ⟨value, text, here, same, -⟩⟩
  · exact Or.inl ⟨skipped, same⟩
  · exact Or.inr ⟨rfl, Or.inl ⟨fault, same⟩⟩
  · rw [same, only value here]
    exact calls_put name text

theorem calls_putAttribute (value : Value) :
    Calls value.isNull (putAttribute (.ofText? name) (.ofText? nameSpace) value) .attributes name
      nameSpace :=
  (puts_putAttribute _ _ value).calls fun _ same => same

theorem calls_putCustom (value : Value) :
    Calls (name.isNone || value.isNull) (putCustom (.ofText? name) (.ofText? nameSpace) value)
      .customAttributes name nameSpace := by
  have puts := @puts_putCustom String String _ _ _ _ (.ofText? name) (.ofText? nameSpace) value
  cases name <;> exact puts.calls fun _ same => same

theorem calls_putMetadata {key : Option String} (value : Value) :
    Calls (key.isNone || value.isNull) (putMetadata (.ofText? nameSpace) (.ofText? key) value)
      .metadataAttributes (key.map quote) nameSpace := by
  have puts := @puts_putMetadata String String _ _ _ _ (.ofText? nameSpace) (.ofText? key) value
  cases key with
  | none => exact Or.inl ⟨rfl, rfl⟩
  | some key =>
    apply puts.calls
    rintro name ⟨text, same, rfl⟩
    obtain rfl : key = text := Except.ok.inj same
    rfl

end Calls

section Refused

variable {ν α : Type} [Spelling ν] {model left : Model ν α} {fault : Fault}

theorem onTable_of_refused {target : ModelTable} {change : Table ν α → Except Fault (Table ν α)}
    (refused : onTable target change model = (.error fault, left)) : left = model := by
  unfold onTable at refused
  split at refused
  · cases refused
  · exact (Prod.mk.inj refused).2.symm

theorem onSet_of_refused {target : ModelSet} {change : Folded.Set ν → Except Fault (Folded.Set ν)}
    (refused : onSet target change model = (.error fault, left)) : left = model := by
  unfold onSet at refused
  split at refused
  · cases refused
  · exact (Prod.mk.inj refused).2.symm

end Refused

namespace Operation

theorem calls_perform {operation : Operation} {call : Call} (called : operation.call? = some call) :
    Calls operation.isSkipped operation.perform call.target call.name call.nameSpace := by
  cases operation with
  | core target name nameSpace text =>
    obtain rfl := Option.some.inj called
    exact calls_put _ text
  | wellKnown name nameSpace value =>
    obtain rfl := Option.some.inj called
    exact calls_putAttribute value
  | custom name nameSpace value =>
    obtain rfl := Option.some.inj called
    exact calls_putCustom value
  | metadata nameSpace key value =>
    obtain rfl := Option.some.inj called
    exact calls_putMetadata value
  | delete target key | add target item | discard target item => cases called

theorem perform_of_refused {operation : Operation} {model left : Model} {fault : Fault}
    (refused : operation.perform model = (.error fault, left)) : left = model := by
  cases called : operation.call? with
  | some call =>
    rcases calls_perform called with ⟨-, same⟩ | ⟨-, ⟨other, same⟩ | ⟨name, text, -, inserts⟩⟩
    · rw [same] at refused
      cases refused
    · rw [same] at refused
      exact (Prod.mk.inj refused).2.symm
    · rw [inserts] at refused
      cases refused
  | none =>
    cases operation with
    | core | wellKnown | custom | metadata => cases called
    | delete target key =>
      rw [perform, removeFrom] at refused
      exact onTable_of_refused refused
    | add target item =>
      rw [perform, addTo] at refused
      exact onSet_of_refused refused
    | discard target item =>
      rw [perform, discardFrom] at refused
      exact onSet_of_refused refused

end Operation

/-! ### What one insertion changes -/

theorem table_insert_of_ne (model : Model) {target other : ModelTable} (apart : other ≠ target) (name : String)
    (needed : Option String) (text : String) :
    (model.insert (.entry target name needed text)).table other = model.table other := by
  apply Table.eq_of_entries
  rw [entries_insert, Insertion.pair?, if_neg (Ne.symm apart)]
  rfl

theorem insert_insert (model : Model) (insertion : Insertion) :
    (model.insert insertion).insert insertion = model.insert insertion := by
  apply eq_of_contents
  · intro target
    rw [entries_insert, entries_insert]
    cases insertion.pair? target with
    | none => rfl
    | some pair => exact insertEntry_insertEntry pair.1 pair.2 _
  · intro target
    cases target with
    | nameSpaces =>
      change ((model.insert insertion).insert insertion).nameSpaces.items =
        (model.insert insertion).nameSpaces.items
      rw [nameSpaces_insert, nameSpaces_insert]
      cases insertion.nameSpace? with
      | none => rfl
      | some needed => exact congrArg _ (Set.insert_insert _ needed)
    | internalsVisibleTo =>
      change ((model.insert insertion).insert insertion).internalsVisibleTo.items =
        (model.insert insertion).internalsVisibleTo.items
      rw [internalsVisibleTo_insert, internalsVisibleTo_insert]
      cases insertion.fragment? with
      | none => rfl
      | some fragment => exact congrArg _ (Set.insert_insert _ fragment)

theorem nameSpaces_subset_insert (model : Model) (insertion : Insertion) :
    model.nameSpaces.items ⊆ (model.insert insertion).nameSpaces.items := by
  rw [nameSpaces_insert]
  cases insertion.nameSpace? with
  | none => exact List.Subset.refl _
  | some needed => exact Set.items_subset_insert _ needed

/-- `Wrote call before after` says that `after` is `before` with what `call` writes: one entry of its
table, and its name space, if it has one and it is not there. -/
structure Wrote (call : Operation.Call) (before after : Model) : Prop where
  written : ∃ name text, call.name = some name ∧
    Writes name text (before.table call.target).entries (after.table call.target).entries
  others : ∀ other, other ≠ call.target → after.table other = before.table other
  internals : after.internalsVisibleTo = before.internalsVisibleTo
  nameSpaces : after.nameSpaces = before.nameSpaces ∨
    ∃ needed, call.nameSpace = some needed ∧ needed ≠ "" ∧
      after.nameSpaces.items = before.nameSpaces.items ++ [needed]
  required : ∀ needed, call.nameSpace = some needed → needed ≠ "" →
    lower needed ∈ foldedItems after.nameSpaces.items

theorem wrote_insert (model : Model) {call : Operation.Call} {name : String} (named : call.name = some name)
    (text : String) : Wrote call model (model.insert (.entry call.target name call.nameSpace text)) where
  written := by
    refine ⟨name, text, named, ?_⟩
    rw [entries_insert, Insertion.pair?, if_pos rfl]
    exact writes_insertEntry name text _
  others := fun other apart => model.table_insert_of_ne apart name call.nameSpace text
  internals := internalsVisibleTo_insert model _
  nameSpaces := by
    rw [nameSpaces_insert, Insertion.nameSpace?]
    cases wanted : call.nameSpace.filter (· != "") with
    | none => exact Or.inl rfl
    | some needed =>
      obtain ⟨given, filled⟩ := Option.filter_eq_some_iff.1 wanted
      change model.nameSpaces.insert needed = _ ∨ ∃ _, _ ∧ _ ∧ (model.nameSpaces.insert needed).items = _
      by_cases present : lower needed ∈ foldedItems model.nameSpaces.items
      · refine Or.inl (Set.eq_of_items ?_)
        rw [Set.items_insert, if_pos present]
      · refine Or.inr ⟨needed, given, bne_iff_ne.1 filled, ?_⟩
        rw [Set.items_insert, if_neg present]
  required := by
    intro needed given filled
    have wanted : call.nameSpace.filter (· != "") = some needed :=
      Option.filter_eq_some_iff.2 ⟨given, bne_iff_ne.2 filled⟩
    rw [nameSpaces_insert, Insertion.nameSpace?, wanted]
    exact Set.mem_foldedItems_insert _ needed

/-! ### Runs of operations -/

/-- A name space stays until it is discarded. -/
theorem mem_nameSpaces_perform {operation : Operation} {nameSpace : String}
    (kept : operation.discards nameSpace = false) {model : Model}
    (member : lower nameSpace ∈ foldedItems model.nameSpaces.items) :
    lower nameSpace ∈ foldedItems (operation.perform model).2.nameSpaces.items := by
  cases called : operation.call? with
  | some call =>
    rcases Operation.calls_perform called with ⟨-, same⟩ | ⟨-, ⟨fault, same⟩ | ⟨name, text, -, inserts⟩⟩
    · rw [same]
      exact member
    · rw [same]
      exact member
    · rw [inserts]
      exact List.map_subset _
        (nameSpaces_subset_insert model (.entry call.target name call.nameSpace text)) member
  | none =>
    cases operation with
    | core | wellKnown | custom | metadata => cases called
    | delete target key =>
      rw [Operation.perform, removeFrom, onTable]
      split
      · cases target <;> exact member
      · exact member
    | add target item =>
      cases item with
      | none => exact member
      | some item =>
        cases target with
        | nameSpaces => exact List.map_subset _ (Set.items_subset_insert _ item) member
        | internalsVisibleTo => exact member
    | discard target item =>
      cases item with
      | none => exact member
      | some item =>
        cases target with
        | nameSpaces =>
          have apart : lower nameSpace ≠ lower item := by
            rw [Operation.discards, beq_eq_false_iff_ne] at kept
            exact Ne.symm kept
          obtain ⟨spelling, present, same⟩ := List.mem_map.1 member
          change lower nameSpace ∈ foldedItems (model.nameSpaces.erase item).items
          rw [Set.items_erase]
          exact List.mem_map.2 ⟨spelling, List.mem_filter.2 ⟨present, apartFrom_eq_true.2 (same ▸ apart)⟩, same⟩
        | internalsVisibleTo => exact member

theorem mem_nameSpaces_after {operations : List Operation} {nameSpace : String}
    (kept : ∀ operation ∈ operations, operation.discards nameSpace = false) {model : Model}
    (member : lower nameSpace ∈ foldedItems model.nameSpaces.items) :
    lower nameSpace ∈ foldedItems (model.after operations).nameSpaces.items := by
  induction operations generalizing model with
  | nil => exact member
  | cons operation rest ih =>
    rw [List.forall_mem_cons] at kept
    rw [after_cons]
    exact ih kept.2 (mem_nameSpaces_perform kept.1 member)

theorem perform_delete {model next : Model} {target : ModelTable} {key : Option String}
    (deleted : (Operation.delete target key).perform model = (.ok (), next)) :
    next.nameSpaces = model.nameSpaces ∧ next.internalsVisibleTo = model.internalsVisibleTo := by
  rw [Operation.perform, removeFrom, onTable] at deleted
  split at deleted
  · rw [← (Prod.mk.inj deleted).2]
    cases target <;> exact ⟨rfl, rfl⟩
  · cases deleted

/-- A call that is not skipped and not refused writes, and doing it again changes nothing more. -/
theorem wrote_perform {operation : Operation} {call : Operation.Call} (called : operation.call? = some call)
    (given : operation.isSkipped = false) {model next : Model}
    (returned : operation.perform model = (.ok (), next)) :
    Wrote call model next ∧ operation.perform next = (.ok (), next) := by
  rcases Operation.calls_perform called with ⟨skipped, -⟩ | ⟨-, ⟨fault, same⟩ | ⟨name, text, named, inserts⟩⟩
  · rw [given] at skipped
    cases skipped
  · rw [same] at returned
    cases returned
  · rw [inserts] at returned
    obtain rfl := (Prod.mk.inj returned).2
    refine ⟨model.wrote_insert named text, ?_⟩
    rw [inserts]
    exact congrArg _ (model.insert_insert (.entry call.target name call.nameSpace text))

theorem perform_of_isSkipped {operation : Operation} (skipped : operation.isSkipped = true) :
    operation.perform = unchanged := by
  cases called : operation.call? with
  | some call =>
    rcases Operation.calls_perform called with ⟨-, same⟩ | ⟨given, -⟩
    · exact same
    · rw [skipped] at given
      cases given
  | none =>
    cases operation with
    | core | wellKnown | custom | metadata => cases called
    | delete | add | discard => cases skipped

/-- `model.IsDistinct` says that no two names of a table, and no two items of a set, are spellings of
the same. -/
structure IsDistinct (model : Model) : Prop where
  tables : ∀ target, (foldedKeys (model.table target).entries).Nodup
  sets : ∀ target, (foldedItems (model.set target).items).Nodup

theorem isDistinct (model : Model) : model.IsDistinct where
  tables target := (model.table target).nodup_foldedKeys
  sets target := (model.set target).nodup_foldedItems

/-- A model, be it that of settings or any other, stays without doubles through every run of operations.
After such a run a call that is skipped changes nothing, and neither does an operation that is refused.
Every other call that returns writes one entry and asks for its name space, which stays until it is
discarded; repeating the call changes nothing more. Deleting leaves both sets as they are. -/
theorem perform_after (start : Model) (operations : List Operation) :
    (start.after operations).IsDistinct ∧
      ∀ operation : Operation,
        (operation.isSkipped = true →
          operation.perform (start.after operations) = (.ok (), start.after operations)) ∧
        (∀ fault left, operation.perform (start.after operations) = (.error fault, left) →
          left = start.after operations) ∧
        (∀ call next, operation.call? = some call → operation.isSkipped = false →
          operation.perform (start.after operations) = (.ok (), next) →
            Wrote call (start.after operations) next ∧ operation.perform next = (.ok (), next) ∧
            ∀ nameSpace later, call.nameSpace = some nameSpace → nameSpace ≠ "" →
              (∀ other ∈ later, Operation.discards nameSpace other = false) →
              lower nameSpace ∈ foldedItems (next.after later).nameSpaces.items) ∧
        ∀ target key next, operation = .delete target key →
          operation.perform (start.after operations) = (.ok (), next) →
            next.nameSpaces = (start.after operations).nameSpaces ∧
              next.internalsVisibleTo = (start.after operations).internalsVisibleTo := by
  refine ⟨isDistinct _, fun operation => ⟨?_, ?_, ?_, ?_⟩⟩
  · intro skipped
    rw [perform_of_isSkipped skipped]
    rfl
  · intro fault left refused
    exact Operation.perform_of_refused refused
  · intro call next called given returned
    obtain ⟨wrote, again⟩ := wrote_perform called given returned
    refine ⟨wrote, again, ?_⟩
    intro nameSpace later needed filled kept
    exact mem_nameSpaces_after kept (wrote.required nameSpace needed filled)
  · rintro target key next rfl deleted
    exact perform_delete deleted

end Model

end AssemblyInfo

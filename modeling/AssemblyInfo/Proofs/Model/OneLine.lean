import AssemblyInfo.Proofs.Declaration.Content
import AssemblyInfo.Proofs.Declaration.Invocation
import AssemblyInfo.Proofs.Settings.Typed
import AssemblyInfo.Proofs.Value.Unbroken

/-!
# Models on one line

A model in which no text holds a line feed puts every declaration on a line of its own. Each edit keeps
it so, whether it succeeds or not, if the texts that it is given hold no line feeds.
-/

namespace AssemblyInfo
open Folded Text

namespace Model

/-- No text of `model` holds a line feed. -/
structure IsOneLine (model : Model) : Prop where
  entries : ∀ target, ∀ entry ∈ (model.table target).entries, '\n' ∉ entry.1.toList ∧ '\n' ∉ entry.2.toList
  items : ∀ target, ∀ item ∈ (model.set target).items, '\n' ∉ item.toList

theorem isOneLine_empty : empty.IsOneLine where
  entries := by
    intro target entry member
    cases target <;> cases member
  items := by
    intro target item member
    cases target <;> cases member

theorem IsOneLine.contents {model : Model} (oneLine : model.IsOneLine) :
    ∀ content ∈ model.contents, '\n' ∉ content.toList := by
  intro content member
  unfold Model.contents at member
  rw [List.mem_append, List.mem_append, List.mem_append] at member
  rcases member with ((known | allowed) | custom) | metadata
  · obtain ⟨entry, found, rfl⟩ := List.mem_map.1 known
    obtain ⟨name, text⟩ := oneLine.entries .attributes entry found
    simp [invocation, name, text]
  · exact oneLine.items .internalsVisibleTo content allowed
  · obtain ⟨entry, found, rfl⟩ := List.mem_map.1 custom
    obtain ⟨name, text⟩ := oneLine.entries .customAttributes entry found
    simp [invocation, name, text]
  · obtain ⟨entry, found, rfl⟩ := List.mem_map.1 metadata
    obtain ⟨key, value⟩ := oneLine.entries .metadataAttributes entry found
    simp [invocation, key, value]

theorem IsOneLine.declaration {model : Model} (oneLine : model.IsOneLine) (dialect : Dialect) {content : String}
    (member : content ∈ model.contents) : '\n' ∉ (dialect.declaration content).toList := by
  have single := oneLine.contents content member
  unfold Dialect.declaration
  simp only [String.toList_append, List.mem_append, not_or]
  exact ⟨⟨dialect.newline_notMem_opening, single⟩, newline_notMem_closing dialect⟩

theorem IsOneLine.setTable {model : Model} (oneLine : model.IsOneLine) (target : ModelTable)
    {table : Table String String} (single : ∀ entry ∈ table.entries, '\n' ∉ entry.1.toList ∧ '\n' ∉ entry.2.toList) :
    (model.setTable target table).IsOneLine where
  entries := by
    intro other
    rw [table_setTable]
    split
    · exact single
    · exact oneLine.entries other
  items := by
    intro other
    have same : (model.setTable target table).set other = model.set other := by
      cases target <;> cases other <;> rfl
    rw [same]
    exact oneLine.items other

theorem IsOneLine.setSet {model : Model} (oneLine : model.IsOneLine) (target : ModelSet)
    {set : Folded.Set} (single : ∀ item ∈ set.items, '\n' ∉ item.toList) :
    (model.setSet target set).IsOneLine where
  entries := by
    intro other
    have same : (model.setSet target set).table other = model.table other := by
      cases target <;> cases other <;> rfl
    rw [same]
    exact oneLine.entries other
  items := by
    intro other
    have same : (model.setSet target set).set other = if target = other then set else model.set other := by
      cases target <;> cases other <;> rfl
    rw [same]
    split
    · exact single
    · exact oneLine.items other

/-! ### Edits -/

/-- `KeepsOneLine edit` says that `edit` brings no line feed into a model. -/
def KeepsOneLine (edit : Edit) : Prop :=
  ∀ model, model.IsOneLine → (edit model).2.IsOneLine

theorem keepsOneLine_unchanged : KeepsOneLine unchanged := fun _ oneLine => oneLine

theorem keepsOneLine_refuse (fault : Fault) : KeepsOneLine (refuse fault) := fun _ oneLine => oneLine

/-- What every edit keeps, all of them keep, up to the first that fails. -/
theorem keepsOneLine_runAll {edits : List Edit} (each : ∀ edit ∈ edits, KeepsOneLine edit) :
    KeepsOneLine (runAll edits) := by
  induction edits with
  | nil => exact keepsOneLine_unchanged
  | cons edit rest ih =>
    rw [List.forall_mem_cons] at each
    intro model oneLine
    have here := each.1 model oneLine
    rw [runAll]
    split
    · rename_i next done
      rw [done] at here
      exact ih each.2 next here
    · exact here

theorem keepsOneLine_map {α : Type} {items : List α} {edit : α → Edit}
    (each : ∀ item ∈ items, KeepsOneLine (edit item)) : ∀ made ∈ items.map edit, KeepsOneLine made := by
  intro made member
  obtain ⟨item, found, rfl⟩ := List.mem_map.1 member
  exact each item found

/-- `NamedOnOneLine value` says that the name that `value` stands for, if it is one, holds no line feed. -/
def NamedOnOneLine (value : Value) : Prop :=
  ∀ name : String, Naming.nameOf value = .ok name → '\n' ∉ name.toList

theorem namedOnOneLine_text {s : String} (single : '\n' ∉ s.toList) : NamedOnOneLine (.text s) := by
  intro name named
  obtain rfl := Except.ok.inj named
  exact single

theorem namedOnOneLine_ofText? {text : Option String} (single : ∀ s, text = some s → '\n' ∉ s.toList) :
    NamedOnOneLine (.ofText? text) := by
  cases text with
  | none =>
    intro name named
    cases named
  | some s => exact namedOnOneLine_text (single s rfl)

theorem keepsOneLine_addTo (target : ModelSet) {value : Value} (single : NamedOnOneLine value) :
    KeepsOneLine (addTo target value) := by
  intro model oneLine
  unfold addTo onSet Set.put
  cases named : (Naming.nameOf value : Except Fault String) with
  | error fault => exact oneLine
  | ok name =>
    apply oneLine.setSet target
    intro item member
    rw [Set.items_insert] at member
    split at member
    · exact oneLine.items target item member
    · rcases List.mem_append.1 member with before | added
      · exact oneLine.items target item before
      · rw [List.mem_singleton.1 added]
        exact single name named

theorem keepsOneLine_put (target : ModelTable) {name nameSpace : Value} {text : String}
    (named : NamedOnOneLine name) (needed : NamedOnOneLine nameSpace) (single : '\n' ∉ text.toList) :
    KeepsOneLine (put target name nameSpace text) := by
  have written : KeepsOneLine (onTable target fun table => table.put name text) := by
    intro model oneLine
    unfold onTable Table.put
    cases given : (Naming.nameOf name : Except Fault String) with
    | error fault => exact oneLine
    | ok key =>
      have keySingle := named key given
      apply oneLine.setTable target
      intro entry member
      rw [Table.entries_insert] at member
      obtain ⟨nameFrom, textFrom⟩ := mem_insertEntry member
      constructor
      · rcases nameFrom with same | ⟨old, before, same⟩
        · rw [same]
          exact keySingle
        · rw [same]
          exact (oneLine.entries target old before).1
      · rcases textFrom with same | ⟨old, before, same⟩
        · rw [same]
          exact single
        · rw [same]
          exact (oneLine.entries target old before).2
  have required : KeepsOneLine (require nameSpace) := by
    unfold require
    split
    · exact keepsOneLine_addTo .nameSpaces needed
    · exact keepsOneLine_unchanged
  apply keepsOneLine_runAll
  exact List.forall_mem_cons.2 ⟨written, List.forall_mem_cons.2 ⟨required, fun _ impossible => by cases impossible⟩⟩

/-! ### The edits of settings -/

theorem keepsOneLine_putAttribute {name nameSpace value : Value} (named : NamedOnOneLine name)
    (needed : NamedOnOneLine nameSpace) (unbroken : value.isUnbroken = true) :
    KeepsOneLine (putAttribute name nameSpace value) := by
  rw [← Value.isUnbroken_now] at unbroken
  unfold putAttribute
  split
  · exact keepsOneLine_unchanged
  · rename_i flag _
    exact keepsOneLine_put .attributes named needed (by cases flag <;> decide)
  · split
    · rename_i text written
      exact keepsOneLine_put .attributes named needed
        (newline_notMem_quote (Value.newline_notMem_writtenText unbroken written))
    · exact keepsOneLine_refuse _

theorem keepsOneLine_putCustom {name nameSpace value : Value} (named : NamedOnOneLine name)
    (needed : NamedOnOneLine nameSpace) (single : ∀ s, value.text? = some s → '\n' ∉ s.toList) :
    KeepsOneLine (putCustom name nameSpace value) := by
  have namedNow : NamedOnOneLine name.now := by
    intro text found
    simp only [Naming.nameOf, Value.now_now] at found
    exact named text found
  unfold putCustom
  split
  · exact keepsOneLine_unchanged
  · exact keepsOneLine_unchanged
  · rename_i s isText _
    have held : value.text? = some s := by
      unfold Value.text?
      rw [isText]
    exact keepsOneLine_put .customAttributes namedNow needed (newline_notMem_quote (single s held))
  · split
    · rename_i text serialised
      exact keepsOneLine_put .customAttributes namedNow needed
        (newline_notMem_of_allAsciiPrintable (Value.allAsciiPrintable_serialise serialised))
    · exact keepsOneLine_refuse _

theorem keepsOneLine_putMetadata {nameSpace key value : Value} (needed : NamedOnOneLine nameSpace)
    (keyUnbroken : key.isUnbroken = true) (unbroken : value.isUnbroken = true) :
    KeepsOneLine (putMetadata nameSpace key value) := by
  rw [← Value.isUnbroken_now] at keyUnbroken unbroken
  unfold putMetadata
  split
  · exact keepsOneLine_unchanged
  · exact keepsOneLine_unchanged
  · split
    · rename_i name text named written
      exact keepsOneLine_put .metadataAttributes
        (namedOnOneLine_text (newline_notMem_quote (Value.newline_notMem_writtenText keyUnbroken named))) needed
        (newline_notMem_quote (Value.newline_notMem_writtenText unbroken written))
    · exact keepsOneLine_refuse _
    · exact keepsOneLine_refuse _

theorem keepsOneLine_allow {item : Value} (unbroken : item.isUnbroken = true) : KeepsOneLine (allow item) := by
  rw [← Value.isUnbroken_now] at unbroken
  unfold allow
  split
  · exact keepsOneLine_unchanged
  · split
    · rename_i name found
      have single := newline_notMem_unquoteValue unbroken found
      apply keepsOneLine_addTo .internalsVisibleTo
      apply namedOnOneLine_text
      unfold internalsFragment
      simp only [String.toList_append, List.mem_append, not_or]
      exact ⟨⟨⟨newline_notMem_internalsVisibleToName, by decide⟩, newline_notMem_quote single⟩, by decide⟩
    · exact keepsOneLine_refuse _

theorem keepsOneLine_requireInternals : KeepsOneLine requireInternals := by
  intro model oneLine
  unfold requireInternals
  split
  · exact oneLine
  · exact keepsOneLine_addTo .nameSpaces (namedOnOneLine_text (by decide)) model oneLine

theorem keepsOneLine_internalsEdits {value : Value} (unbroken : value.isUnbroken = true) :
    ∀ edit ∈ internalsEdits value, KeepsOneLine edit := by
  rw [← Value.isUnbroken_now] at unbroken
  unfold internalsEdits
  split
  · intro edit impossible
    cases impossible
  · split
    · rename_i items found
      have each := Value.isUnbroken_iterated unbroken found
      intro edit member
      rcases List.mem_append.1 member with allowed | last
      · exact keepsOneLine_map (fun item present => keepsOneLine_allow (each item present)) edit allowed
      · rw [List.mem_singleton.1 last]
        exact keepsOneLine_requireInternals
    · intro edit member
      rw [List.mem_singleton.1 member]
      exact keepsOneLine_refuse _

end Model

end AssemblyInfo

import AssemblyInfo.Proofs.Json.Flaw
import AssemblyInfo.Proofs.Model.Insertion
import Mathlib.Data.List.Basic

/-!
# Settings of the declared types

Settings whose fields hold texts or flags, or null, and whose custom values can be written always give
a model. The model is made by the insertions that the settings ask for: fields, access to internals,
custom attributes and metadata, in this order, with everything left out that is null.
-/

namespace AssemblyInfo

namespace Value

/-- `value.text?` is the text `value`. -/
def text? (value : Value) : Option String :=
  match value.now with
  | .text s => some s
  | _ => none

/-- `value.isOptionalText` says that `value` is a text or null. -/
def isOptionalText (value : Value) : Bool :=
  match value.now with
  | .null | .text _ => true
  | _ => false

/-- `value.isOptionalFlag` says that `value` is a flag or null. -/
def isOptionalFlag (value : Value) : Bool :=
  match value.now with
  | .null | .bool _ => true
  | _ => false

/-- `value.isOptionalTexts` says that `value` is null or a list of texts and nulls. -/
def isOptionalTexts (value : Value) : Bool :=
  match value.now with
  | .null => true
  | .list items => items.all isOptionalText
  | _ => false

/-- `value.argument?` is the argument of an attribute that holds a text or a flag. -/
def argument? (value : Value) : Option String :=
  match value.now with
  | .text s => some (quote s)
  | .bool flag => some (flagText flag)
  | _ => none

theorem eq_null_or_text {value : Value} (optional : value.isOptionalText = true) :
    value.now = .null ∨ ∃ s, value.now = .text s := by
  rw [isOptionalText] at optional
  split at optional
  · exact Or.inl ‹_›
  · exact Or.inr ⟨_, ‹_›⟩
  · cases optional

theorem eq_null_or_flag {value : Value} (optional : value.isOptionalFlag = true) :
    value.now = .null ∨ ∃ flag, value.now = .bool flag := by
  rw [isOptionalFlag] at optional
  split at optional
  · exact Or.inl ‹_›
  · exact Or.inr ⟨_, ‹_›⟩
  · cases optional

theorem eq_null_or_texts {value : Value} (optional : value.isOptionalTexts = true) :
    value.now = .null ∨ ∃ items, value.now = .list items ∧ ∀ item ∈ items, item.isOptionalText = true := by
  rw [isOptionalTexts] at optional
  split at optional
  · exact Or.inl ‹_›
  · exact Or.inr ⟨_, ‹_›, List.all_eq_true.1 optional⟩
  · cases optional

end Value

open Model

namespace CustomAttribute

/-- `custom.argument?` is the argument that `custom` is written with, if it is not null. -/
def argument? (custom : CustomAttribute) : Option String :=
  match custom.value.now with
  | .null => none
  | .text s => some (quote s)
  | value => value.serialise.toOption

/-- `custom.refusal?` is why `custom` cannot be written, if it has a name and its value cannot be. -/
def refusal? (custom : CustomAttribute) : Option Fault :=
  match custom.name, custom.value.serialise with
  | some _, .error fault => some fault
  | _, _ => none

/-- `custom.insertion?` is the insertion that `custom` asks for. -/
def insertion? (custom : CustomAttribute) : Option Insertion := do
  return .entry .customAttributes (← custom.name) custom.nameSpace (← custom.argument?)

end CustomAttribute

/-- `internalsInsertion name` is the insertion that gives access to internals to `name`. -/
def internalsInsertion (name : String) : Insertion :=
  .internals (internalsFragment (unquote name))

/-- `metadata.insertion?` is the insertion that `metadata` asks for. -/
def MetadataAttribute.insertion? (metadata : MetadataAttribute) : Option Insertion := do
  let key ← metadata.key
  return .entry .metadataAttributes (quote key) metadata.nameSpace (quote (← metadata.value))

namespace Settings

/-- The values of `settings` have the types that are declared for them. -/
structure IsTyped (settings : Settings) : Prop where
  texts : ∀ field : Field, field.isFlag = false → (settings.value field).isOptionalText = true
  flags : ∀ field : Field, field.isFlag = true → (settings.value field).isOptionalFlag = true
  internals : settings.internalsVisibleTo.isOptionalTexts = true

/-- All custom values of `settings` can be written; null and texts always can. -/
def IsSerialisable (settings : Settings) : Prop :=
  ∀ custom ∈ given settings.customAttributes, ∃ text, custom.value.serialise = .ok text

/-- `settings.refusal?` is why the first custom attribute that cannot be written is refused. -/
def refusal? (settings : Settings) : Option Fault :=
  (given settings.customAttributes).findSome? CustomAttribute.refusal?

/-- `settings.fieldInsertion? field` is the insertion that `settings` ask for with `field`. -/
def fieldInsertion? (settings : Settings) (field : Field) : Option Insertion :=
  (settings.value field).argument?.map fun text =>
    .entry .attributes field.attributeName (some field.nameSpace) text

/-- `settings.internalsNames` is the names of the assemblies with access to internals, as given. -/
def internalsNames (settings : Settings) : List String :=
  match settings.internalsVisibleTo.now with
  | .list items => items.filterMap Value.text?
  | _ => []

/-- `settings.internalsInsertions` is the insertions that give access to internals. -/
def internalsInsertions (settings : Settings) : List Insertion :=
  settings.internalsNames.map internalsInsertion ++
    if settings.internalsNames.isEmpty then [] else [.required internalsNameSpace]

/-- `settings.insertions` is all insertions that `settings` ask for. -/
def insertions (settings : Settings) : List Insertion :=
  Field.all.filterMap settings.fieldInsertion? ++ settings.internalsInsertions ++
    (given settings.customAttributes).filterMap CustomAttribute.insertion? ++
    (given settings.metadataAttributes).filterMap MetadataAttribute.insertion?

end Settings

/-! ### The edits of settings -/

namespace Model

variable {settings : Settings}

theorem runAll_filterMap {α : Type} {edit : α → Edit} {insertion? : α → Option Insertion}
    (items : List α) (each : ∀ item ∈ items, Inserts (edit item) (insertion? item).toList) :
    Inserts (runAll (items.map edit)) (items.filterMap insertion?) := by
  rw [List.filterMap_eq_flatMap_toList]
  exact runAll_map each

theorem inserts_fieldEdit (typed : settings.IsTyped) (field : Field) :
    Inserts (fieldEdit settings field) (settings.fieldInsertion? field).toList := by
  have written := inserts_put .attributes field.attributeName (some field.nameSpace)
  have cases : (settings.value field).now = .null ∨ (∃ s, (settings.value field).now = .text s) ∨
      ∃ flag, (settings.value field).now = .bool flag := by
    cases flag : field.isFlag with
    | false => exact (Value.eq_null_or_text (typed.texts field flag)).imp_right Or.inl
    | true => exact (Value.eq_null_or_flag (typed.flags field flag)).imp_right Or.inr
  rw [Settings.fieldInsertion?, Value.argument?]
  intro model
  rw [fieldEdit, putAttribute]
  rcases cases with null | ⟨s, text⟩ | ⟨flag, isFlag⟩
  · rw [null]
    rfl
  · rw [text]
    exact written (quote s) model
  · rw [isFlag]
    exact written (flagText flag) model

theorem inserts_allow {item : Value} (optional : item.isOptionalText = true) :
    Inserts (allow item)
      (item.text?.map internalsInsertion).toList := by
  intro model
  rw [allow, Value.text?]
  rcases Value.eq_null_or_text optional with null | ⟨s, text⟩
  · rw [null]
    rfl
  · rw [text]
    rfl

theorem isEmpty_insertAll_empty (items : List String) :
    (Folded.Set.empty.insertAll items).items.isEmpty = items.isEmpty := by
  rw [Folded.Set.items_insertAll_empty]
  cases items <;> rfl

theorem internalsVisibleTo_insertAll_internals (model : Model) (names : List String) :
    (model.insertAll (names.map internalsInsertion)).internalsVisibleTo =
      model.internalsVisibleTo.insertAll
        (names.map fun name => internalsFragment (unquote name)) := by
  rw [internalsVisibleTo_insertAll, List.filterMap_map, ← List.filterMap_eq_map]
  rfl

/-- The name space is required if anything gives access to internals, which only `names` can do. -/
theorem requireInternals_insertAll {model : Model} (none : model.internalsVisibleTo = .empty)
    (names : List String) :
    requireInternals (model.insertAll (names.map internalsInsertion)) =
      (.ok (), (model.insertAll (names.map internalsInsertion)).insertAll
        (if names.isEmpty then [] else [.required internalsNameSpace])) := by
  rw [requireInternals, internalsVisibleTo_insertAll_internals, none, isEmpty_insertAll_empty,
    List.isEmpty_map]
  cases names <;> rfl

theorem inserts_internalsEdits (typed : settings.IsTyped) (model : Model)
    (none : model.internalsVisibleTo = .empty) :
    runAll (internalsEdits settings.internalsVisibleTo) model =
      (.ok (), model.insertAll settings.internalsInsertions) := by
  rw [internalsEdits, Settings.internalsInsertions, Settings.internalsNames]
  rcases Value.eq_null_or_texts typed.internals with null | ⟨items, list, optional⟩
  · rw [null]
    rfl
  · rw [list]
    change runAll (items.map allow ++ [requireInternals]) model =
      (.ok (), model.insertAll ((items.filterMap Value.text?).map internalsInsertion ++
        if (items.filterMap Value.text?).isEmpty then [] else [.required internalsNameSpace]))
    have each := runAll_filterMap items (fun item member => inserts_allow (optional item member)) model
    rw [← List.map_filterMap] at each
    rw [runAll_append each, insertAll_append, runAll, requireInternals_insertAll none]
    rfl

theorem inserts_customEdit {custom : CustomAttribute} (accepted : custom.refusal? = none) :
    Inserts (customEdit custom) custom.insertion?.toList := by
  intro model
  rw [CustomAttribute.refusal?, ← Value.serialise_now] at accepted
  rw [customEdit, putCustom, CustomAttribute.insertion?, CustomAttribute.argument?]
  cases named : custom.name with
  | none => rfl
  | some name =>
    have put := inserts_put .customAttributes name custom.nameSpace
    rw [named] at accepted
    cases written : custom.value.now.serialise with
    | error fault =>
      rw [written] at accepted
      cases accepted
    | ok text =>
      cases found : custom.value.now <;> rw [found] at written
      case null => rfl
      case text s => exact put (quote s) model
      all_goals
        simp only [Value.ofText?, Value.now, written, Except.toOption]
        exact put text model

theorem customEdit_of_refused {custom : CustomAttribute} {fault : Fault}
    (refused : custom.refusal? = some fault) (model : Model) :
    customEdit custom model = (.error fault, model) := by
  rw [CustomAttribute.refusal?, ← Value.serialise_now] at refused
  rw [customEdit, putCustom]
  cases named : custom.name with
  | none =>
    rw [named] at refused
    cases refused
  | some name =>
    rw [named] at refused
    cases written : custom.value.now.serialise with
    | ok text =>
      rw [written] at refused
      cases refused
    | error other =>
      rw [written] at refused
      obtain rfl : other = fault := Option.some.inj refused
      cases found : custom.value.now <;> rw [found] at written
      case null => cases written
      case text s => cases written
      all_goals
        simp only [Value.ofText?, Value.now, written]
        rfl

/-- Custom attributes are written up to the first one that is refused. -/
theorem runAll_customs_of_refused {customs : List CustomAttribute} {fault : Fault}
    (refused : customs.findSome? CustomAttribute.refusal? = some fault) (model : Model) :
    ∃ left, runAll (customs.map customEdit) model = (.error fault, left) := by
  induction customs generalizing model with
  | nil => cases refused
  | cons custom rest ih =>
    rw [List.findSome?_cons] at refused
    rw [List.map_cons, runAll]
    cases here : custom.refusal? with
    | some other =>
      rw [here] at refused
      obtain rfl : other = fault := Option.some.inj refused
      rw [customEdit_of_refused here]
      exact ⟨model, rfl⟩
    | none =>
      rw [here] at refused
      rw [inserts_customEdit here]
      exact ih refused _

theorem inserts_metadataEdit (metadata : MetadataAttribute) :
    Inserts (metadataEdit metadata) metadata.insertion?.toList := by
  intro model
  rw [metadataEdit, putMetadata, MetadataAttribute.insertion?]
  cases metadata.key with
  | none => rfl
  | some key =>
    cases metadata.value with
    | none => rfl
    | some value => exact inserts_put .metadataAttributes (quote key) metadata.nameSpace (quote value) model

theorem filterMap_fragment?_fieldInsertions (settings : Settings) :
    (Field.all.filterMap settings.fieldInsertion?).filterMap Insertion.fragment? = [] := by
  rw [List.filterMap_filterMap, List.filterMap_eq_nil_iff]
  intro field _
  unfold Settings.fieldInsertion?
  cases (settings.value field).argument? <;> rfl

theorem runAll_edits_of_build {settings : Settings} {model : Model} (built : build settings = .ok model) :
    runAll (edits settings) empty = (.ok (), model) := by
  unfold build at built
  split at built
  · rename_i final ran
    rw [ran, Except.ok.inj built]
  · cases built

/-- Settings of the declared types give the model of their insertions, unless a custom attribute is
refused. -/
theorem build_typed (typed : settings.IsTyped) :
    build settings =
      match settings.refusal? with
      | some fault => .error fault
      | none => .ok (empty.insertAll settings.insertions) := by
  have fields := runAll_filterMap Field.all (fun field _ => inserts_fieldEdit typed field) empty
  have internals := inserts_internalsEdits typed
    (empty.insertAll (Field.all.filterMap settings.fieldInsertion?))
    (by rw [internalsVisibleTo_insertAll, filterMap_fragment?_fieldInsertions]; rfl)
  rw [build, edits, List.append_assoc, List.append_assoc, runAll_append fields, runAll_append internals]
  cases refused : settings.refusal? with
  | some fault =>
    obtain ⟨left, failed⟩ := runAll_customs_of_refused refused
      ((empty.insertAll (Field.all.filterMap settings.fieldInsertion?)).insertAll settings.internalsInsertions)
    rw [runAll_append_of_failed failed]
  | none =>
    have customs := runAll_filterMap (given settings.customAttributes) fun custom member =>
      inserts_customEdit (List.findSome?_eq_none_iff.1 refused custom member)
    have metadata := runAll_filterMap (given settings.metadataAttributes) fun metadata _ =>
      inserts_metadataEdit metadata
    rw [runAll_append (customs _), metadata, Settings.insertions, insertAll_append, insertAll_append,
      insertAll_append]

end Model

theorem Settings.IsSerialisable.not_refused {settings : Settings} (serialisable : settings.IsSerialisable) :
    settings.refusal? = none := by
  unfold refusal?
  rw [List.findSome?_eq_none_iff]
  intro custom member
  obtain ⟨text, written⟩ := serialisable custom member
  unfold CustomAttribute.refusal?
  rw [written]
  cases custom.name <;> rfl

theorem Model.build_eq {settings : Settings} (typed : settings.IsTyped)
    (serialisable : settings.IsSerialisable) : build settings = .ok (empty.insertAll settings.insertions) := by
  rw [build_typed typed, serialisable.not_refused]

end AssemblyInfo

import AssemblyInfo.Proofs.Model.OneLine
import AssemblyInfo.Proofs.Settings.RoundTrip

/-!
# Settings in two dialects

The source texts of settings without line feeds agree line by line, whatever names the custom attributes
have: a line in the one dialect gives to a well-known attribute what the line in the other gives to it.
-/

namespace AssemblyInfo
open Folded Text Model

/-- No text of `settings` holds a line feed, at whatever depth it is. Only within custom values that are no
texts it may, as these are written as JSON. -/
structure Settings.IsUnbroken (settings : Settings) : Prop where
  values : ∀ field, (settings.value field).isUnbroken = true
  internals : settings.internalsVisibleTo.isUnbroken = true
  customs : ∀ custom ∈ given settings.customAttributes,
    (∀ name, custom.name = some name → '\n' ∉ name.toList) ∧
      (∀ nameSpace, custom.nameSpace = some nameSpace → '\n' ∉ nameSpace.toList) ∧
      ∀ s, custom.value.text? = some s → '\n' ∉ s.toList
  metadata : ∀ metadata ∈ given settings.metadataAttributes,
    (∀ nameSpace, metadata.nameSpace = some nameSpace → '\n' ∉ nameSpace.toList) ∧
      (∀ key, metadata.key = some key → '\n' ∉ key.toList) ∧
      ∀ value, metadata.value = some value → '\n' ∉ value.toList

theorem Value.isUnbroken_ofText? {text : Option String} (single : ∀ s, text = some s → '\n' ∉ s.toList) :
    (ofText? text).isUnbroken = true := by
  cases text with
  | none => rfl
  | some s => exact isUnbroken_text.2 (single s rfl)

/-! ### The model -/

namespace Model

theorem keepsOneLine_edits {settings : Settings} (unbroken : settings.IsUnbroken) :
    ∀ edit ∈ edits settings, KeepsOneLine edit := by
  have fields : ∀ field ∈ Field.all, KeepsOneLine (fieldEdit settings field) := by
    intro field _
    have nameSpace : '\n' ∉ field.nameSpace.toList := Settings.newline_notMem_fieldNameSpace field
    exact keepsOneLine_putAttribute (namedOnOneLine_text (newline_notMem_attributeName field))
      (namedOnOneLine_text nameSpace) (unbroken.values field)
  have customs : ∀ custom ∈ given settings.customAttributes, KeepsOneLine (customEdit custom) := by
    intro custom member
    obtain ⟨name, nameSpace, value⟩ := unbroken.customs custom member
    exact keepsOneLine_putCustom (namedOnOneLine_ofText? name) (namedOnOneLine_ofText? nameSpace) value
  have metadata : ∀ metadata ∈ given settings.metadataAttributes, KeepsOneLine (metadataEdit metadata) := by
    intro metadata member
    obtain ⟨nameSpace, key, value⟩ := unbroken.metadata metadata member
    exact keepsOneLine_putMetadata (namedOnOneLine_ofText? nameSpace) (Value.isUnbroken_ofText? key)
      (Value.isUnbroken_ofText? value)
  intro edit member
  unfold edits at member
  rw [List.mem_append, List.mem_append, List.mem_append] at member
  rcases member with ((field | internals) | custom) | other
  · exact keepsOneLine_map fields edit field
  · exact keepsOneLine_internalsEdits unbroken.internals edit internals
  · exact keepsOneLine_map customs edit custom
  · exact keepsOneLine_map metadata edit other

theorem isOneLine_build {settings : Settings} (unbroken : settings.IsUnbroken) {model : Model}
    (built : build settings = .ok model) : model.IsOneLine := by
  have kept := keepsOneLine_runAll (keepsOneLine_edits unbroken) empty isOneLine_empty
  rwa [runAll_edits_of_build built] at kept

/-! ### Its two source texts -/

section Reading

variable {model : Model} (oneLine : model.IsOneLine)

include oneLine

theorem filterMap_splitLines_render_of_isOneLine {α : Type} {read : List Char → Option α}
    (reads : ReadsDeclarations read) (dialect : Dialect) :
    (splitLines (model.render dialect).toList).filterMap read =
      model.contents.filterMap fun content => read (dialect.declaration content).toList :=
  filterMap_splitLines_render_of_oneLine reads (oneLine.items .nameSpaces)
    fun _ member => oneLine.declaration dialect member

/-- What the source text gives to a well-known attribute does not depend on its dialect. -/
theorem declaredAll_render (dialect : Dialect) (form : ArgumentForm) {name : String} (known : name ∈ knownNames) :
    declaredAll dialect form name (model.render dialect).toList =
      model.contents.filterMap fun content => contentOn? form name.toList content.toList := by
  have run := isWordRun_knownNames name known
  have absent : dialect.lastChar ∉ name.toList := run.notMem (by cases dialect <;> decide)
  rw [declaredAll_eq_filterMap dialect form (run.notMem (by decide)),
    filterMap_splitLines_render_of_isOneLine oneLine (readsDeclarations_declaredOn? dialect form name.toList)]
  simp only [declaredOn?_declaration dialect form absent]

theorem customAll_render_visualBasic : customAll (model.render .visualBasic).toList = [] := by
  rw [customAll_eq_filterMap, filterMap_splitLines_render_of_isOneLine oneLine readsDeclarations_customOn?]
  simp [customOn?_visualBasic]

end Reading

end Model

namespace Settings

/-- Settings without line feeds have source texts in both dialects that declare the same, but for what is
not well known, which only square brackets declare. Or they have none, for the same reason. -/
theorem ofText_render_dialects (settings : Settings) (unbroken : settings.IsUnbroken) :
    (settings.IsTyped → settings.IsSerialisable → ∀ dialect, ∃ text, render settings dialect = .ok text) ∧
    ((∃ fault, ∀ dialect, render settings dialect = .error fault) ∨
      ∃ square angle, render settings .csharp = .ok square ∧ render settings .visualBasic = .ok angle ∧
        (∀ field, (ParseResult.ofText .csharp square).value field =
          (ParseResult.ofText .visualBasic angle).value field) ∧
        (ParseResult.ofText .csharp square).internalsVisibleTo =
          (ParseResult.ofText .visualBasic angle).internalsVisibleTo ∧
        (ParseResult.ofText .visualBasic angle).customAttributes = []) := by
  constructor
  · intro typed serialisable dialect
    exact ⟨_, render_eq typed serialisable dialect⟩
  · cases built : build settings with
    | error fault =>
      refine Or.inl ⟨fault, fun dialect => ?_⟩
      unfold render
      rw [built]
      rfl
    | ok model =>
      have oneLine := isOneLine_build unbroken built
      have rendered : ∀ dialect, render settings dialect = .ok (model.render dialect) := by
        intro dialect
        unfold render
        rw [built]
        rfl
      refine Or.inr ⟨_, _, rendered .csharp, rendered .visualBasic, ?_, ?_, ?_⟩
      · intro field
        have known := attributeName_mem_knownNames field
        have square : field.declarations .csharp (model.render .csharp).toList = _ :=
          declaredAll_render oneLine .csharp field.form known
        have angle : field.declarations .visualBasic (model.render .visualBasic).toList = _ :=
          declaredAll_render oneLine .visualBasic field.form known
        rw [ParseResult.value_ofText, ParseResult.value_ofText, square, angle]
      · have known := internalsVisibleToName_mem_knownNames
        rw [ParseResult.internalsVisibleTo_ofText, ParseResult.internalsVisibleTo_ofText,
          declaredAll_render oneLine .csharp .quoted known, declaredAll_render oneLine .visualBasic .quoted known]
      · rw [ParseResult.customAttributes_ofText, customAll_render_visualBasic oneLine]

/-- Settings with a custom attribute that is read as the title, and one that is read as nothing. -/
def imitating : Settings where
  customAttributes := some [
    some { name := some "System.Reflection.AssemblyTitle", value := .text "a]" },
    some { name := some "Odd name](", nameSpace := some "Tools", value := .bool true }]

theorem isUnbroken_imitating : imitating.IsUnbroken where
  values := fun _ => rfl
  internals := rfl
  customs := by
    have each : ∀ custom ∈ given imitating.customAttributes,
        (∀ name ∈ custom.name, '\n' ∉ name.toList) ∧ (∀ nameSpace ∈ custom.nameSpace, '\n' ∉ nameSpace.toList) ∧
          ∀ s ∈ custom.value.text?, '\n' ∉ s.toList := by
      decide
    exact each
  metadata := by
    intro metadata member
    cases member

theorem isTyped_imitating : imitating.IsTyped where
  texts := fun _ _ => rfl
  flags := fun _ _ => rfl
  internals := rfl

theorem isSerialisable_imitating : imitating.IsSerialisable := by
  intro custom member
  rcases List.mem_cons.1 member with rfl | later
  · exact ⟨_, rfl⟩
  · rw [List.mem_singleton.1 later]
    exact ⟨_, rfl⟩

theorem ofText_render_dialects_imitating :
    imitating.IsUnbroken ∧ ∃ square angle, render imitating .csharp = .ok square ∧
      render imitating .visualBasic = .ok angle ∧
      (ParseResult.ofText .csharp square).value .title = some "a]" ∧
      (ParseResult.ofText .visualBasic angle).value .title = some "a]" ∧
      (ParseResult.ofText .visualBasic angle).customAttributes = [] := by
  have unbroken := isUnbroken_imitating
  have typed := isTyped_imitating
  have serialisable := isSerialisable_imitating
  have made := render_eq typed serialisable .csharp
  obtain ⟨_, agree⟩ := ofText_render_dialects imitating unbroken
  rcases agree with ⟨fault, refused⟩ | ⟨square, angle, squareMade, angleMade, values, _, customs⟩
  · rw [refused] at made
    cases made
  · obtain rfl : _ = square := Except.ok.inj (made.symm.trans squareMade)
    have oneLine := isOneLine_build unbroken (build_eq typed serialisable)
    have title : (ParseResult.ofText .csharp ((empty.insertAll imitating.insertions).render .csharp)).value
        .title = some "a]" := by
      have declared : Field.title.declarations .csharp _ = _ :=
        declaredAll_render oneLine .csharp .quoted (attributeName_mem_knownNames .title)
      rw [ParseResult.value_ofText, declared, contents_insertAll]
      decide +kernel
    exact ⟨unbroken, _, angle, squareMade, angleMade, title, (values .title).symm.trans title, customs⟩

end Settings

end AssemblyInfo

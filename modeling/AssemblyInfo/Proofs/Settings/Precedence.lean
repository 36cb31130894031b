import AssemblyInfo.Proofs.Settings.Dialects

/-!
# What settings declare first

Fields are written before everything else. So what is set and not blank is what their source text
declares first, even if a custom attribute has the name of a well-known one, and it is what is read back.
-/

namespace AssemblyInfo
open Folded Text Model

theorem Value.text?_eq_some {value : Value} {s : String} : value.text? = some s ↔ value.now = .text s := by
  unfold text?
  split
  · rename_i text
    rw [text]
    simp
  · rename_i other
    constructor
    · intro impossible
      cases impossible
    · intro text
      exact absurd text (other s)

namespace Settings

variable {settings : Settings}

theorem IsUnbroken.isOneLine (unbroken : settings.IsUnbroken) : settings.IsOneLine where
  texts := by
    intro field s text
    have whole := unbroken.values field
    rw [← Value.isUnbroken_now, Value.text?_eq_some.1 text] at whole
    exact Value.isUnbroken_text.1 whole
  internals := by
    intro name member
    unfold internalsNames at member
    have whole := unbroken.internals
    rw [← Value.isUnbroken_now] at whole
    split at member
    · rename_i items list
      obtain ⟨item, present, text⟩ := List.mem_filterMap.1 member
      rw [list] at whole
      have each := Value.areUnbroken_eq_true.1 whole item present
      rw [← Value.isUnbroken_now, Value.text?_eq_some.1 text] at each
      exact Value.isUnbroken_text.1 each
    · cases member
  customs := fun custom member => (unbroken.customs custom member).2
  metadata := unbroken.metadata

instance (settings : Settings) : Decidable settings.IsUnbroken :=
  decidable_of_iff
    ((∀ field ∈ Field.all, (settings.value field).isUnbroken = true) ∧
      settings.internalsVisibleTo.isUnbroken = true ∧
      (∀ custom ∈ given settings.customAttributes,
        (∀ name ∈ custom.name, '\n' ∉ name.toList) ∧ (∀ nameSpace ∈ custom.nameSpace, '\n' ∉ nameSpace.toList) ∧
          ∀ s ∈ custom.value.text?, '\n' ∉ s.toList) ∧
      ∀ metadata ∈ given settings.metadataAttributes,
        (∀ nameSpace ∈ metadata.nameSpace, '\n' ∉ nameSpace.toList) ∧
          (∀ key ∈ metadata.key, '\n' ∉ key.toList) ∧ ∀ value ∈ metadata.value, '\n' ∉ value.toList)
    ⟨fun ⟨values, internals, customs, metadata⟩ =>
        ⟨fun field => values field field.mem_all, internals, customs, metadata⟩,
      fun unbroken => ⟨fun field _ => unbroken.values field, unbroken.internals, unbroken.customs, unbroken.metadata⟩⟩

theorem head?_declarations_build (typed : settings.IsTyped) (unbroken : settings.IsUnbroken) {model : Model}
    (built : build settings = .ok model) (dialect : Dialect) {field : Field} {text : String}
    (declared : settings.declaredValue field = some text) :
    (field.declarations dialect (model.render dialect).toList).head? = some text := by
  have oneLine := isOneLine_build unbroken built
  have reads := readsDeclarations_declaredOn? dialect field.form field.attributeName.toList
  rw [build_typed typed] at built
  split at built
  · cases built
  · obtain rfl := Except.ok.inj built
    rw [declarations_eq_filterMap, filterMap_splitLines_render_of_isOneLine oneLine reads, contents_insertAll,
      List.append_assoc, List.filterMap_append, List.filterMap_filterMap]
    simp only [Option.bind_map]
    -- The fields come first, so a custom attribute that imitates one is read after it.
    have first := filterMap_fields typed unbroken.isOneLine dialect field
    rw [declared] at first
    simp only [Function.comp_def]
    rw [first]
    rfl

theorem value_ofText_build (typed : settings.IsTyped) (unbroken : settings.IsUnbroken) {model : Model}
    (built : build settings = .ok model) (dialect : Dialect) {field : Field} {text : String}
    (declared : settings.declaredValue field = some text) :
    (ParseResult.ofText dialect (model.render dialect)).value field = some text := by
  rw [ParseResult.value_ofText, head?_declarations_build typed unbroken built dialect declared]
  rfl

theorem now_of_isSet {field : Field} (set : settings.isSet field = true) :
    (settings.value field).now = .bool true := by
  unfold isSet at set
  split at set
  · rename_i flag held
    rw [held, set]
  · cases set

/-! ### Overrides -/

/-- An override that is given and not empty prevails. -/
theorem value_override (settings : Settings) (field : Field) (text? : Option String) (other : Field) :
    (settings.override field text?).value other =
      (text?.filter fun text => field = other && text ≠ "").elim (settings.value other) .text := by
  cases text? with
  | none => rfl
  | some text =>
    unfold override
    rw [Option.filter_some]
    by_cases empty : text = ""
    · simp [empty]
    · by_cases same : field = other
      · simp [empty, same]
      · simp [empty, same, Ne.symm same]

theorem IsTyped.override (typed : settings.IsTyped) {field : Field} (noFlag : field.isFlag = false)
    (text? : Option String) : (settings.override field text?).IsTyped where
  texts := by
    intro other text
    rw [value_override]
    cases text?.filter _ with
    | some text => rfl
    | none => exact typed.texts other text
  flags := by
    intro other flag
    have different : field ≠ other := by
      rintro rfl
      rw [noFlag] at flag
      cases flag
    rw [value_override]
    simp [different, typed.flags other flag]
  internals := by
    unfold Settings.override
    split
    · exact typed.internals
    · split <;> exact typed.internals

theorem IsUnbroken.override (unbroken : settings.IsUnbroken) (field : Field) {text? : Option String}
    (single : ∀ text, text? = some text → '\n' ∉ text.toList) :
    (settings.override field text?).IsUnbroken := by
  have others : (settings.override field text?).internalsVisibleTo = settings.internalsVisibleTo ∧
      (settings.override field text?).customAttributes = settings.customAttributes ∧
      (settings.override field text?).metadataAttributes = settings.metadataAttributes := by
    unfold Settings.override
    split
    · exact ⟨rfl, rfl, rfl⟩
    · split <;> exact ⟨rfl, rfl, rfl⟩
  obtain ⟨internals, customs, metadata⟩ := others
  refine ⟨fun other => ?_, internals ▸ unbroken.internals, customs ▸ unbroken.customs,
    metadata ▸ unbroken.metadata⟩
  rw [value_override]
  cases given : text?.filter _ with
  | some text => exact Value.isUnbroken_text.2 (single text (Option.filter_eq_some_iff.1 given).1)
  | none => exact unbroken.values other

end Settings

end AssemblyInfo

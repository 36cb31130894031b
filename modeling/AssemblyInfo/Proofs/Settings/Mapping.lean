import AssemblyInfo.Proofs.Json.Flaw
import AssemblyInfo.Proofs.Settings.Typed
import AssemblyInfo.Proofs.Settings.Wanted
import AssemblyInfo.Settings.Load

/-!
# Models of mappings

Whatever a mapping holds, its settings have the declared types. So they give a model, unless an integer
that is wanted as a text is too long to be written, or a custom attribute with a name has a value without
a JSON form.
-/

namespace AssemblyInfo

/-- `entries.Barred fault` says that the mapping `entries` stands in the way of a model because of
`fault`. -/
inductive Entries.Barred (entries : Entries) : Fault → Prop
  | longInteger {value : Value} (wanted : value ∈ entries.wanted) (long : value.isLong = true) :
    Barred entries .longInteger
  | customAttribute {mappings : List Entries} {mapping : Entries} {name : String} {fault : Fault}
    (listed : entries.mappingsOf "custom_attributes" = some mappings) (member : mapping ∈ mappings)
    (named : mapping.textOf "name" = some name) (flawed : (mapping.valueOf "value").Flawed fault) :
    Barred entries fault

namespace Value

theorem isOptionalText_ofText? (text? : Option String) : (ofText? text?).isOptionalText = true := by
  cases text? <;> rfl

theorem isOptionalFlag_ofFlag? (flag? : Option Bool) : (ofFlag? flag?).isOptionalFlag = true := by
  cases flag? <;> rfl

theorem isOptionalTexts_texts (texts : List String) : (list (texts.map text)).isOptionalTexts = true := by
  change (texts.map text).all isOptionalText = true
  rw [List.all_map]
  exact List.all_eq_true.2 fun _ _ => rfl

end Value

namespace Settings

/-! ### Settings of mappings -/

theorem isTyped_settled (entries : Entries) : (settled entries).IsTyped where
  texts := by
    intro field noFlag
    change (entries.fieldOf field).isOptionalText = true
    rw [Entries.fieldOf, noFlag]
    exact Value.isOptionalText_ofText? _
  flags := by
    intro field flag
    change (entries.fieldOf field).isOptionalFlag = true
    rw [Entries.fieldOf, flag]
    exact Value.isOptionalFlag_ofFlag? _
  internals := by
    unfold settled
    dsimp only
    cases Value.lookup? "internals_visible_to" entries with
    | some value => exact Value.isOptionalTexts_texts _
    | none => rfl

theorem ofEntries_of_short {entries : Entries} (short : ∀ value ∈ entries.wanted, value.isLong = false) :
    ofEntries entries = .ok (settled entries) := by
  rw [ofEntries_eq, unlessLong, List.any_eq_false.2 fun value wanted => Bool.not_eq_true _ ▸ short value wanted]
  rfl

theorem ofEntries_eq_ok {entries : Entries} {settings : Settings} (given : ofEntries entries = .ok settings) :
    (∀ value ∈ entries.wanted, value.isLong = false) ∧ settings = settled entries := by
  rw [ofEntries_eq, unlessLong] at given
  split at given
  · cases given
  · rename_i short
    refine ⟨fun value wanted => ?_, (Except.ok.inj given).symm⟩
    rw [List.any_eq_true, not_exists] at short
    exact Bool.eq_false_iff.2 fun long => short value ⟨wanted, long⟩

theorem barred_of_ofEntries {entries : Entries} {fault : Fault} (failed : ofEntries entries = .error fault) :
    entries.Barred fault := by
  rw [ofEntries_eq, unlessLong] at failed
  split at failed
  · rename_i some
    obtain ⟨value, wanted, long⟩ := List.any_eq_true.1 some
    obtain rfl := Except.error.inj failed
    exact .longInteger wanted long
  · cases failed

/-! ### Custom attributes of mappings -/

theorem mem_given_settled {entries : Entries} {custom : CustomAttribute} :
    custom ∈ Model.given (settled entries).customAttributes ↔
      ∃ mappings, entries.mappingsOf "custom_attributes" = some mappings ∧
        ∃ mapping ∈ mappings, CustomAttribute.ofEntries mapping = custom := by
  unfold Model.given settled
  dsimp only
  cases entries.mappingsOf "custom_attributes" with
  | none => simp
  | some mappings => simp

theorem CustomAttribute.refusal?_eq_some {custom : CustomAttribute} {fault : Fault} :
    custom.refusal? = some fault ↔
      (∃ name, custom.name = some name) ∧ custom.value.serialise = .error fault := by
  unfold AssemblyInfo.CustomAttribute.refusal?
  cases custom.name <;> cases custom.value.serialise <;> simp

theorem barred_of_refusal? {entries : Entries} {fault : Fault}
    (refused : (settled entries).refusal? = some fault) : entries.Barred fault := by
  obtain ⟨custom, member, here⟩ := List.exists_of_findSome?_eq_some refused
  obtain ⟨mappings, listed, mapping, found, rfl⟩ := mem_given_settled.1 member
  obtain ⟨⟨name, named⟩, unwritten⟩ := CustomAttribute.refusal?_eq_some.1 here
  exact .customAttribute listed found named (Value.flawed_of_serialise unwritten)

theorem not_barred_of_build {entries : Entries} {model : Model}
    (short : ∀ value ∈ entries.wanted, value.isLong = false)
    (built : Model.build (settled entries) = .ok model) (fault : Fault) : ¬ entries.Barred fault := by
  intro barred
  cases barred with
  | longInteger wanted long =>
    rw [short _ wanted] at long
    cases long
  | @customAttribute mappings mapping name fault listed member named flawed =>
    rw [Model.build_typed (isTyped_settled entries)] at built
    cases refused : (settled entries).refusal? with
    | some other =>
      rw [refused] at built
      cases built
    | none =>
      have accepted := List.findSome?_eq_none_iff.1 refused _
        (mem_given_settled.2 ⟨mappings, listed, mapping, member, rfl⟩)
      cases outcome : (mapping.valueOf "value").serialise with
      | ok text => exact Value.not_flawed_of_serialise outcome fault flawed
      | error other =>
        have refusal : (CustomAttribute.ofEntries mapping).refusal? = some other :=
          CustomAttribute.refusal?_eq_some.2 ⟨⟨name, named⟩, outcome⟩
        rw [accepted] at refusal
        cases refusal

/-! ### Models of mappings -/

/-- The settings of a mapping give a model exactly if nothing in the mapping stands in the way, and
where they give none, the reason stands in the mapping. -/
theorem build_ofEntries (entries : Entries) :
    ((∃ model, (ofEntries entries).bind Model.build = .ok model) ↔ ∀ fault, ¬ entries.Barred fault) ∧
      ∀ fault, (ofEntries entries).bind Model.build = .error fault → entries.Barred fault := by
  have failing : ∀ fault, (ofEntries entries).bind Model.build = .error fault → entries.Barred fault := by
    intro fault failed
    rcases bind_eq_error.1 failed with first | ⟨settings, given, second⟩
    · exact barred_of_ofEntries first
    · obtain ⟨-, rfl⟩ := ofEntries_eq_ok given
      rw [Model.build_typed (isTyped_settled entries)] at second
      split at second
      · rename_i other refused
        obtain rfl := Except.error.inj second
        exact barred_of_refusal? refused
      · cases second
  refine ⟨⟨?_, ?_⟩, failing⟩
  · rintro ⟨model, built⟩
    obtain ⟨settings, given, built⟩ := bind_eq_ok.1 built
    obtain ⟨short, rfl⟩ := ofEntries_eq_ok given
    exact not_barred_of_build short built
  · intro sound
    cases outcome : (ofEntries entries).bind Model.build with
    | ok model => exact ⟨model, rfl⟩
    | error fault => exact absurd (failing fault outcome) (sound fault)

/-- A settings file in which a date is a key of a custom value. -/
def datedKey : String := "custom_attributes:\n- name: Released\n  value: {2020-01-02: first}\n"

/-- A date as a key stands in the way, though the settings file is read. -/
theorem build_datedKey :
    (∃ settings, ofBytes (Yaml.load outerLevels) "settings.yml" (Encoding.Utf8.encode datedKey.toList) = .ok settings) ∧
      (ofBytes (Yaml.load outerLevels) "settings.yml" (Encoding.Utf8.encode datedKey.toList)).bind Model.build =
        .error (.badKey "datetime.date") := by
  constructor
  · exact exists_ok_of_fault? (by decide +kernel)
  · exact eq_error_of_fault? (by decide +kernel)

end Settings

end AssemblyInfo

import AssemblyInfo.Proofs.Folded.NormalForm
import AssemblyInfo.Proofs.Settings.Declared

/-!
# The normal form of settings

The model of settings of the declared types holds the fields that are not null, the normal form of the
custom attributes and of the metadata, and each assembly with access to internals once. Descriptors that
are skipped could as well not be there.
-/

namespace AssemblyInfo
open Folded Text Model

/-! ### Descriptors -/

namespace CustomAttribute

/-- `custom.isAccepted` says that neither the name nor the value of `custom` is null. -/
def isAccepted (custom : CustomAttribute) : Bool :=
  match custom.name, custom.value.now with
  | none, _ | _, .null => false
  | _, _ => true

theorem name_and_value {custom : CustomAttribute} (accepted : custom.isAccepted = true) :
    ∃ name, custom.name = some name ∧ custom.value.now ≠ .null := by
  unfold isAccepted at accepted
  cases named : custom.name with
  | none =>
    rw [named] at accepted
    cases accepted
  | some name =>
    refine ⟨name, rfl, fun null => ?_⟩
    rw [named, null] at accepted
    cases accepted

theorem name_or_argument?_of_skipped {custom : CustomAttribute} (skipped : custom.isAccepted = false) :
    custom.name = none ∨ custom.argument? = none := by
  unfold isAccepted at skipped
  unfold argument?
  cases named : custom.name with
  | none => exact Or.inl rfl
  | some name =>
    rw [named] at skipped
    cases held : custom.value.now with
    | null => exact Or.inr rfl
    | _ =>
      rw [held] at skipped
      cases skipped

theorem insertion?_of_skipped {custom : CustomAttribute} (skipped : custom.isAccepted = false) :
    custom.insertion? = none := by
  unfold insertion?
  rcases name_or_argument?_of_skipped skipped with none | none
  · rw [none]
    rfl
  · rw [none]
    cases custom.name <;> rfl

theorem pair?_of_skipped {custom : CustomAttribute} (skipped : custom.isAccepted = false) :
    custom.pair? = none := by
  unfold pair?
  rcases name_or_argument?_of_skipped skipped with none | none
  · rw [none]
    rfl
  · rw [none]
    cases custom.name <;> rfl

/-- `Writes value text` says that `text` is `value` between quotes if it is a text, and otherwise `value` as
it is serialised. -/
def Writes (value : Value) (text : String) : Prop :=
  match value.now with
  | .text s => text = quote s
  | _ => value.serialise = .ok text

/-- A custom attribute that is neither skipped nor refused is written. -/
theorem pair?_of_accepted {custom : CustomAttribute} (accepted : custom.isAccepted = true)
    (kept : custom.refusal? = none) :
    ∃ name text, custom.name = some name ∧ Writes custom.value text ∧ custom.pair? = some (name, text) := by
  obtain ⟨name, named, present⟩ := name_and_value accepted
  obtain ⟨text, written⟩ : ∃ text, custom.value.serialise = .ok text := by
    rw [refusal?, named] at kept
    cases outcome : custom.value.serialise with
    | error fault =>
      rw [outcome] at kept
      cases kept
    | ok text => exact ⟨text, rfl⟩
  have plain := written
  rw [← Value.serialise_now] at plain
  suffices ∃ argument, Writes custom.value argument ∧ custom.argument? = some argument by
    obtain ⟨argument, writes, given⟩ := this
    refine ⟨name, argument, named, writes, ?_⟩
    rw [pair?, named, given]
    rfl
  unfold Writes argument?
  cases held : custom.value.now with
  | null => exact absurd held present
  | text s => exact ⟨quote s, rfl, rfl⟩
  | _ =>
    rw [held] at plain
    exact ⟨text, written, congrArg Except.toOption plain⟩

end CustomAttribute

namespace MetadataAttribute

/-- `metadata.isAccepted` says that neither the key nor the value of `metadata` is null. -/
def isAccepted (metadata : MetadataAttribute) : Bool :=
  metadata.key.isSome && metadata.value.isSome

theorem key_or_value_of_skipped {metadata : MetadataAttribute} (skipped : metadata.isAccepted = false) :
    metadata.key = none ∨ metadata.value = none := by
  unfold isAccepted at skipped
  rw [Bool.and_eq_false_iff, Option.isSome_eq_false_iff, Option.isNone_iff_eq_none, Option.isSome_eq_false_iff,
    Option.isNone_iff_eq_none] at skipped
  exact skipped

theorem insertion?_of_skipped {metadata : MetadataAttribute} (skipped : metadata.isAccepted = false) :
    metadata.insertion? = none := by
  unfold insertion?
  rcases key_or_value_of_skipped skipped with none | none
  · rw [none]
    rfl
  · rw [none]
    cases metadata.key <;> rfl

theorem pair?_of_skipped {metadata : MetadataAttribute} (skipped : metadata.isAccepted = false) :
    metadata.pair? = none := by
  unfold pair?
  rcases key_or_value_of_skipped skipped with none | none
  · rw [none]
    rfl
  · rw [none]
    cases metadata.key <;> rfl

theorem pair?_of_accepted {metadata : MetadataAttribute} (accepted : metadata.isAccepted = true) :
    ∃ key value, metadata.key = some key ∧ metadata.value = some value ∧
      metadata.pair? = some (quote key, quote value) := by
  unfold isAccepted at accepted
  rw [Bool.and_eq_true, Option.isSome_iff_exists, Option.isSome_iff_exists] at accepted
  obtain ⟨⟨key, keyed⟩, value, held⟩ := accepted
  refine ⟨key, value, keyed, held, ?_⟩
  rw [pair?, keyed, held]
  rfl

end MetadataAttribute

/-! ### Settings without what is skipped -/

theorem given_some {α : Type} (items : List α) : given (some (items.map some)) = items := by
  unfold given
  rw [Option.getD_some, List.filterMap_map]
  exact List.filterMap_some

/-- Items that give nothing can be left out. -/
theorem filterMap_filter_of_none {α β : Type} {keep : α → Bool} {part : α → Option β}
    (skipped : ∀ {item}, keep item = false → part item = none) (items : List α) :
    (items.filter keep).filterMap part = items.filterMap part := by
  rw [List.filterMap_filter]
  refine List.filterMap_congr fun item _ => ?_
  cases kept : keep item with
  | true => exact if_pos rfl
  | false => exact (if_neg Bool.false_ne_true).trans (skipped kept).symm

namespace Settings

/-- `settings.accepted` is `settings` without the descriptors and items that are skipped. -/
def accepted (settings : Settings) : Settings :=
  { settings with
    internalsVisibleTo := .list (settings.internalsNames.map .text)
    customAttributes := some (((given settings.customAttributes).filter CustomAttribute.isAccepted).map some)
    metadataAttributes :=
      some (((given settings.metadataAttributes).filter MetadataAttribute.isAccepted).map some) }

theorem internalsNames_accepted (settings : Settings) :
    settings.accepted.internalsNames = settings.internalsNames := by
  change (settings.internalsNames.map Value.text).filterMap Value.text? = settings.internalsNames
  rw [List.filterMap_map]
  exact List.filterMap_some

theorem customs_accepted (settings : Settings) :
    given settings.accepted.customAttributes =
      (given settings.customAttributes).filter CustomAttribute.isAccepted :=
  given_some _

theorem metadata_accepted (settings : Settings) :
    given settings.accepted.metadataAttributes =
      (given settings.metadataAttributes).filter MetadataAttribute.isAccepted :=
  given_some _

theorem insertions_accepted (settings : Settings) : settings.accepted.insertions = settings.insertions := by
  unfold insertions internalsInsertions
  rw [internalsNames_accepted, customs_accepted, metadata_accepted,
    filterMap_filter_of_none CustomAttribute.insertion?_of_skipped,
    filterMap_filter_of_none MetadataAttribute.insertion?_of_skipped]
  rfl

theorem IsTyped.accepted {settings : Settings} (typed : settings.IsTyped) : settings.accepted.IsTyped where
  texts := typed.texts
  flags := typed.flags
  internals := by
    change (settings.internalsNames.map Value.text).all Value.isOptionalText = true
    rw [List.all_map]
    exact List.all_eq_true.2 fun _ _ => rfl

theorem refusal?_accepted {settings : Settings} (kept : settings.refusal? = none) :
    settings.accepted.refusal? = none := by
  unfold refusal? at kept ⊢
  rw [customs_accepted]
  rw [List.findSome?_eq_none_iff] at kept ⊢
  intro custom member
  exact kept custom (List.mem_filter.1 member).1

variable {settings : Settings} {model : Model}

theorem eq_insertAll_of_build (typed : settings.IsTyped) (built : build settings = .ok model) :
    settings.refusal? = none ∧ model = empty.insertAll settings.insertions := by
  rw [build_typed typed] at built
  cases refused : settings.refusal? with
  | some fault =>
    rw [refused] at built
    cases built
  | none =>
    rw [refused] at built
    exact ⟨rfl, (Except.ok.inj built).symm⟩

theorem IsTyped.argument?_eq_none (typed : settings.IsTyped) (field : Field) :
    (settings.value field).argument? = none ↔ (settings.value field).now = .null := by
  unfold Value.argument?
  cases flag : field.isFlag with
  | false => rcases Value.eq_null_or_text (typed.texts field flag) with held | ⟨s, held⟩ <;> simp [held]
  | true => rcases Value.eq_null_or_flag (typed.flags field flag) with held | ⟨flag, held⟩ <;> simp [held]

/-- The model of settings of the declared types. Its attributes are the fields that are not null, in the
order of the fields. Custom attributes and metadata are the normal forms of the descriptors that are
accepted, all of which are written. Each assembly has access to internals once, as it is named first. What
is skipped leaves no trace: without it the model is the same. -/
theorem build_normalForm (typed : settings.IsTyped) (built : build settings = .ok model) :
    model.attributes.entries = (Field.all.filterMap fun field =>
      (settings.value field).argument?.map fun text => (field.attributeName, text)) ∧
    (∀ field, (settings.value field).argument? = none ↔ (settings.value field).now = .null) ∧
    model.customAttributes.entries =
      normalForm ((given settings.accepted.customAttributes).filterMap CustomAttribute.pair?) ∧
    (∀ custom ∈ given settings.accepted.customAttributes, ∃ name text,
      custom.name = some name ∧ CustomAttribute.Writes custom.value text ∧ custom.pair? = some (name, text)) ∧
    model.metadataAttributes.entries =
      normalForm ((given settings.accepted.metadataAttributes).filterMap MetadataAttribute.pair?) ∧
    (∀ metadata ∈ given settings.accepted.metadataAttributes, ∃ key value,
      metadata.key = some key ∧ metadata.value = some value ∧ metadata.pair? = some (quote key, quote value)) ∧
    model.internalsVisibleTo.items =
      firstsBy id (settings.internalsNames.map fun name => internalsFragment (unquote name)) ∧
    build settings.accepted = .ok model := by
  obtain ⟨kept, rfl⟩ := eq_insertAll_of_build typed built
  have customs := settings.customAttributes_insertAll
  have metadata := settings.metadataAttributes_insertAll
  rw [customEntries, insertPairs_eq_normalForm] at customs
  rw [metadataEntries, insertPairs_eq_normalForm] at metadata
  refine ⟨settings.attributes_insertAll, typed.argument?_eq_none, ?_, ?_, ?_, ?_,
    settings.internalsVisibleTo_insertAll_insertions, ?_⟩
  · rw [customs, customs_accepted, filterMap_filter_of_none CustomAttribute.pair?_of_skipped]
  · intro custom member
    rw [customs_accepted] at member
    obtain ⟨present, accepted⟩ := List.mem_filter.1 member
    exact CustomAttribute.pair?_of_accepted accepted (List.findSome?_eq_none_iff.1 kept custom present)
  · rw [metadata, metadata_accepted, filterMap_filter_of_none MetadataAttribute.pair?_of_skipped]
  · intro metadata member
    rw [metadata_accepted] at member
    exact MetadataAttribute.pair?_of_accepted (List.mem_filter.1 member).2
  · rw [build_typed typed.accepted, refusal?_accepted kept, insertions_accepted]

/-- Settings that name things twice, in different case, with descriptors between them that are skipped. -/
def repeating : Settings where
  value field :=
    match field with
    | .title => .text "Tools"
    | .clsCompliant => .bool true
    | _ => .null
  internalsVisibleTo := .list [.text "\"Tools.Tests\"", .null, .text "TOOLS.tests"]
  customAttributes := some [some ⟨some "Owner", some "Tools", .text "me"⟩, none,
    some ⟨none, some "Absent", .bool false⟩, some ⟨some "OWNER", none, .list [.bool true]⟩]
  metadataAttributes := some [some { key := some "Site", value := some "a" }, some { key := some "Page" },
    some { key := some "SITE", value := some "b" }]

theorem isTyped_repeating : repeating.IsTyped where
  texts := by
    intro field flag
    cases field <;> first | rfl | cases flag
  flags := by
    intro field flag
    cases field <;> first | rfl | cases flag
  internals := rfl

theorem isSerialisable_repeating : repeating.IsSerialisable := by
  have each : ∀ custom ∈ given repeating.customAttributes, custom.value.serialise.isOk = true := by
    decide +kernel
  intro custom member
  have written := each custom member
  cases outcome : custom.value.serialise with
  | ok text => exact ⟨text, rfl⟩
  | error fault =>
    rw [outcome] at written
    cases written

theorem build_normalForm_repeating :
    repeating.IsTyped ∧ ∃ model, build repeating = .ok model ∧
      model.attributes.entries = [("AssemblyTitle", "\"Tools\""), ("CLSCompliant", "true")] ∧
      model.customAttributes.entries = [("Owner", "[true]")] ∧
      model.metadataAttributes.entries = [("\"Site\"", "\"b\"")] ∧
      model.internalsVisibleTo.items = ["InternalsVisibleTo(\"Tools.Tests\")"] ∧
      build repeating.accepted = .ok model := by
  have built := build_eq isTyped_repeating isSerialisable_repeating
  obtain ⟨attributes, _, customs, _, metadata, _, internals, accepted⟩ :=
    build_normalForm isTyped_repeating built
  refine ⟨isTyped_repeating, _, built, ?_, ?_, ?_, ?_, accepted⟩
  · rw [attributes]
    decide +kernel
  · rw [customs]
    decide +kernel
  · rw [metadata]
    decide +kernel
  · rw [internals]
    decide +kernel

end Settings

end AssemblyInfo

import AssemblyInfo.Model.Render
import AssemblyInfo.Proofs.Settings.Typed
import AssemblyInfo.Proofs.Text.LowerCase

/-!
# What settings declare

The declarations in the source text of settings of the declared types: a declaration for each field
that is not null, one for each assembly with access to internals, and those for custom attributes and
metadata, of which the last argument for a name counts.
-/

namespace AssemblyInfo
open Folded Text Model

/-- `custom.pair?` is the name and the argument that `custom` is written with. -/
def CustomAttribute.pair? (custom : CustomAttribute) : Option (String × String) := do
  return (← custom.name, ← custom.argument?)

/-- `metadata.pair?` is the key and the value of `metadata`, both between quotes. -/
def MetadataAttribute.pair? (metadata : MetadataAttribute) : Option (String × String) := do
  return (quote (← metadata.key), quote (← metadata.value))

theorem CustomAttribute.of_pair? {custom : CustomAttribute} {pair : String × String}
    (made : custom.pair? = some pair) :
    custom.name = some pair.1 ∧ custom.argument? = some pair.2 := by
  unfold pair? at made
  obtain ⟨name, named, made⟩ := Option.bind_eq_some_iff.1 made
  obtain ⟨argument, written, made⟩ := Option.bind_eq_some_iff.1 made
  obtain rfl := Option.some.inj made
  exact ⟨named, written⟩

theorem MetadataAttribute.of_pair? {metadata : MetadataAttribute} {pair : String × String}
    (made : metadata.pair? = some pair) :
    ∃ key value, metadata.key = some key ∧ metadata.value = some value ∧ pair = (quote key, quote value) := by
  unfold pair? at made
  obtain ⟨key, keyed, made⟩ := Option.bind_eq_some_iff.1 made
  obtain ⟨value, valued, made⟩ := Option.bind_eq_some_iff.1 made
  exact ⟨key, value, keyed, valued, (Option.some.inj made).symm⟩

namespace Settings

variable (settings : Settings)

/-- `settings.friends` is the assemblies with access to internals, each once. -/
def friends : List String :=
  firstsBy id (settings.internalsNames.map unquote)

/-- `settings.customEntries` is the names and arguments of the custom attributes. -/
def customEntries : List (String × String) :=
  insertPairs [] ((given settings.customAttributes).filterMap CustomAttribute.pair?)

/-- `settings.metadataEntries` is the keys and values of the metadata. -/
def metadataEntries : List (String × String) :=
  insertPairs [] ((given settings.metadataAttributes).filterMap MetadataAttribute.pair?)

/-- The attribute of the metadata. -/
def metadataName : String := "AssemblyMetadata"

/-- `settings.unknownEntries` is the names and arguments of all attributes that are not well known. -/
def unknownEntries : List (String × String) :=
  settings.customEntries ++
    settings.metadataEntries.map fun entry => (metadataName, entry.1 ++ ", " ++ entry.2)

end Settings

/-! ### What insertions put where -/

section Parts

variable {settings : Settings} {target : ModelTable}

theorem pair?_fieldInsertion? (field : Field) :
    (settings.fieldInsertion? field).bind (Insertion.pair? target) =
      if ModelTable.attributes = target then
        (settings.value field).argument?.map fun text => (field.attributeName, text)
      else none := by
  unfold Settings.fieldInsertion?
  cases (settings.value field).argument? with
  | none => simp
  | some text => rfl

theorem pair?_internalsInsertions : settings.internalsInsertions.filterMap (Insertion.pair? target) = [] := by
  rw [List.filterMap_eq_nil_iff]
  intro insertion member
  unfold Settings.internalsInsertions at member
  rcases List.mem_append.1 member with allowed | required
  · obtain ⟨name, _, rfl⟩ := List.mem_map.1 allowed
    rfl
  · split at required
    · cases required
    · rw [List.mem_singleton.1 required]
      rfl

theorem pair?_customInsertion? (custom : CustomAttribute) :
    custom.insertion?.bind (Insertion.pair? target) =
      if ModelTable.customAttributes = target then custom.pair? else none := by
  unfold CustomAttribute.insertion? CustomAttribute.pair?
  cases custom.name with
  | none => simp
  | some name =>
    cases custom.argument? with
    | none => simp
    | some text => rfl

theorem pair?_metadataInsertion? (metadata : MetadataAttribute) :
    metadata.insertion?.bind (Insertion.pair? target) =
      if ModelTable.metadataAttributes = target then metadata.pair? else none := by
  unfold MetadataAttribute.insertion? MetadataAttribute.pair?
  cases metadata.key with
  | none => simp
  | some key =>
    cases metadata.value with
    | none => simp
    | some value => rfl

theorem filterMap_pair?_insertions (settings : Settings) (target : ModelTable) :
    settings.insertions.filterMap (Insertion.pair? target) =
      match target with
      | .attributes => Field.all.filterMap fun field =>
          (settings.value field).argument?.map fun text => (field.attributeName, text)
      | .customAttributes => (given settings.customAttributes).filterMap CustomAttribute.pair?
      | .metadataAttributes => (given settings.metadataAttributes).filterMap MetadataAttribute.pair? := by
  unfold Settings.insertions
  rw [List.filterMap_append, List.filterMap_append, List.filterMap_append, List.filterMap_filterMap,
    List.filterMap_filterMap, List.filterMap_filterMap, pair?_internalsInsertions]
  simp only [pair?_fieldInsertion?, pair?_customInsertion?, pair?_metadataInsertion?]
  cases target <;> simp

theorem filterMap_fragment?_insertions (settings : Settings) :
    settings.insertions.filterMap Insertion.fragment? =
      settings.internalsNames.map fun name => internalsFragment (unquote name) := by
  have customs : ((given settings.customAttributes).filterMap CustomAttribute.insertion?).filterMap
      Insertion.fragment? = [] := by
    rw [List.filterMap_filterMap, List.filterMap_eq_nil_iff]
    intro custom _
    unfold CustomAttribute.insertion?
    cases custom.name <;> cases custom.argument? <;> rfl
  have metadata : ((given settings.metadataAttributes).filterMap MetadataAttribute.insertion?).filterMap
      Insertion.fragment? = [] := by
    rw [List.filterMap_filterMap, List.filterMap_eq_nil_iff]
    intro metadata _
    unfold MetadataAttribute.insertion?
    cases metadata.key <;> cases metadata.value <;> rfl
  have required : (if settings.internalsNames.isEmpty then []
      else [Insertion.required internalsNameSpace]).filterMap Insertion.fragment? = [] := by
    split <;> rfl
  unfold Settings.insertions Settings.internalsInsertions
  rw [List.filterMap_append, List.filterMap_append, List.filterMap_append, List.filterMap_append,
    filterMap_fragment?_fieldInsertions, customs, metadata, required, List.filterMap_map, ← List.filterMap_eq_map]
  simp only [List.nil_append, List.append_nil]
  rfl

end Parts

/-! ### The contents of the model -/

/-- Behind its opening and before its closing a declaration for access has the lower case form of the
name alone. -/
theorem lower_internalsFragment (name : String) :
    lower (internalsFragment name) = "internalsvisibleto(\"" ++ lower name ++ "\")" := by
  have boundary := isBoundary_doubleQuote
  have start : (internalsFragment name).toList =
      "InternalsVisibleTo(".toList ++ '"' :: (name.toList ++ '"' :: [')']) := by
    simp [internalsFragment, internalsVisibleToName, quote]
  have opened : ∀ rest, lowerFrom [] ("InternalsVisibleTo(".toList ++ '"' :: rest) =
      "internalsvisibleto(\"".toList ++ lowerFrom ('"' :: "InternalsVisibleTo(".toList.reverse) rest :=
    fun _ => rfl
  have inner := lowerFrom_between boundary boundary [] name.toList
    "InternalsVisibleTo(".toList.reverse [')']
  have closed : ∀ before, lowerFrom before ['"', ')'] = ['"', ')'] := fun _ => rfl
  rw [List.nil_append, closed] at inner
  apply String.toList_inj.1
  rw [lower, lower, lowerChars, lowerChars, start, opened, inner]
  simp

theorem lower_internalsFragment_inj {first second : String} :
    lower (internalsFragment first) = lower (internalsFragment second) ↔ lower first = lower second := by
  rw [lower_internalsFragment, lower_internalsFragment, String.append_left_inj,
    String.append_right_inj]

namespace Settings

variable (settings : Settings)

theorem firstsBy_internalsFragment (names : List String) :
    firstsBy id (names.map internalsFragment) = (firstsBy id names).map internalsFragment := by
  rw [firstsBy_map]
  congr 1
  induction names with
  | nil => rfl
  | cons name rest ih =>
    rw [firstsBy, firstsBy, ih]
    refine congrArg (List.cons name) (List.filter_congr ?_)
    intro other _
    rw [Bool.eq_iff_iff]
    simp only [bne_iff_ne, ne_eq, lower_internalsFragment_inj, id]

theorem nodup_lower_attributeName : (Field.all.map fun field => lower field.attributeName).Nodup := by
  decide +kernel

theorem filterMap_map_sublist {α β γ : Type} (part : α → Option β) (name : α → γ) (items : List α) :
    (items.filterMap fun item => (part item).map fun _ => name item).Sublist (items.map name) := by
  induction items with
  | nil => exact List.Sublist.refl _
  | cons item rest ih =>
    rw [List.map_cons, List.filterMap_cons]
    cases part item with
    | none => exact ih.cons _
    | some content => exact ih.cons_cons _

/-- Every field that is not null has its attribute, in the order of the fields. -/
theorem attributes_insertAll :
    (empty.insertAll settings.insertions).attributes.entries =
      Field.all.filterMap fun field =>
        (settings.value field).argument?.map fun text => (field.attributeName, text) := by
  have entries := entries_insertAll empty settings.insertions .attributes
  rw [filterMap_pair?_insertions] at entries
  have within := filterMap_map_sublist (fun field => (settings.value field).argument?)
    (fun field => lower field.attributeName) Field.all
  refine entries.trans (insertPairs_of_nodup ?_)
  unfold foldedKeys
  refine (List.map_filterMap ..).symm ▸ ?_
  simp only [Option.map_map]
  exact nodup_lower_attributeName.sublist within

theorem customAttributes_insertAll :
    (empty.insertAll settings.insertions).customAttributes.entries = settings.customEntries := by
  have entries := entries_insertAll empty settings.insertions .customAttributes
  rw [filterMap_pair?_insertions] at entries
  exact entries

theorem metadataAttributes_insertAll :
    (empty.insertAll settings.insertions).metadataAttributes.entries = settings.metadataEntries := by
  have entries := entries_insertAll empty settings.insertions .metadataAttributes
  rw [filterMap_pair?_insertions] at entries
  exact entries

theorem internalsVisibleTo_insertAll_insertions :
    (empty.insertAll settings.insertions).internalsVisibleTo.items =
      firstsBy id (settings.internalsNames.map fun name => internalsFragment (unquote name)) := by
  rw [internalsVisibleTo_insertAll, filterMap_fragment?_insertions]
  exact Set.items_insertAll_empty _

/-- The declarations of settings: fields, access to internals, and what is not well known. -/
theorem contents_insertAll :
    (empty.insertAll settings.insertions).contents =
      (Field.all.filterMap fun field =>
        (settings.value field).argument?.map fun text => invocation field.attributeName text) ++
      settings.friends.map internalsFragment ++
      settings.unknownEntries.map fun entry => invocation entry.1 entry.2 := by
  have allowed : (empty.insertAll settings.insertions).internalsVisibleTo.items =
      settings.friends.map internalsFragment := by
    rw [internalsVisibleTo_insertAll_insertions, friends, ← firstsBy_internalsFragment, List.map_map]
    rfl
  unfold contents
  rw [attributes_insertAll, customAttributes_insertAll, metadataAttributes_insertAll, allowed,
    List.map_filterMap, unknownEntries, List.map_append, List.map_map, List.append_assoc]
  simp only [Option.map_map]
  rfl

end Settings

end AssemblyInfo

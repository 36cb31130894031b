import AssemblyInfo.Proofs.Model.Imports
import AssemblyInfo.Proofs.Settings.Dialects
import AssemblyInfo.Proofs.Settings.NormalForm

/-!
# Imports of settings

The source text of settings of the declared types imports each name space that they need once, in the
spelling in which it is needed first, and no other. Name spaces are sorted, not the lines that import them:
what ends such a line comes after a dot.
-/

namespace AssemblyInfo
open Folded Text Model

theorem Dialect.importLine_lt {first second : String} (below : first < second) :
    Dialect.visualBasic.importLine first < Dialect.visualBasic.importLine second := by
  unfold Dialect.importLine
  rw [String.lt_iff_toList_lt] at below ⊢
  rw [String.toList_append, String.toList_append]
  exact List.Lex.append_left _ below _

namespace Settings

/-- `settings.needed` is the name spaces that `settings` need: those of the fields that are not null, the one
for access to internals, and those of the descriptors that are accepted. -/
def needed (settings : Settings) : List String :=
  (Field.all.filterMap fun field => (settings.value field).argument?.map fun _ => field.nameSpace) ++
    (if settings.internalsNames.isEmpty then [] else [internalsNameSpace]) ++
    (given settings.accepted.customAttributes).filterMap (fun custom => custom.nameSpace.filter (· != "")) ++
    (given settings.accepted.metadataAttributes).filterMap fun metadata => metadata.nameSpace.filter (· != "")

theorem nameSpace?_internalsInsertions (settings : Settings) :
    settings.internalsInsertions.filterMap Insertion.nameSpace? =
      if settings.internalsNames.isEmpty then [] else [internalsNameSpace] := by
  unfold internalsInsertions
  have fragments : (settings.internalsNames.map internalsInsertion).filterMap Insertion.nameSpace? = [] := by
    rw [List.filterMap_map, List.filterMap_eq_nil_iff]
    exact fun _ _ => rfl
  rw [List.filterMap_append, fragments, List.nil_append]
  split <;> rfl

theorem nameSpace?_fieldInsertion? (settings : Settings) (field : Field) :
    (settings.fieldInsertion? field).bind Insertion.nameSpace? =
      (settings.value field).argument?.map fun _ => field.nameSpace := by
  unfold fieldInsertion?
  cases (settings.value field).argument? with
  | none => rfl
  | some text => cases field <;> rfl

theorem nameSpace?_insertions {settings : Settings} (kept : settings.refusal? = none) :
    settings.insertions.filterMap Insertion.nameSpace? = settings.needed := by
  rw [← insertions_accepted]
  unfold insertions
  rw [List.filterMap_append, List.filterMap_append, List.filterMap_append, List.filterMap_filterMap,
    List.filterMap_filterMap, List.filterMap_filterMap, nameSpace?_internalsInsertions, internalsNames_accepted]
  simp only [nameSpace?_fieldInsertion?]
  refine congrArg₂ _ (congrArg₂ _ rfl ?_) ?_
  · refine List.filterMap_congr fun custom member => ?_
    rw [customs_accepted] at member
    obtain ⟨present, accepted⟩ := List.mem_filter.1 member
    obtain ⟨name, text, _, _, made⟩ :=
      CustomAttribute.pair?_of_accepted accepted (List.findSome?_eq_none_iff.1 kept custom present)
    obtain ⟨named, written⟩ := CustomAttribute.of_pair? made
    unfold CustomAttribute.insertion?
    rw [named, written]
    rfl
  · refine List.filterMap_congr fun metadata member => ?_
    rw [metadata_accepted] at member
    obtain ⟨key, value, keyed, held, _⟩ := MetadataAttribute.pair?_of_accepted (List.mem_filter.1 member).2
    unfold MetadataAttribute.insertion?
    rw [keyed, held]
    rfl

variable {settings : Settings} {model : Model}

/-- The source text of settings without line feeds that give a model imports what the settings need, once
each, in strictly increasing order of the name spaces. Lines themselves increase only where nothing ends
them. -/
theorem importLines_render_build (typed : settings.IsTyped) (unbroken : settings.IsUnbroken)
    (built : build settings = .ok model) (dialect : Dialect) :
    ∃ text imports, render settings dialect = .ok text ∧
      dialect.importLines text = imports.map dialect.importLine ∧
      imports.Pairwise (· < ·) ∧ (foldedItems imports).Nodup ∧
      (∀ key, key ∈ foldedItems imports ↔ key ∈ foldedItems settings.needed) ∧
      (∀ nameSpace ∈ imports,
        settings.needed.find? (fun other => lower other = lower nameSpace) = some nameSpace) ∧
      (dialect = .visualBasic → (dialect.importLines text).Pairwise (· < ·)) := by
  have lines := importLines_render (isOneLine_build unbroken built) dialect
  have sorted := model.pairwise_sortedNameSpaces
  have perm := model.sortedNameSpaces_perm
  have items : model.nameSpaces.items = firstsBy id settings.needed := by
    obtain ⟨kept, rfl⟩ := eq_insertAll_of_build typed built
    rw [nameSpaces_insertAll, nameSpace?_insertions kept]
    exact Set.items_insertAll_empty _
  refine ⟨model.render dialect, model.sortedNameSpaces, ?_, lines, sorted, ?_, ?_, ?_, ?_⟩
  · rw [render, built]
    rfl
  · exact (perm.map lower).nodup_iff.2 model.nameSpaces.nodup_foldedItems
  · intro key
    rw [foldedItems, (perm.map lower).mem_iff, items]
    exact mem_map_firstsBy
  · intro nameSpace member
    rw [perm.mem_iff, items] at member
    exact find?_of_mem_firstsBy member
  · rintro rfl
    rw [lines, List.pairwise_map]
    exact sorted.imp Dialect.importLine_lt

theorem isUnbroken_repeating : repeating.IsUnbroken where
  values := by
    intro field
    cases field <;> decide
  internals := by decide
  customs := by
    have each : ∀ custom ∈ given repeating.customAttributes,
        (∀ name ∈ custom.name, '\n' ∉ name.toList) ∧ (∀ nameSpace ∈ custom.nameSpace, '\n' ∉ nameSpace.toList) ∧
          ∀ s ∈ custom.value.text?, '\n' ∉ s.toList := by
      decide
    exact each
  metadata := by
    have each : ∀ metadata ∈ given repeating.metadataAttributes,
        (∀ nameSpace ∈ metadata.nameSpace, '\n' ∉ nameSpace.toList) ∧ (∀ key ∈ metadata.key, '\n' ∉ key.toList) ∧
          ∀ value ∈ metadata.value, '\n' ∉ value.toList := by
      decide
    exact each

theorem needed_repeating : repeating.needed = ["System.Reflection", "System", internalsNameSpace, "Tools",
    "System.Reflection", "System.Reflection"] := by
  decide +kernel

theorem importLines_render_repeating :
    repeating.IsTyped ∧ repeating.IsUnbroken ∧ ∃ model, build repeating = .ok model ∧
      ∃ text imports, render repeating .csharp = .ok text ∧
        Dialect.csharp.importLines text = imports.map Dialect.csharp.importLine ∧ imports.Pairwise (· < ·) ∧
        ∀ key, key ∈ foldedItems imports ↔
          key ∈ ["system.reflection", "system", "system.runtime.compilerservices", "tools"] := by
  refine ⟨isTyped_repeating, isUnbroken_repeating, _, build_eq isTyped_repeating isSerialisable_repeating, ?_⟩
  obtain ⟨text, imports, rendered, lines, sorted, _, covered, _⟩ :=
    importLines_render_build isTyped_repeating isUnbroken_repeating
      (build_eq isTyped_repeating isSerialisable_repeating) .csharp
  refine ⟨text, imports, rendered, lines, sorted, fun key => ?_⟩
  have folded : foldedItems repeating.needed = ["system.reflection", "system", "system.runtime.compilerservices",
      "tools", "system.reflection", "system.reflection"] := by
    rw [needed_repeating]
    decide +kernel
  rw [covered, folded]
  grind

/-- The semicolon that ends a line comes after the dot that stands in its place in a longer name. -/
theorem importLines_render_unsorted :
    repeating.IsTyped ∧ repeating.IsUnbroken ∧ ∃ text, render repeating .csharp = .ok text ∧
      Dialect.csharp.importLines text = ["using System;", "using System.Reflection;",
        "using System.Runtime.CompilerServices;", "using Tools;"] ∧
      ¬ (Dialect.csharp.importLines text).Pairwise (· < ·) := by
  have built := build_eq isTyped_repeating isSerialisable_repeating
  have items : (empty.insertAll repeating.insertions).nameSpaces.items =
      ["System.Reflection", "System", "System.Runtime.CompilerServices", "Tools"] := by
    decide +kernel
  have sorted : (empty.insertAll repeating.insertions).sortedNameSpaces =
      ["System", "System.Reflection", "System.Runtime.CompilerServices", "Tools"] := by
    unfold sortedNameSpaces
    rw [items]
    simp [List.mergeSort, List.MergeSort.Internal.splitInTwo]
  have lines : Dialect.csharp.importLines ((empty.insertAll repeating.insertions).render .csharp) =
      ["using System;", "using System.Reflection;", "using System.Runtime.CompilerServices;", "using Tools;"] := by
    rw [importLines_render (isOneLine_build isUnbroken_repeating built), sorted]
    rfl
  refine ⟨isTyped_repeating, isUnbroken_repeating, _, by rw [render, built]; rfl, lines, ?_⟩
  rw [lines]
  decide +kernel

end Settings

end AssemblyInfo

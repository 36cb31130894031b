import AssemblyInfo.Proofs.Model.NameSpaces
import AssemblyInfo.Proofs.Model.OneLine
import Mathlib.Data.List.Nodup
import Mathlib.Data.String.Basic

/-!
# Import lines

The lines of a source text that import a name space are those of the name spaces of its model, in strictly
increasing order of the name spaces, if no text of the model holds a line feed.
-/

namespace AssemblyInfo
open Folded Text

namespace Dialect

/-- `dialect.isImport line` says that `line` imports a name space. -/
def isImport (dialect : Dialect) (line : List Char) : Bool :=
  match dialect with
  | .csharp => "using ".toList.isPrefixOf line && [';'].isSuffixOf line
  | .visualBasic => "Imports ".toList.isPrefixOf line

def importOn? (dialect : Dialect) (line : List Char) : Option String :=
  if dialect.isImport line then some (String.ofList line) else none

/-- `dialect.importLines text` is the lines of `text` that import a name space. -/
def importLines (dialect : Dialect) (text : String) : List String :=
  (splitLines text.toList).filterMap dialect.importOn?

theorem importOn?_importLine (dialect : Dialect) (nameSpace : String) :
    dialect.importOn? (dialect.importLine nameSpace).toList = some (dialect.importLine nameSpace) := by
  have isImport : dialect.isImport (dialect.importLine nameSpace).toList = true := by
    cases dialect with
    | csharp =>
      unfold Dialect.isImport importLine
      rw [String.toList_append, String.toList_append, Bool.and_eq_true, List.isPrefixOf_iff_prefix,
        List.isSuffixOf_iff_suffix]
      exact ⟨(List.prefix_append _ _).trans (List.prefix_append _ _), List.suffix_append _ _⟩
    | visualBasic =>
      unfold Dialect.isImport importLine
      rw [String.toList_append, List.isPrefixOf_iff_prefix]
      exact List.prefix_append _ _
  rw [importOn?, if_pos isImport, String.ofList_toList]

theorem importOn?_of_head (dialect : Dialect) (c : Char) (notUsing : c ≠ 'u') (notImports : c ≠ 'I')
    (rest : List Char) : dialect.importOn? (c :: rest) = none := by
  have other : dialect.isImport (c :: rest) = false := by
    cases dialect <;> simp [isImport, List.isPrefixOf, Ne.symm notUsing, Ne.symm notImports]
  rw [importOn?, other]
  rfl

theorem importOn?_headerLine (dialect : Dialect) {line : String} (member : line ∈ dialect.headerLines) :
    dialect.importOn? line.toList = none := by
  obtain ⟨text, _, rfl⟩ := List.mem_map.1 member
  rw [String.toList_append]
  cases dialect with
  | csharp => exact importOn?_of_head .csharp '/' (by decide) (by decide) _
  | visualBasic => exact importOn?_of_head .visualBasic '\'' (by decide) (by decide) _

theorem importOn?_declaration (dialect : Dialect) (content : String) :
    dialect.importOn? (dialect.declaration content).toList = none := by
  unfold declaration
  rw [String.toList_append, String.toList_append, List.append_assoc]
  cases dialect with
  | csharp => exact importOn?_of_head .csharp '[' (by decide) (by decide) _
  | visualBasic => exact importOn?_of_head .visualBasic '<' (by decide) (by decide) _

end Dialect

namespace Model

theorem importLines_render {model : Model} (oneLine : model.IsOneLine) (dialect : Dialect) :
    dialect.importLines (model.render dialect) = model.sortedNameSpaces.map dialect.importLine := by
  have single : ∀ line ∈ (model.lines dialect).map String.toList, '\n' ∉ line := by
    intro line member
    obtain ⟨text, found, rfl⟩ := List.mem_map.1 member
    unfold lines at found
    rw [List.mem_append, List.mem_append, List.mem_append] at found
    rcases found with ((header | imported) | blank) | declared
    · exact dialect.newline_notMem_headerLine header
    · obtain ⟨nameSpace, needed, rfl⟩ := List.mem_map.1 imported
      exact dialect.newline_notMem_importLine (oneLine.items .nameSpaces nameSpace (List.mem_mergeSort.1 needed))
    · rw [List.mem_singleton.1 blank]
      exact List.not_mem_nil
    · obtain ⟨content, held, rfl⟩ := List.mem_map.1 declared
      exact oneLine.declaration dialect held
  have none : dialect.importOn? [] = none := by
    cases dialect <;> rfl
  have blank : [""].filterMap (fun line => dialect.importOn? line.toList) = [] := by
    cases dialect <;> rfl
  have headers : dialect.headerLines.filterMap (fun line => dialect.importOn? line.toList) = [] :=
    List.filterMap_eq_nil_iff.2 fun line member => dialect.importOn?_headerLine member
  have declared : (model.contents.map dialect.declaration).filterMap
      (fun line => dialect.importOn? line.toList) = [] := by
    rw [List.filterMap_map, List.filterMap_eq_nil_iff]
    exact fun content _ => dialect.importOn?_declaration content
  have imports : (model.sortedNameSpaces.map dialect.importLine).filterMap
      (fun line => dialect.importOn? line.toList) = model.sortedNameSpaces.map dialect.importLine := by
    rw [List.filterMap_map, ← List.filterMap_eq_map]
    exact List.filterMap_congr fun nameSpace _ => dialect.importOn?_importLine nameSpace
  rw [Dialect.importLines, filterMap_splitLines_render none, flatMap_splitLines_of_newline_notMem single,
    List.filterMap_map, lines, List.filterMap_append, List.filterMap_append, List.filterMap_append]
  change dialect.headerLines.filterMap (fun line => dialect.importOn? line.toList) ++
    (model.sortedNameSpaces.map dialect.importLine).filterMap (fun line => dialect.importOn? line.toList) ++
    [""].filterMap (fun line => dialect.importOn? line.toList) ++
    (model.contents.map dialect.declaration).filterMap (fun line => dialect.importOn? line.toList) = _
  rw [headers, imports, blank, declared, List.nil_append, List.append_nil, List.append_nil]

theorem sortedNameSpaces_perm (model : Model) : model.sortedNameSpaces.Perm model.nameSpaces.items :=
  List.mergeSort_perm _ _

/-- Of the name spaces none is there twice, so their order is strict. -/
theorem pairwise_sortedNameSpaces (model : Model) : model.sortedNameSpaces.Pairwise (· < ·) := by
  have distinct : model.sortedNameSpaces.Pairwise (· ≠ ·) :=
    model.sortedNameSpaces_perm.nodup_iff.2 (List.Nodup.of_map lower model.nameSpaces.nodup_foldedItems)
  refine ((pairwise_sorted id model.nameSpaces.items).and distinct).imp fun ⟨below, apart⟩ => ?_
  exact lt_of_le_of_ne (of_decide_eq_true below) apart

end Model

end AssemblyInfo

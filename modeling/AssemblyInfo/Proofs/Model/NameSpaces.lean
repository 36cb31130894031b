import AssemblyInfo.Proofs.Model.Insertion
import AssemblyInfo.Proofs.Model.Lines
import AssemblyInfo.Proofs.Text.LowerCase
import AssemblyInfo.Proofs.Text.Sorted

/-!
# Imports of a source text

The name spaces of a model are sorted, so what was inserted determines their order. A name space that
is needed in one model and not in another leaves all other imports where they are.
-/

namespace AssemblyInfo
open Folded Text

theorem mergeSort_filter (keep : String → Bool) (items : List String) :
    (items.mergeSort fun a b => decide (a ≤ b)).filter keep =
      (items.filter keep).mergeSort fun a b => decide (a ≤ b) := by
  have same : ((items.mergeSort fun a b => decide (a ≤ b)).filter keep).Perm
      ((items.filter keep).mergeSort fun a b => decide (a ≤ b)) :=
    ((List.mergeSort_perm items _).filter keep).trans (List.mergeSort_perm _ _).symm
  refine List.Perm.eq_of_pairwise ?_ ((pairwise_sorted id items).filter keep) (pairwise_sorted id _) same
  intro a b _ _ below above
  rw [decide_eq_true_eq] at below above
  exact String.le_antisymm below above

namespace Model

theorem sortedNameSpaces_insertAll (insertions : List Insertion) (spelling : String) :
    (empty.insertAll insertions).sortedNameSpaces.filter (apartFrom spelling) =
      (firstsBy id ((insertions.filterMap Insertion.nameSpace?).filter (apartFrom spelling))).mergeSort
        fun a b => decide (a ≤ b) := by
  have items : (empty.insertAll insertions).nameSpaces.items =
      firstsBy id (insertions.filterMap Insertion.nameSpace?) := by
    rw [nameSpaces_insertAll]
    exact Set.items_insertAll_empty _
  unfold sortedNameSpaces
  rw [mergeSort_filter, items, firstsBy_filter]

variable {α : Type} {read : List Char → Option α}

/-- A name space on one line is of no account to what is read from the imports. -/
theorem read_imports_apartFrom (reads : ReadsDeclarations read) (dialect : Dialect) {spelling : String}
    (single : '\n' ∉ (lower spelling).toList) (nameSpaces : List String) :
    (nameSpaces.flatMap fun nameSpace =>
      (splitLines (dialect.importLine nameSpace).toList).filterMap read) =
    (nameSpaces.filter (apartFrom spelling)).flatMap fun nameSpace =>
      (splitLines (dialect.importLine nameSpace).toList).filterMap read := by
  induction nameSpaces with
  | nil => rfl
  | cons nameSpace rest ih =>
    by_cases same : lower nameSpace = lower spelling
    · have out : ¬ apartFrom spelling nameSpace = true := fun kept => apartFrom_eq_true.1 kept same
      have oneLine : '\n' ∉ nameSpace.toList := by
        intro member
        rw [← same] at single
        exact single (newline_mem_lower member)
      rw [List.flatMap_cons, dialect.filterMap_splitLines_importLine reads oneLine, List.nil_append, ih,
        List.filter_cons_of_neg out]
    · have kept : apartFrom spelling nameSpace = true := apartFrom_eq_true.2 same
      rw [List.flatMap_cons, ih, List.filter_cons_of_pos kept, List.flatMap_cons]

/-- Two models that need the same name spaces apart from one on one line are the same to a reader of
their imports. -/
theorem read_imports_eq (reads : ReadsDeclarations read) (dialect : Dialect) {spelling : String}
    (single : '\n' ∉ (lower spelling).toList) {first second : List Insertion}
    (same : (first.filterMap Insertion.nameSpace?).filter (apartFrom spelling) =
      (second.filterMap Insertion.nameSpace?).filter (apartFrom spelling)) :
    ((empty.insertAll first).sortedNameSpaces.flatMap fun nameSpace =>
      (splitLines (dialect.importLine nameSpace).toList).filterMap read) =
    (empty.insertAll second).sortedNameSpaces.flatMap fun nameSpace =>
      (splitLines (dialect.importLine nameSpace).toList).filterMap read := by
  rw [read_imports_apartFrom reads dialect single, sortedNameSpaces_insertAll, same,
    ← sortedNameSpaces_insertAll, ← read_imports_apartFrom reads dialect single]

end Model

end AssemblyInfo

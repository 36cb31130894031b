import AssemblyInfo.Model.Render
import AssemblyInfo.Proofs.Declaration.Line
import Mathlib.Data.List.Basic

/-!
# Lines of a source text

What can be read from the source text of a model, line by line: nothing from its comment and its
imports, and from a declaration what its argument gives to the attribute that it names.
-/

namespace AssemblyInfo
open Text

/-! ### Splitting a rendered text -/

namespace Text

theorem splitLines_flatMap_append (lines : List (List Char)) (rest : List Char) :
    splitLines ((lines.flatMap fun line => line ++ ['\n']) ++ rest) = lines.flatMap splitLines ++ splitLines rest := by
  induction lines with
  | nil => rfl
  | cons line others ih =>
    rw [List.flatMap_cons, List.append_assoc, List.append_assoc, List.singleton_append, splitLines_append, ih,
      List.flatMap_cons, List.append_assoc]

theorem flatMap_splitLines_of_newline_notMem {lines : List (List Char)}
    (single : ∀ line ∈ lines, '\n' ∉ line) : lines.flatMap splitLines = lines := by
  induction lines with
  | nil => rfl
  | cons line rest ih =>
    rw [List.forall_mem_cons] at single
    rw [List.flatMap_cons, splitLines_of_newline_notMem single.1, ih single.2, List.singleton_append]

variable {α : Type} {read : List Char → Option α}

/-- Line feeds at the end add empty lines only. -/
theorem filterMap_splitLines_append_replicate (empty : read [] = none) (chars : List Char) (n : Nat) :
    (splitLines (chars ++ List.replicate n '\n')).filterMap read =
      (splitLines chars).filterMap read := by
  induction n with
  | zero => rw [List.replicate_zero, List.append_nil]
  | succ n ih =>
    rw [List.replicate_succ', ← List.append_assoc, splitLines_append, List.filterMap_append, ih]
    simp [splitLines, empty]

theorem filterMap_splitLines_endWithNewline (empty : read [] = none) (chars : List Char) :
    (splitLines (endWithNewline chars)).filterMap read = (splitLines chars).filterMap read := by
  have parts := List.takeWhile_append_dropWhile (p := (· == '\n')) (l := chars.reverse)
  have feeds : chars.reverse.takeWhile (· == '\n') =
      List.replicate (chars.reverse.takeWhile (· == '\n')).length '\n' :=
    List.eq_replicate_of_mem fun c member => by
      simpa using List.all_eq_true.1 List.all_takeWhile c member
  have whole : chars = (chars.reverse.dropWhile (· == '\n')).reverse ++
      List.replicate (chars.reverse.takeWhile (· == '\n')).length '\n' := by
    rw [← List.reverse_replicate, ← feeds, ← List.reverse_append, parts, List.reverse_reverse]
  have trailing := filterMap_splitLines_append_replicate empty
    (chars.reverse.dropWhile (· == '\n')).reverse (chars.reverse.takeWhile (· == '\n')).length
  rw [← whole] at trailing
  rw [endWithNewline, ← List.replicate_one, filterMap_splitLines_append_replicate empty]
  exact trailing.symm

/-- What ends in a line feed anyway stays as it is, but for what follows the line feed. -/
theorem exists_endWithNewline {c : Char} (other : c ≠ '\n') (start rest : List Char) :
    ∃ tail, endWithNewline (start ++ c :: '\n' :: rest) = start ++ c :: '\n' :: tail := by
  have reversed : (start ++ c :: '\n' :: rest).reverse = rest.reverse ++ '\n' :: c :: start.reverse := by simp
  unfold endWithNewline
  rw [reversed, List.dropWhile_append]
  split
  · exact ⟨[], by simp [other]⟩
  · exact ⟨(rest.reverse.dropWhile (· == '\n')).reverse ++ ['\n'], by simp⟩

end Text

/-- `read` finds nothing on lines that start with something else than a blank or a bracket. -/
structure ReadsDeclarations {α : Type} (read : List Char → Option α) : Prop where
  empty : read [] = none
  other : ∀ c rest, isBlank c = false → c ≠ '[' → c ≠ '<' → read (c :: rest) = none

theorem readsDeclarations_declaredOn? (dialect : Dialect) (form : ArgumentForm) (name : List Char) :
    ReadsDeclarations (declaredOn? dialect form name) where
  empty := declaredOn?_nil dialect form
  other := by
    intro c rest solid notSquare notAngle
    apply declaredOn?_of_head dialect form solid
    cases dialect with
    | csharp => exact notSquare
    | visualBasic => exact notAngle

theorem readsDeclarations_customOn? : ReadsDeclarations customOn? where
  empty := customOn?_nil
  other := fun _ _ _ notSquare _ => customOn?_of_head notSquare _

namespace Dialect

variable {α : Type} {read : List Char → Option α}

theorem read_headerLine (reads : ReadsDeclarations read) (dialect : Dialect) {line : String}
    (member : line ∈ dialect.headerLines) : read line.toList = none := by
  obtain ⟨text, _, rfl⟩ := List.mem_map.1 member
  rw [String.toList_append]
  cases dialect with
  | csharp => exact reads.other '/' _ rfl (by decide) (by decide)
  | visualBasic => exact reads.other '\'' _ rfl (by decide) (by decide)

theorem read_importLine (reads : ReadsDeclarations read) (dialect : Dialect) (nameSpace : String) :
    read (dialect.importLine nameSpace).toList = none := by
  cases dialect with
  | csharp =>
    rw [importLine, String.toList_append, String.toList_append]
    exact reads.other 'u' _ rfl (by decide) (by decide)
  | visualBasic =>
    rw [importLine, String.toList_append]
    exact reads.other 'I' _ rfl (by decide) (by decide)

theorem newline_notMem_headerLine (dialect : Dialect) {line : String}
    (member : line ∈ dialect.headerLines) : '\n' ∉ line.toList := by
  obtain ⟨text, found, rfl⟩ := List.mem_map.1 member
  have mark : '\n' ∉ dialect.commentMark.toList := by
    cases dialect <;> decide
  have plain : '\n' ∉ text.toList := by
    clear member
    revert text
    decide +kernel
  rw [String.toList_append, List.mem_append]
  exact not_or.2 ⟨mark, plain⟩

theorem newline_notMem_importLine (dialect : Dialect) {nameSpace : String}
    (single : '\n' ∉ nameSpace.toList) : '\n' ∉ (dialect.importLine nameSpace).toList := by
  cases dialect with
  | csharp =>
    rw [importLine, String.toList_append, String.toList_append, List.mem_append, List.mem_append]
    rintro ((start | name) | last)
    · exact absurd start (by decide)
    · exact single name
    · exact absurd last (by decide)
  | visualBasic =>
    rw [importLine, String.toList_append, List.mem_append]
    rintro (start | name)
    · exact absurd start (by decide)
    · exact single name

theorem filterMap_splitLines_importLine (reads : ReadsDeclarations read) (dialect : Dialect)
    {nameSpace : String} (single : '\n' ∉ nameSpace.toList) :
    (splitLines (dialect.importLine nameSpace).toList).filterMap read = [] := by
  rw [splitLines_of_newline_notMem (dialect.newline_notMem_importLine single), List.filterMap_cons,
    dialect.read_importLine reads]
  rfl

end Dialect

namespace Model

variable {α : Type} {read : List Char → Option α}

/-- Reading the source text of a model by lines reads the lines that it is made of. -/
theorem filterMap_splitLines_render (empty : read [] = none) (model : Model) (dialect : Dialect) :
    (splitLines (model.render dialect).toList).filterMap read =
      (((model.lines dialect).map String.toList).flatMap splitLines).filterMap read := by
  have lines : (model.lines dialect).flatMap (fun line => line.toList ++ ['\n']) =
      (((model.lines dialect).map String.toList).flatMap fun line => line ++ ['\n']) ++ [] := by
    rw [List.flatMap_map, List.append_nil]
  rw [render, String.toList_ofList, filterMap_splitLines_endWithNewline empty, lines,
    splitLines_flatMap_append, List.filterMap_append]
  simp [splitLines, empty]

/-- Only the imports and the declarations of a source text are read, each by its own lines. -/
theorem filterMap_splitLines_render_eq (reads : ReadsDeclarations read) (model : Model) (dialect : Dialect) :
    (splitLines (model.render dialect).toList).filterMap read =
      (model.sortedNameSpaces.flatMap fun nameSpace =>
        (splitLines (dialect.importLine nameSpace).toList).filterMap read) ++
      model.contents.flatMap fun content =>
        (splitLines (dialect.declaration content).toList).filterMap read := by
  have headers : (dialect.headerLines.map String.toList).filterMap read = [] := by
    rw [List.filterMap_eq_nil_iff]
    intro line member
    obtain ⟨text, found, rfl⟩ := List.mem_map.1 member
    exact dialect.read_headerLine reads found
  have single : ∀ line ∈ dialect.headerLines.map String.toList, '\n' ∉ line := by
    intro line member
    obtain ⟨text, found, rfl⟩ := List.mem_map.1 member
    exact dialect.newline_notMem_headerLine found
  have blank : ([""].map String.toList).flatMap splitLines = [[]] := rfl
  rw [filterMap_splitLines_render reads.empty, lines, List.map_append, List.map_append, List.map_append,
    List.flatMap_append, List.flatMap_append, List.flatMap_append,
    flatMap_splitLines_of_newline_notMem single, blank, List.filterMap_append, List.filterMap_append,
    List.filterMap_append, headers, List.nil_append, List.map_map, List.map_map, List.flatMap_map,
    List.flatMap_map, List.filterMap_flatMap, List.filterMap_flatMap]
  simp [reads.empty]

/-- If no text that goes into the source text holds a line feed, only its declarations are read. -/
theorem filterMap_splitLines_render_of_oneLine (reads : ReadsDeclarations read) {model : Model}
    {dialect : Dialect} (nameSpaces : ∀ nameSpace ∈ model.nameSpaces.items, '\n' ∉ nameSpace.toList)
    (contents : ∀ content ∈ model.contents, '\n' ∉ (dialect.declaration content).toList) :
    (splitLines (model.render dialect).toList).filterMap read =
      model.contents.filterMap fun content => read (dialect.declaration content).toList := by
  have imports : (model.sortedNameSpaces.flatMap fun nameSpace =>
      (splitLines (dialect.importLine nameSpace).toList).filterMap read) = [] := by
    rw [List.flatMap_eq_nil_iff]
    intro nameSpace member
    have single := nameSpaces nameSpace (List.mem_mergeSort.1 member)
    exact dialect.filterMap_splitLines_importLine reads single
  rw [filterMap_splitLines_render_eq reads, imports, List.nil_append, List.filterMap_eq_flatMap_toList]
  apply List.flatMap_congr
  intro content member
  rw [splitLines_of_newline_notMem (contents content member), List.filterMap_cons]
  cases read (dialect.declaration content).toList <;> rfl

end Model

end AssemblyInfo

import AssemblyInfo.ParseResult.Basic
import AssemblyInfo.Proofs.Text.Pattern

/-!
# Declarations by lines

A text declares what its lines declare, in their order. So what two texts declare together, one
after the other with a line feed between them, is what the first declares followed by what the second
declares.
-/

namespace AssemblyInfo
open Text

/-- `declaredOn? dialect form name line` is the argument of the declaration of `name` on `line`. -/
def declaredOn? (dialect : Dialect) (form : ArgumentForm) (name line : List Char) : Option String :=
  ((declarationPattern dialect form name).kept? line).bind argumentOf?

/-- `customOn? line` is the declaration on `line` of an attribute that is not well known. -/
def customOn? (line : List Char) : Option CustomDeclaration :=
  (customPattern.kept? line).bind customOf?

namespace Dialect

/-- The character that declarations start with. -/
def firstChar : Dialect → Char
  | .csharp => '['
  | .visualBasic => '<'

theorem opening_eq_cons (dialect : Dialect) :
    dialect.opening.toList = dialect.firstChar :: dialect.opening.toList.tail := by
  cases dialect <;> rfl

theorem firstChar_not_blank (dialect : Dialect) : isBlank dialect.firstChar = false := by
  cases dialect <;> rfl

theorem newline_notMem_opening (dialect : Dialect) : '\n' ∉ dialect.opening.toList := by
  cases dialect <;> decide

end Dialect

theorem newline_notMem_fixed (form : ArgumentForm) :
    '\n' ∉ reflectionPath ∧ '\n' ∉ attributeEnding ∧ '\n' ∉ form.opening ∧ '\n' ∉ form.closing := by
  cases form <;> decide

theorem declarationPattern_staysOnLine (dialect : Dialect) (form : ArgumentForm) {name : List Char}
    (single : '\n' ∉ name) :
    ∀ part ∈ (declarationPattern dialect form name).tail, part.StaysOnLine := by
  obtain ⟨path, ending, opening, closing⟩ := newline_notMem_fixed form
  simp only [declarationPattern, List.tail_cons, List.forall_mem_cons, PatternPart.StaysOnLine]
  exact ⟨dialect.newline_notMem_opening, path, single, ending, by decide, opening, rfl, closing,
    fun _ impossible => (List.not_mem_nil impossible).elim⟩

theorem customPattern_staysOnLine : ∀ part ∈ customPattern, part.StaysOnLine := by
  obtain ⟨_, ending, opening, closing⟩ := newline_notMem_fixed .bare
  simp only [customPattern, List.forall_mem_cons, PatternPart.StaysOnLine]
  exact ⟨Dialect.csharp.newline_notMem_opening, by decide, ending, by decide, opening, rfl, closing,
    fun _ impossible => (List.not_mem_nil impossible).elim⟩

theorem declaredAll_eq_filterMap (dialect : Dialect) (form : ArgumentForm) {name : String}
    (single : '\n' ∉ name.toList) (text : List Char) :
    declaredAll dialect form name text =
      (splitLines text).filterMap (declaredOn? dialect form name.toList) := by
  have inLine := declarationPattern_staysOnLine dialect form single
  have pattern : declarationPattern dialect form name.toList =
      .run isBlank :: .literal (dialect.firstChar :: dialect.opening.toList.tail) ::
        (declarationPattern dialect form name.toList).tail.tail := by
    rw [← dialect.opening_eq_cons]
    rfl
  rw [pattern] at inLine
  rw [declaredAll, pattern,
    Pattern.findAll_indented_eq_filterMap_splitLines dialect.firstChar_not_blank inLine, ← pattern,
    List.filterMap_filterMap]
  rfl

theorem customAll_eq_filterMap (text : List Char) :
    customAll text = (splitLines text).filterMap customOn? := by
  rw [customAll, customPattern, Dialect.csharp.opening_eq_cons,
    Pattern.findAll_eq_filterMap_splitLines, List.filterMap_filterMap]
  · rw [← Dialect.opening_eq_cons]
    rfl
  · rw [← Dialect.opening_eq_cons]
    exact customPattern_staysOnLine

theorem newline_notMem_attributeName (field : Field) : '\n' ∉ field.attributeName.toList := by
  cases field <;> decide

theorem newline_notMem_internalsVisibleToName : '\n' ∉ internalsVisibleToName.toList := by
  decide

theorem declarations_eq_filterMap (field : Field) (dialect : Dialect) (text : List Char) :
    field.declarations dialect text =
      (splitLines text).filterMap (declaredOn? dialect field.form field.attributeName.toList) :=
  declaredAll_eq_filterMap dialect field.form (newline_notMem_attributeName field) text

namespace ParseResult

theorem value_ofText (dialect : Dialect) (text : String) (field : Field) :
    (ofText dialect text).value field = (field.declarations dialect text.toList).head?.or field.default := rfl

theorem internalsVisibleTo_ofText (dialect : Dialect) (text : String) :
    (ofText dialect text).internalsVisibleTo =
      declaredAll dialect .quoted internalsVisibleToName text.toList := rfl

theorem customAttributes_ofText (dialect : Dialect) (text : String) :
    (ofText dialect text).customAttributes = customAll text.toList := rfl

/-- What two texts declare together is what the one declares followed by what the other declares. Of
the declarations of a field the first one in the two texts counts. -/
theorem ofText_append (dialect : Dialect) (first second : String) :
    let joined := first ++ "\n" ++ second
    (∀ field : Field, field.declarations dialect joined.toList =
      field.declarations dialect first.toList ++ field.declarations dialect second.toList) ∧
    declaredAll dialect .quoted internalsVisibleToName joined.toList =
      declaredAll dialect .quoted internalsVisibleToName first.toList ++
        declaredAll dialect .quoted internalsVisibleToName second.toList ∧
    customAll joined.toList = customAll first.toList ++ customAll second.toList ∧
    (∀ field : Field, (ofText dialect joined).value field =
      ((field.declarations dialect first.toList).head?.or
        (field.declarations dialect second.toList).head?).or field.default) ∧
    (ofText dialect joined).internalsVisibleTo =
      (ofText dialect first).internalsVisibleTo ++ (ofText dialect second).internalsVisibleTo ∧
    (ofText dialect joined).customAttributes =
      (ofText dialect first).customAttributes ++ (ofText dialect second).customAttributes := by
  intro joined
  have lines : splitLines joined.toList = splitLines first.toList ++ splitLines second.toList := by
    rw [← splitLines_append]
    simp [joined]
  have fields : ∀ field : Field, field.declarations dialect joined.toList =
      field.declarations dialect first.toList ++ field.declarations dialect second.toList := by
    intro field
    rw [declarations_eq_filterMap, declarations_eq_filterMap, declarations_eq_filterMap, lines,
      List.filterMap_append]
  have internals : declaredAll dialect .quoted internalsVisibleToName joined.toList =
      declaredAll dialect .quoted internalsVisibleToName first.toList ++
        declaredAll dialect .quoted internalsVisibleToName second.toList := by
    have byLines := declaredAll_eq_filterMap dialect .quoted newline_notMem_internalsVisibleToName
    rw [byLines, byLines, byLines, lines, List.filterMap_append]
  have custom : customAll joined.toList = customAll first.toList ++ customAll second.toList := by
    rw [customAll_eq_filterMap, customAll_eq_filterMap, customAll_eq_filterMap, lines,
      List.filterMap_append]
  refine ⟨fields, internals, custom, fun field => ?_, internals, custom⟩
  change (field.declarations dialect joined.toList).head?.or field.default = _
  rw [fields field, List.head?_append]

end ParseResult

end AssemblyInfo

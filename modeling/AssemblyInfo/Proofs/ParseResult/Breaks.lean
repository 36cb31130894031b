import AssemblyInfo.Proofs.ParseResult.Lines

/-!
# Line breaks of two characters

A text whose lines end in a carriage return and a line feed declares what the same text declares with line
feeds alone. A carriage return at the end of a line comes after the closing of every declaration on it.
-/

namespace AssemblyInfo

namespace Text

/-- `pairBreaks chars` is `chars` with a carriage return before each line feed. -/
def pairBreaks (chars : List Char) : List Char :=
  chars.flatMap fun c => if c = '\n' then ['\r', '\n'] else [c]

theorem pairBreaks_line {line : List Char} (single : '\n' ∉ line) : pairBreaks line = line := by
  induction line with
  | nil => rfl
  | cons c rest ih =>
    rw [List.mem_cons, not_or] at single
    rw [pairBreaks, List.flatMap_cons, if_neg (Ne.symm single.1)]
    exact congrArg (c :: ·) (ih single.2)

theorem pairBreaks_append_newline {line : List Char} (single : '\n' ∉ line) (rest : List Char) :
    pairBreaks (line ++ '\n' :: rest) = (line ++ ['\r']) ++ '\n' :: pairBreaks rest := by
  have here := pairBreaks_line single
  unfold pairBreaks at here ⊢
  rw [List.flatMap_append, here, List.flatMap_cons, if_pos rfl, List.append_assoc]
  rfl

/-- What is found on lines is found on them with a carriage return at their end, if it is on one. -/
theorem filterMap_splitLines_pairBreaks {α : Type} {found? : List Char → Option α}
    (same : ∀ line, found? (line ++ ['\r']) = found? line) (text : List Char) :
    (splitLines (pairBreaks text)).filterMap found? = (splitLines text).filterMap found? := by
  induction text using lines_induction with
  | last line single => rw [pairBreaks_line single]
  | further line rest single ih =>
    have returned : '\n' ∉ line ++ ['\r'] := by
      rw [List.mem_append, not_or]
      exact ⟨single, by decide⟩
    rw [pairBreaks_append_newline single, splitLines_append, splitLines_append,
      splitLines_of_newline_notMem single, splitLines_of_newline_notMem returned, List.filterMap_append,
      List.filterMap_append, ih]
    exact congrArg (· ++ _) (by rw [List.filterMap_cons, List.filterMap_cons, same line])

end Text

open Text

/-! ### Carriage returns after declarations -/

theorem return_notMem_fixed (dialect : Dialect) (form : ArgumentForm) :
    '\r' ∉ dialect.opening.toList ∧ '\r' ∉ reflectionPath ∧ '\r' ∉ attributeEnding ∧ '\r' ∉ form.opening ∧
      '\r' ∉ form.closing := by
  cases dialect <;> cases form <;> decide

theorem declaredOn?_append_return (dialect : Dialect) (form : ArgumentForm) {name : List Char}
    (single : '\r' ∉ name) (line : List Char) :
    declaredOn? dialect form name (line ++ ['\r']) = declaredOn? dialect form name line := by
  obtain ⟨start, path, ending, opening, closing⟩ := return_notMem_fixed dialect form
  have omits : ∀ part ∈ (declarationPattern dialect form name).dropLast, part.Omits '\r' := by
    simp only [declarationPattern, List.dropLast, List.forall_mem_cons, PatternPart.Omits]
    exact ⟨trivial, start, path, single, ending, by decide, opening, trivial,
      fun _ impossible => (List.not_mem_nil impossible).elim⟩
  have same : (declarationPattern dialect form name).kept? (line ++ ['\r']) =
      (declarationPattern dialect form name).kept? line := by
    cases form <;> exact Pattern.kept?_append_singleton closing omits line
  rw [declaredOn?, same, declaredOn?]

theorem customOn?_append_return (line : List Char) : customOn? (line ++ ['\r']) = customOn? line := by
  obtain ⟨start, _, ending, opening, closing⟩ := return_notMem_fixed .csharp .bare
  have omits : ∀ part ∈ customPattern.dropLast, part.Omits '\r' := by
    simp only [customPattern, List.dropLast, List.forall_mem_cons, PatternPart.Omits]
    exact ⟨start, trivial, ending, by decide, opening, trivial,
      fun _ impossible => (List.not_mem_nil impossible).elim⟩
  have same : customPattern.kept? (line ++ ['\r']) = customPattern.kept? line :=
    Pattern.kept?_append_singleton closing omits line
  rw [customOn?, same, customOn?]

theorem declaredAll_pairBreaks (dialect : Dialect) (form : ArgumentForm) {name : String}
    (lineFeed : '\n' ∉ name.toList) (single : '\r' ∉ name.toList) (text : List Char) :
    declaredAll dialect form name (pairBreaks text) = declaredAll dialect form name text := by
  rw [declaredAll_eq_filterMap dialect form lineFeed, declaredAll_eq_filterMap dialect form lineFeed,
    filterMap_splitLines_pairBreaks (declaredOn?_append_return dialect form single)]

theorem customAll_pairBreaks (text : List Char) : customAll (pairBreaks text) = customAll text := by
  rw [customAll_eq_filterMap, customAll_eq_filterMap, filterMap_splitLines_pairBreaks customOn?_append_return]

namespace ParseResult

theorem return_notMem_attributeName (field : Field) : '\r' ∉ field.attributeName.toList := by
  cases field <;> decide

/-- A text declares the same whichever way its lines end. -/
theorem ofText_pairBreaks (dialect : Dialect) (text : String) :
    ofText dialect (String.ofList (pairBreaks text.toList)) = ofText dialect text := by
  have fields (field : Field) : field.declarations dialect (pairBreaks text.toList) =
      field.declarations dialect text.toList :=
    declaredAll_pairBreaks dialect field.form (newline_notMem_attributeName field)
      (return_notMem_attributeName field) text.toList
  have internals := declaredAll_pairBreaks dialect .quoted newline_notMem_internalsVisibleToName
    (by decide) text.toList
  have customs := customAll_pairBreaks text.toList
  unfold ofText ofChars
  simp only [String.toList_ofList, fields, internals, customs]

end ParseResult

end AssemblyInfo

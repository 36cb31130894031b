import AssemblyInfo.Proofs.Declaration.Grammar

/-!
# Text after a declaration

What a line declares that goes on after a whole declaration. The argument ends with the last closing on the
line, so it is the one that was written exactly if nothing in the rest of the line closes an argument.
Otherwise it takes in the end of the declaration and the rest of the line up to that closing.
-/

namespace AssemblyInfo
open Text

/-- What occurs in a text occurs there a last time. -/
theorem Text.exists_last_infix {part whole : List Char} (within : part <:+: whole) (nonempty : part ≠ []) :
    ∃ before after, whole = before ++ (part ++ after) ∧ ¬ part <:+: after := by
  obtain ⟨before, after, same⟩ := within
  by_cases more : part <:+: after
  · have shorter : after.length < whole.length := by
      have positive := List.length_pos_iff.2 nonempty
      simp only [← same, List.length_append]
      omega
    obtain ⟨inner, rest, split, last⟩ := exists_last_infix more nonempty
    exact ⟨before ++ (part ++ inner), rest, by simp [← same, split], last⟩
  · exact ⟨before, after, by simp [← same], more⟩
termination_by whole.length

/-- No closing of an argument starts with what ends a declaration. -/
theorem ArgumentForm.closing_infix_iff (form : ArgumentForm) (dialect : Dialect) {rest : List Char} :
    form.closing <:+: dialect.closing.toList ++ rest ↔ form.closing <:+: rest := by
  obtain ⟨c, same, apart⟩ : ∃ c, dialect.closing.toList = [c] ∧ ¬ form.closing <+: c :: rest := by
    cases dialect with
    | csharp => exact ⟨']', rfl, by cases form <;> simp [closing]⟩
    | visualBasic => exact ⟨'>', rfl, by cases form <;> simp [closing]⟩
  rw [same, List.singleton_append, List.infix_cons_iff, or_iff_right apart]

section Trailing

variable {dialect : Dialect} {form : ArgumentForm} {name : String} {value : List Char}

/-- `declarationWith dialect form name value rest` is a declaration of `name` with the argument `value`, and
`rest` after it on its line. -/
def declarationWith (dialect : Dialect) (form : ArgumentForm) (name : String) (value rest : List Char) :
    List Char :=
  dialect.opening.toList ++ (name.toList ++ (form.opening ++ (value ++ (form.closing ++
    (dialect.closing.toList ++ rest)))))

theorem newline_notMem_declarationWith (known : name ∈ knownNames) {rest : List Char} (single : '\n' ∉ value)
    (singleRest : '\n' ∉ rest) : '\n' ∉ declarationWith dialect form name value rest := by
  obtain ⟨-, -, opening, closing⟩ := newline_notMem_fixed form
  have word := (isWordRun_knownNames name known).notMem (c := '\n') rfl
  simp only [declarationWith, List.mem_append, not_or]
  exact ⟨dialect.newline_notMem_opening, word, opening, single, closing, newline_notMem_closing dialect,
    singleRest⟩

/-- Up to a closing that is the last one on the line, everything belongs to the argument. -/
theorem declaredAll_upTo (known : name ∈ knownNames) {argument tail : List Char}
    (single : '\n' ∉ dialect.opening.toList ++ (name.toList ++ callChars form [] argument tail))
    (solid : allBlank argument = false) (last : ¬ form.closing <:+: tail) :
    declaredAll dialect form name (dialect.opening.toList ++ (name.toList ++ callChars form [] argument tail)) =
      [String.ofList argument] := by
  have proper : (DeclarationLine.mk [] [] [] [] argument tail).IsProper form :=
    ⟨rfl, Or.inl rfl, Or.inl rfl, Or.inl rfl, last⟩
  rw [declaredAll_of_line known single proper rfl, solid, if_neg Bool.false_ne_true]

/-- A line declares the argument of the declaration that it starts with exactly if nothing closes an argument
in the rest of it. If something does, the argument goes on to the last closing of the line. -/
theorem declaredAll_trailing (known : name ∈ knownNames) {rest : List Char} (single : '\n' ∉ value)
    (singleRest : '\n' ∉ rest) (solid : allBlank value = false) :
    (declaredAll dialect form name (declarationWith dialect form name value rest) = [String.ofList value] ↔
      ¬ form.closing <:+: rest) ∧
    ∀ inner tail, rest = inner ++ (form.closing ++ tail) → ¬ form.closing <:+: tail →
      declaredAll dialect form name (declarationWith dialect form name value rest) =
        [String.ofList (value ++ (form.closing ++ (dialect.closing.toList ++ inner)))] := by
  have line : '\n' ∉ declarationWith dialect form name value rest :=
    newline_notMem_declarationWith known single singleRest
  have onward : ∀ inner tail, rest = inner ++ (form.closing ++ tail) → ¬ form.closing <:+: tail →
      declaredAll dialect form name (declarationWith dialect form name value rest) =
        [String.ofList (value ++ (form.closing ++ (dialect.closing.toList ++ inner)))] := by
    rintro inner tail rfl last
    have solidThen : allBlank (value ++ (form.closing ++ (dialect.closing.toList ++ inner))) = false := by
      rw [allBlank, List.all_append, ← allBlank, solid, Bool.false_and]
    have same : declarationWith dialect form name value (inner ++ (form.closing ++ tail)) =
        dialect.opening.toList ++ (name.toList ++
          callChars form [] (value ++ (form.closing ++ (dialect.closing.toList ++ inner))) tail) := by
      simp [declarationWith, callChars]
    rw [same] at line ⊢
    exact declaredAll_upTo known line solidThen last
  refine ⟨⟨?_, ?_⟩, onward⟩
  · intro declared closes
    obtain ⟨inner, tail, split, last⟩ := exists_last_infix closes form.closing_ne_nil
    rw [onward inner tail split last] at declared
    have lengths := congrArg List.length (String.ofList_injective (List.cons.inj declared).1)
    have positive := List.length_pos_iff.2 form.closing_ne_nil
    simp only [List.length_append] at lengths
    omega
  · intro last
    rw [← form.closing_infix_iff dialect] at last
    exact declaredAll_upTo known line solid last

/-- A friend with a note in quotes and in parentheses after it, none of which closes the argument. -/
theorem declaredAll_trailing_note :
    (internalsVisibleToName ∈ knownNames ∧ '\n' ∉ "Tools.Tests".toList ∧
      '\n' ∉ " ' was \"Tools\" (see notes)".toList ∧ allBlank "Tools.Tests".toList = false) ∧
    declaredAll .visualBasic .quoted internalsVisibleToName
      "<Assembly: InternalsVisibleTo(\"Tools.Tests\")> ' was \"Tools\" (see notes)".toList = ["Tools.Tests"] := by
  have known := internalsVisibleToName_mem_knownNames
  have single : '\n' ∉ "Tools.Tests".toList := by decide
  have singleRest : '\n' ∉ " ' was \"Tools\" (see notes)".toList := by decide
  have solid : allBlank "Tools.Tests".toList = false := by decide
  refine ⟨⟨known, single, singleRest, solid⟩, ?_⟩
  have declared := (@declaredAll_trailing .visualBasic .quoted _ _ known _ single singleRest
    solid).1.2 (by decide +kernel)
  rw [String.ofList_toList] at declared
  exact declared

/-- A closing in what follows changes the value of a title, and that of a flag, which then counts as unset. -/
theorem ofText_trailing_closing :
    let result := ParseResult.ofText .csharp
      "[assembly: AssemblyTitle(\"Tools\")] // was (\"Gadgets\")\n[assembly: ComVisible(true)] // (for interop)"
    result.value .title = some "Tools\")] // was (\"Gadgets" ∧
      result.value .comVisible = some "true)] // (for interop" ∧ result.isComVisible = false := by
  decide +kernel

end Trailing

end AssemblyInfo

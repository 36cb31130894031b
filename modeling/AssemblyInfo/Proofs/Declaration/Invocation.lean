import AssemblyInfo.Proofs.Model.Lines
import AssemblyInfo.Proofs.Text.Blank

/-!
# Reading single invocations

What is read from the declaration of an invocation: its argument for the attribute of that name, and
nothing for the well-known attributes of other names.
-/

namespace AssemblyInfo
open Text

/-! ### Well-known names -/

theorem isWordRun_knownNames : ∀ name ∈ knownNames, IsWordRun name.toList := by
  have all : ∀ name ∈ knownNames, name.toList.all isWord = true := by decide +kernel
  exact fun name member => .of_all (all name member)

theorem isKnown_knownNames : ∀ name ∈ knownNames, isKnown name.toList = true ∧
    isKnown (name.toList ++ attributeEnding) = true := by
  decide +kernel

theorem unended_knownNames : ∀ name ∈ knownNames, ∀ other ∈ knownNames,
    other.toList ≠ name.toList ++ attributeEnding := by
  decide +kernel

theorem not_ended_knownNames : ∀ name ∈ knownNames, attributeEnding.isSuffixOf name.toList = false := by
  decide +kernel

theorem attributeName_mem_knownNames (field : Field) : field.attributeName ∈ knownNames :=
  List.mem_append_left _ (List.mem_map_of_mem field.mem_all)

theorem internalsVisibleToName_mem_knownNames : internalsVisibleToName ∈ knownNames :=
  List.mem_append_right _ List.mem_cons_self

theorem internalsVisibleToName_ne (field : Field) : internalsVisibleToName ≠ field.attributeName := by
  cases field <;> decide

/-! ### The line of an invocation -/

theorem invocation_toList (dialect : Dialect) (word argument : String) :
    (dialect.declaration (invocation word argument)).toList =
      dialect.opening.toList ++ (word.toList ++ '(' :: (argument.toList ++ ')' :: dialect.closing.toList)) := by
  simp [Dialect.declaration, invocation]

theorem parenthesis_notMem_closing (dialect : Dialect) : ')' ∉ dialect.closing.toList := by
  cases dialect <;> decide

theorem newline_notMem_closing (dialect : Dialect) : '\n' ∉ dialect.closing.toList := by
  cases dialect <;> decide

theorem newline_notMem_declaration (dialect : Dialect) {word argument : String}
    (run : IsWordRun word.toList) (single : '\n' ∉ argument.toList) :
    '\n' ∉ (dialect.declaration (invocation word argument)).toList := by
  have opening := dialect.newline_notMem_opening
  have name := run.notMem (c := '\n') (by decide)
  have closing := newline_notMem_closing dialect
  rw [invocation_toList]
  simp only [List.mem_append, List.mem_cons, not_or]
  exact ⟨opening, name, by decide, single, by decide, closing⟩

theorem newline_notMem_quote {text : String} (single : '\n' ∉ text.toList) :
    '\n' ∉ (quote text).toList := by
  simp [quote, single]

theorem allBlank_quote (text : String) : allBlank (quote text).toList = false := by
  apply allBlank_eq_false (c := '"') _ (by decide)
  simp [quote]

/-! ### Reading it -/

section Reading

variable (dialect : Dialect) {name word argument : String}

/-- Whatever stands between the quotes is read back, up to the last closing. -/
theorem declaredOn?_quoted (run : IsWordRun name.toList) {text : String} (single : '\n' ∉ text.toList) :
    declaredOn? dialect .quoted name.toList (dialect.declaration (invocation name (quote text))).toList =
      if allBlank text.toList then none else some text := by
  have read := declaredOn?_self dialect .quoted run single (parenthesis_notMem_closing dialect)
  rw [String.ofList_toList] at read
  rw [invocation_toList]
  simpa [quote, ArgumentForm.opening, ArgumentForm.closing] using read

theorem declaredOn?_bare (run : IsWordRun name.toList) (single : '\n' ∉ argument.toList) :
    declaredOn? dialect .bare name.toList (dialect.declaration (invocation name argument)).toList =
      if allBlank argument.toList then none else some argument := by
  have read := declaredOn?_self dialect .bare run single (parenthesis_notMem_closing dialect)
  rw [String.ofList_toList] at read
  rw [invocation_toList]
  exact read

theorem declaredOn?_known (form : ArgumentForm) (known : name ∈ knownNames) (other : word ∈ knownNames)
    (different : word ≠ name) :
    declaredOn? dialect form name.toList (dialect.declaration (invocation word argument)).toList = none := by
  rw [invocation_toList]
  exact declaredOn?_other dialect form (isWordRun_knownNames name known) (isWordRun_knownNames word other)
    (fun same => different (String.toList_inj.1 same)) (unended_knownNames name known word other) _

theorem declaredOn?_unknown (form : ArgumentForm) (known : name ∈ knownNames)
    (run : IsWordRun word.toList) (unknown : isKnown word.toList = false) :
    declaredOn? dialect form name.toList (dialect.declaration (invocation word argument)).toList = none := by
  obtain ⟨plain, ended⟩ := isKnown_knownNames name known
  rw [invocation_toList]
  apply declaredOn?_other dialect form (isWordRun_knownNames name known) run
  · intro same
    rw [same, plain] at unknown
    cases unknown
  · intro same
    rw [same, ended] at unknown
    cases unknown

theorem customOn?_csharp (run : IsWordRun word.toList) (single : '\n' ∉ argument.toList) :
    customOn? (Dialect.csharp.declaration (invocation word argument)).toList =
      if isKnown word.toList || allBlank argument.toList then none else some ⟨word, argument⟩ := by
  have read := customOn?_word run single (parenthesis_notMem_closing .csharp)
  rw [String.ofList_toList, String.ofList_toList] at read
  rw [invocation_toList]
  exact read

theorem customOf?_of_known {taken : List Char} (known : isKnown taken = true) (kept : List (List Char)) :
    customOf? (taken :: kept) = none := by
  unfold customOf?
  split
  · rename_i same
    obtain ⟨rfl, _⟩ := List.cons.inj same
    rw [known]
    rfl
  · rfl

/-- A run of word characters in front of a word and a parenthesis ends within the word. -/
theorem split_of_run {taken left rest : List Char} (takenRun : IsWordRun taken)
    (split : word.toList ++ '(' :: rest = taken ++ left) :
    ∃ more, word.toList = taken ++ more ∧ left = more ++ '(' :: rest := by
  rcases List.append_eq_append_iff.1 split with ⟨beyond, takenSplit, restSplit⟩ | within
  · cases beyond with
    | nil =>
      rw [List.append_nil] at takenSplit
      exact ⟨[], by rw [takenSplit, List.append_nil], restSplit.symm⟩
    | cons c beyond =>
      obtain ⟨rfl, _⟩ := List.cons.inj restSplit
      have parenthesis := takenRun '(' (by rw [takenSplit]; simp)
      cases parenthesis
  · exact within

/-- A well-known name is read as no other name, whatever follows it. -/
theorem customOn?_knownName (known : word ∈ knownNames) (rest : List Char) :
    customOn? (Dialect.csharp.opening.toList ++ (word.toList ++ '(' :: rest)) = none := by
  have run := isWordRun_knownNames word known
  rw [customOn?, customPattern, Pattern.kept?_literal, after?_append_self, Option.bind_some,
    Pattern.kept?_group]
  change ((greedy isWord (Pattern.kept? (afterName .bare)) _).map _).bind customOf? = none
  cases found : greedy isWord (Pattern.kept? (afterName .bare)) (word.toList ++ '(' :: rest) with
  | none => rfl
  | some answer =>
    obtain ⟨taken, kept⟩ := answer
    obtain ⟨left, split, inner⟩ := greedy_eq_some found
    obtain ⟨more, wordSplit, leftSplit⟩ := split_of_run (greedy_holds found) split
    have moreRun : IsWordRun more := by
      intro c member
      apply run
      rw [wordSplit]
      exact List.mem_append_right _ member
    have notEnding : more ≠ attributeEnding := by
      rintro rfl
      have ended : attributeEnding.isSuffixOf word.toList = true := by
        rw [wordSplit, List.isSuffixOf_iff_suffix]
        exact List.suffix_append _ _
      rw [not_ended_knownNames word known] at ended
      cases ended
    -- A part of the name leaves word characters where the argument should start.
    have whole : more = [] := by
      by_contra nonempty
      rw [leftSplit, kept?_afterName_of_word .bare moreRun nonempty notEnding] at inner
      cases inner
    rw [whole, List.append_nil] at wordSplit
    apply customOf?_of_known
    rw [← wordSplit]
    exact (isKnown_knownNames word known).1

theorem customOn?_known (known : word ∈ knownNames) :
    customOn? (Dialect.csharp.declaration (invocation word argument)).toList = none := by
  rw [invocation_toList]
  exact customOn?_knownName known _

theorem customOn?_visualBasic (content : String) :
    customOn? (Dialect.visualBasic.declaration content).toList = none := by
  unfold Dialect.declaration
  rw [String.toList_append, String.toList_append, Dialect.visualBasic.opening_eq_cons]
  exact customOn?_of_head (by decide) _

end Reading

end AssemblyInfo

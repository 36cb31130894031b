import AssemblyInfo.Text.Line

/-!
# Laws of lines

Splitting turns line feeds into boundaries between lists of lines, so what holds of single lines and
is kept when a line is put in front holds of every text.
-/

namespace AssemblyInfo.Text

theorem splitLines_cons {c : Char} {rest line : List Char} {lines : List (List Char)}
    (other : c ≠ '\n') (found : splitLines rest = line :: lines) :
    splitLines (c :: rest) = (c :: line) :: lines := by
  rw [splitLines, if_neg other, found]

theorem splitLines_append (before after : List Char) :
    splitLines (before ++ '\n' :: after) = splitLines before ++ splitLines after := by
  induction before with
  | nil => exact splitLines_newline after
  | cons c rest ih =>
    by_cases same : c = '\n'
    · subst same
      rw [List.cons_append, splitLines_newline, splitLines_newline, ih, List.cons_append]
    · cases found : splitLines rest with
      | nil => exact (splitLines_ne_nil rest found).elim
      | cons line lines =>
        rw [found, List.cons_append] at ih
        rw [List.cons_append, splitLines_cons same ih, splitLines_cons same found, List.cons_append]

theorem splitLines_of_newline_notMem {line : List Char} (single : '\n' ∉ line) :
    splitLines line = [line] := by
  induction line with
  | nil => rfl
  | cons c rest ih =>
    rw [List.mem_cons, not_or] at single
    exact splitLines_cons (Ne.symm single.1) (ih single.2)

/-- A text has a line more than it has line feeds. -/
theorem length_splitLines (chars : List Char) : (splitLines chars).length = chars.count '\n' + 1 := by
  induction chars with
  | nil => rfl
  | cons c rest ih =>
    by_cases same : c = '\n'
    · subst same
      rw [splitLines_newline, List.length_cons, ih, List.count_cons_self]
    · cases found : splitLines rest with
      | nil => exact (splitLines_ne_nil rest found).elim
      | cons line lines =>
        rw [found] at ih
        rw [splitLines_cons same found, List.count_cons_of_ne same, ← ih, List.length_cons, List.length_cons]

theorem newline_notMem_of_mem_splitLines {chars line : List Char} (member : line ∈ splitLines chars) :
    '\n' ∉ line := by
  induction chars generalizing line with
  | nil =>
    rw [List.mem_singleton.1 member]
    exact List.not_mem_nil
  | cons c rest ih =>
    by_cases same : c = '\n'
    · subst same
      rw [splitLines_newline, List.mem_cons] at member
      rcases member with rfl | later
      · exact List.not_mem_nil
      · exact ih later
    · cases found : splitLines rest with
      | nil => exact (splitLines_ne_nil rest found).elim
      | cons first others =>
        rw [found] at ih
        rw [splitLines_cons same found, List.mem_cons] at member
        rcases member with rfl | later
        · rw [List.mem_cons, not_or]
          exact ⟨Ne.symm same, ih List.mem_cons_self⟩
        · exact ih (List.mem_cons_of_mem _ later)

/-- Every text is built from one line by putting lines in front. -/
theorem lines_induction {motive : List Char → Prop} (chars : List Char)
    (last : ∀ line, '\n' ∉ line → motive line)
    (further : ∀ line rest, '\n' ∉ line → motive rest → motive (line ++ '\n' :: rest)) :
    motive chars := by
  have joined : ∀ lines, lines ≠ [] → (∀ line ∈ lines, '\n' ∉ line) → motive (joinLines lines) := by
    intro lines
    induction lines with
    | nil => exact fun empty => (empty rfl).elim
    | cons line rest ih =>
      intro _ single
      have here := single line List.mem_cons_self
      cases rest with
      | nil => exact last line here
      | cons next others =>
        exact further line _ here
          (ih (List.cons_ne_nil _ _) fun other member => single other (List.mem_cons_of_mem _ member))
  rw [← joinLines_splitLines chars]
  exact joined _ (splitLines_ne_nil chars) fun line => newline_notMem_of_mem_splitLines

end AssemblyInfo.Text

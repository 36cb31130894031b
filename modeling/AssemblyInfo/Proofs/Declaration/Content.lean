import AssemblyInfo.Proofs.Model.Lines

/-!
# Declarations in two dialects

What a declaration gives to a well-known attribute depends on what it declares, not on the brackets
around it: the argument ends with the last parenthesis, and the bracket that follows is passed over.
-/

namespace AssemblyInfo
open Text

/-- `part.Lacks stop` says that no fixed text of `part` holds `stop`. -/
def Text.PatternPart.Lacks (stop : Char) : PatternPart → Prop
  | .literal text | .optional text => stop ∉ text
  | .run _ | .group _ => True

namespace Text

theorem greedy_append_stop {α : Type} {holds : Char → Bool} {next : List Char → Option α} {stop : Char}
    (same : ∀ chars, next (chars ++ [stop]) = next chars) (nothing : next [] = none) (chars : List Char) :
    greedy holds next (chars ++ [stop]) = greedy holds next chars := by
  induction chars with
  | nil =>
    have last := same []
    rw [List.nil_append, nothing] at last
    have left : greedy holds next [] = none := by
      rw [greedy, nothing]
      rfl
    rw [List.nil_append, greedy_cons_of_none fun _ => left, last, left]
    rfl
  | cons c chars ih =>
    have here := same (c :: chars)
    rw [List.cons_append] at here
    rw [List.cons_append, greedy, greedy, ih, here]

namespace Pattern

variable {parts : Pattern} {c : Char} {text : List Char}

/-- A pattern that ends with a fixed text needs characters. -/
theorem kept?_nil_of_last : kept? (parts ++ [.literal (c :: text)]) [] = none := by
  induction parts with
  | nil => rfl
  | cons part parts ih =>
    have fixed : ∀ word : List Char,
        (after? word []).bind (kept? (parts ++ [.literal (c :: text)])) = none := by
      intro word
      cases word with
      | nil => exact ih
      | cons d word => rfl
    rw [List.cons_append]
    cases part with
    | literal word => rw [kept?_literal, fixed]
    | optional word =>
      rw [kept?_optional, fixed, ih]
      rfl
    | run holds =>
      rw [kept?_run, greedy, ih]
      rfl
    | group holds =>
      rw [kept?_group, greedy, ih]
      rfl

/-- A last character that no fixed text holds is passed over by a pattern that ends with a fixed text. -/
theorem kept?_append_stop {stop : Char} (lacks : ∀ part ∈ parts, PatternPart.Lacks stop part)
    (last : stop ∉ c :: text) (chars : List Char) :
    kept? (parts ++ [.literal (c :: text)]) (chars ++ [stop]) =
      kept? (parts ++ [.literal (c :: text)]) chars := by
  induction parts generalizing chars with
  | nil =>
    rw [List.nil_append, kept?_literal, kept?_literal, after?_append last]
    cases after? (c :: text) chars <;> rfl
  | cons part parts ih =>
    rw [List.forall_mem_cons] at lacks
    have later := ih lacks.2
    have own := lacks.1
    have fixed : ∀ word, stop ∉ word →
        (after? word (chars ++ [stop])).bind (kept? (parts ++ [.literal (c :: text)])) =
          (after? word chars).bind (kept? (parts ++ [.literal (c :: text)])) := by
      intro word absent
      rw [after?_append absent]
      cases after? word chars with
      | none => rfl
      | some rest => exact later rest
    rw [List.cons_append]
    cases part with
    | literal word => rw [kept?_literal, kept?_literal, fixed word own]
    | optional word => rw [kept?_optional, kept?_optional, fixed word own, later chars]
    | run holds => rw [kept?_run, kept?_run, greedy_append_stop later kept?_nil_of_last]
    | group holds => rw [kept?_group, kept?_group, greedy_append_stop later kept?_nil_of_last]

end Pattern

end Text

/-- What follows the opening in the pattern of a declaration, but for the end of the argument. -/
def contentParts (form : ArgumentForm) (name : List Char) : Pattern :=
  [.optional reflectionPath, .literal name, .optional attributeEnding, .optional [' '],
    .literal form.opening, .group notNewline]

/-- `contentOn? form name content` is the argument of `name` in `content`, without any brackets. -/
def contentOn? (form : ArgumentForm) (name content : List Char) : Option String :=
  (Pattern.kept? (contentParts form name ++ [.literal form.closing]) content).bind argumentOf?

/-- The character that declarations end with. -/
def Dialect.lastChar : Dialect → Char
  | .csharp => ']'
  | .visualBasic => '>'

theorem Dialect.closing_eq (dialect : Dialect) : dialect.closing.toList = [dialect.lastChar] := by
  cases dialect <;> rfl

theorem contentParts_lacks (dialect : Dialect) (form : ArgumentForm) {name : List Char}
    (absent : dialect.lastChar ∉ name) :
    ∀ part ∈ contentParts form name, PatternPart.Lacks dialect.lastChar part := by
  have path : dialect.lastChar ∉ reflectionPath := by cases dialect <;> decide
  have ending : dialect.lastChar ∉ attributeEnding := by cases dialect <;> decide
  have space : dialect.lastChar ∉ [' '] := by cases dialect <;> decide
  have opening : dialect.lastChar ∉ form.opening := by cases dialect <;> cases form <;> decide
  simp only [contentParts, List.forall_mem_cons, PatternPart.Lacks]
  exact ⟨path, absent, ending, space, opening, trivial, fun _ impossible => (List.not_mem_nil impossible).elim⟩

/-- The brackets of a declaration do not matter for the name that is looked for. -/
theorem declaredOn?_declaration (dialect : Dialect) (form : ArgumentForm) {name : List Char}
    (absent : dialect.lastChar ∉ name) (content : String) :
    declaredOn? dialect form name (dialect.declaration content).toList =
      contentOn? form name content.toList := by
  have opened := dialect.opening_eq_cons
  have line : (dialect.declaration content).toList =
      dialect.opening.toList ++ (content.toList ++ [dialect.lastChar]) := by
    simp [Dialect.declaration, dialect.closing_eq]
  have start : (declarationPattern dialect form name).kept?
      (dialect.opening.toList ++ (content.toList ++ [dialect.lastChar])) =
      Pattern.kept? (declarationPattern dialect form name).tail
        (dialect.opening.toList ++ (content.toList ++ [dialect.lastChar])) := by
    rw [opened, List.cons_append]
    exact kept?_declarationPattern dialect form dialect.firstChar_not_blank _
  have tail : (declarationPattern dialect form name).tail =
      .literal dialect.opening.toList :: (contentParts form name ++ [.literal form.closing]) := rfl
  have lacks := contentParts_lacks dialect form absent
  obtain ⟨c, text, closing, last⟩ : ∃ c text, form.closing = c :: text ∧ dialect.lastChar ∉ c :: text := by
    cases form <;> exact ⟨_, _, rfl, by cases dialect <;> decide⟩
  rw [declaredOn?, line, start, tail, Pattern.kept?_literal, after?_append_self, Option.bind_some, contentOn?,
    closing, Pattern.kept?_append_stop lacks last]

end AssemblyInfo

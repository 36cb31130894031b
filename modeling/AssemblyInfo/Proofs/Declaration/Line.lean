import AssemblyInfo.Proofs.ParseResult.Lines

/-!
# Single declarations

What a line declares that consists of the opening of a dialect, a word and an argument: the argument
for the attribute of that name, up to the last closing on the line, and nothing for any other.
-/

namespace AssemblyInfo
open Text

/-- `IsWordRun word` says that `word` holds word characters only. -/
def IsWordRun (word : List Char) : Prop :=
  ∀ c ∈ word, isWord c = true

theorem IsWordRun.notMem {word : List Char} (run : IsWordRun word) {c : Char}
    (other : isWord c = false) : c ∉ word := by
  intro member
  rw [run c member] at other
  cases other

theorem IsWordRun.of_all {word : List Char} (all : word.all isWord = true) : IsWordRun word :=
  List.all_eq_true.1 all

theorem isWordRun_attributeEnding : IsWordRun attributeEnding :=
  .of_all (by decide)

/-! ### The argument -/

theorem after?_closing_eq_none (form : ArgumentForm) {rest : List Char} (closed : ')' ∉ rest) :
    after? form.closing rest = none :=
  after?_eq_none (c := ')') (by cases form <;> decide) closed

/-- Before a last closing nothing is left of a greedy argument. -/
theorem greedy_closing (form : ArgumentForm) {tail : List Char} (closed : ')' ∉ tail) :
    greedy notNewline (Pattern.kept? [.literal form.closing]) (form.closing ++ tail) =
      some ([], []) := by
  have nothing : greedy notNewline (Pattern.kept? [.literal form.closing]) tail = none := by
    apply greedy_eq_none
    intro rest suffix
    rw [Pattern.kept?_literal, after?_closing_eq_none form fun member => closed (suffix.subset member)]
    rfl
  cases form with
  | bare =>
    rw [ArgumentForm.closing] at nothing ⊢
    exact greedy_cons_of_none fun _ => nothing
  | quoted =>
    rw [ArgumentForm.closing] at nothing ⊢
    have inner : greedy notNewline (Pattern.kept? [.literal ['"', ')']]) (')' :: tail) = none :=
      greedy_cons_of_none fun _ => nothing
    exact greedy_cons_of_none fun _ => inner

/-- The parts that end every pattern keep the argument up to the last closing on its line. -/
theorem kept?_argument (form : ArgumentForm) {argument tail : List Char} (single : '\n' ∉ argument)
    (closed : ')' ∉ tail) :
    Pattern.kept? [.literal form.opening, .group notNewline, .literal form.closing]
      (form.opening ++ (argument ++ (form.closing ++ tail))) = some [argument] := by
  have all : ∀ c ∈ argument, notNewline c = true :=
    fun c member => bne_iff_ne.2 fun same => single (same ▸ member)
  rw [Pattern.kept?_literal, after?_append_self, Option.bind_some, Pattern.kept?_group,
    greedy_append_of_forall all (greedy_closing form closed), List.append_nil]
  rfl

/-! ### What follows the name -/

/-- The parts of a declaration after the name. -/
def afterName (form : ArgumentForm) : Pattern :=
  [.optional attributeEnding, .optional [' '], .literal form.opening, .group notNewline,
    .literal form.closing]

theorem kept?_optional_of_none {text : List Char} {parts : Pattern} {chars : List Char}
    (absent : after? text chars = none) :
    Pattern.kept? (.optional text :: parts) chars = Pattern.kept? parts chars := by
  rw [Pattern.kept?_optional, absent]
  rfl

theorem ArgumentForm.opening_eq_cons (form : ArgumentForm) : form.opening = '(' :: form.opening.tail := by
  cases form <;> rfl

theorem kept?_afterName (form : ArgumentForm) {argument tail : List Char} (single : '\n' ∉ argument)
    (closed : ')' ∉ tail) :
    Pattern.kept? (afterName form) (form.opening ++ (argument ++ (form.closing ++ tail))) =
      some [argument] := by
  have opened := form.opening_eq_cons
  rw [afterName, kept?_optional_of_none, kept?_optional_of_none, kept?_argument form single closed]
  · rw [opened]; rfl
  · rw [opened]; rfl

/-- A word character, where the argument should start, leaves nothing to find. -/
theorem kept?_opening_of_word (form : ArgumentForm) {c : Char} (word : isWord c = true)
    (parts : Pattern) (rest : List Char) :
    Pattern.kept? (.optional [' '] :: .literal form.opening :: parts) (c :: rest) = none := by
  have notSpace : ' ' ≠ c := by
    rintro rfl
    cases word
  have notOpening : '(' ≠ c := by
    rintro rfl
    cases word
  rw [kept?_optional_of_none (by rw [after?, if_neg notSpace]), Pattern.kept?_literal,
    form.opening_eq_cons, after?, if_neg notOpening]
  rfl

/-- A name that goes on, other than by its ending, is another name. -/
theorem kept?_afterName_of_word (form : ArgumentForm) {more : List Char} (run : IsWordRun more)
    (nonempty : more ≠ []) (notEnding : more ≠ attributeEnding) (rest : List Char) :
    Pattern.kept? (afterName form) (more ++ '(' :: rest) = none := by
  have stops : ∀ {left : List Char}, IsWordRun left → left ≠ [] →
      Pattern.kept? (afterName form).tail (left ++ '(' :: rest) = none := by
    intro left leftRun leftNonempty
    cases left with
    | nil => exact (leftNonempty rfl).elim
    | cons c left => exact kept?_opening_of_word form (leftRun c List.mem_cons_self) _ _
  have without := stops run nonempty
  have absent : '(' ∉ attributeEnding := isWordRun_attributeEnding.notMem rfl
  rw [afterName, Pattern.kept?_optional, after?_append absent]
  cases found : after? attributeEnding more with
  | none => exact without
  | some left =>
    have same := eq_append_of_after? found
    have leftRun : IsWordRun left := by
      intro c member
      apply run
      rw [same]
      exact List.mem_append_right _ member
    have leftNonempty : left ≠ [] := by
      rintro rfl
      rw [List.append_nil] at same
      exact notEnding same
    have within := stops leftRun leftNonempty
    rw [Option.map_some, Option.bind_some]
    rw [afterName, List.tail_cons] at within without
    rw [within, without]
    rfl

/-! ### Well-known attributes -/

section WellKnown

variable (dialect : Dialect) (form : ArgumentForm) {name : List Char}

theorem trimStart_of_firstChar {c : Char} (solid : isBlank c = false) (rest : List Char) :
    trimStart (c :: rest) = c :: rest := by
  rw [trimStart, List.dropWhile_cons_of_neg]
  rw [solid]
  exact Bool.false_ne_true

theorem kept?_declarationPattern {c : Char} (solid : isBlank c = false) (rest : List Char) :
    (declarationPattern dialect form name).kept? (c :: rest) =
      Pattern.kept? (declarationPattern dialect form name).tail (c :: rest) := by
  have opened := dialect.opening_eq_cons
  have pattern : declarationPattern dialect form name =
      .run isBlank :: .literal (dialect.firstChar :: dialect.opening.toList.tail) ::
        (declarationPattern dialect form name).tail.tail := by
    rw [← opened]
    rfl
  rw [pattern, List.tail_cons, Pattern.kept?, Pattern.match?_indented dialect.firstChar_not_blank,
    trimStart_of_firstChar solid, Option.map_map]
  rfl

theorem declaredOn?_of_head {c : Char} (solid : isBlank c = false) (other : c ≠ dialect.firstChar)
    (rest : List Char) : declaredOn? dialect form name (c :: rest) = none := by
  rw [declaredOn?, kept?_declarationPattern dialect form solid, declarationPattern, List.tail_cons,
    Pattern.kept?_literal, dialect.opening_eq_cons, after?, if_neg (Ne.symm other)]
  rfl

theorem declaredOn?_nil : declaredOn? dialect form name [] = none := by
  cases dialect <;> rfl

theorem kept?_opened {word : List Char} (run : IsWordRun word) (rest : List Char) :
    (declarationPattern dialect form name).kept? (dialect.opening.toList ++ (word ++ '(' :: rest)) =
      (after? name (word ++ '(' :: rest)).bind (Pattern.kept? (afterName form)) := by
  have opened := dialect.opening_eq_cons
  have noPath : after? reflectionPath (word ++ '(' :: rest) = none := by
    rw [after?_append (by decide), after?_eq_none (c := '.') (by decide) (run.notMem rfl)]
    rfl
  have start : (declarationPattern dialect form name).kept?
      (dialect.opening.toList ++ (word ++ '(' :: rest)) =
      Pattern.kept? (declarationPattern dialect form name).tail
        (dialect.opening.toList ++ (word ++ '(' :: rest)) := by
    rw [opened, List.cons_append]
    exact kept?_declarationPattern dialect form dialect.firstChar_not_blank _
  rw [start, declarationPattern, List.tail_cons, Pattern.kept?_literal, after?_append_self,
    Option.bind_some, kept?_optional_of_none noPath, Pattern.kept?_literal]
  rfl

/-- A line declares the attribute that it names, with the argument that it gives. -/
theorem declaredOn?_self (run : IsWordRun name) {argument tail : List Char}
    (single : '\n' ∉ argument) (closed : ')' ∉ tail) :
    declaredOn? dialect form name
      (dialect.opening.toList ++ (name ++ (form.opening ++ (argument ++ (form.closing ++ tail))))) =
      if allBlank argument then none else some (String.ofList argument) := by
  have opened := form.opening_eq_cons
  have kept := kept?_afterName form single closed
  rw [opened, List.cons_append] at kept ⊢
  rw [declaredOn?, kept?_opened dialect form run, after?_append_self, Option.bind_some, kept]
  rfl

/-- A line declares no other attribute than the one that it names, with or without the ending. -/
theorem declaredOn?_other (nameRun : IsWordRun name) {word : List Char} (run : IsWordRun word)
    (different : word ≠ name) (unended : word ≠ name ++ attributeEnding) (rest : List Char) :
    declaredOn? dialect form name (dialect.opening.toList ++ (word ++ '(' :: rest)) = none := by
  rw [declaredOn?, kept?_opened dialect form run, after?_append (nameRun.notMem rfl)]
  cases found : after? name word with
  | none => rfl
  | some more =>
    have same := eq_append_of_after? found
    have moreRun : IsWordRun more := by
      intro c member
      apply run
      rw [same]
      exact List.mem_append_right _ member
    have nonempty : more ≠ [] := by
      rintro rfl
      rw [List.append_nil] at same
      exact different same
    have notEnding : more ≠ attributeEnding := by
      rintro rfl
      exact unended same
    rw [Option.map_some, Option.bind_some,
      kept?_afterName_of_word form moreRun nonempty notEnding]
    rfl

end WellKnown

/-! ### Other attributes -/

theorem customOn?_of_head {c : Char} (other : c ≠ Dialect.csharp.firstChar) (rest : List Char) :
    customOn? (c :: rest) = none := by
  rw [customOn?, customPattern, Pattern.kept?_literal, Dialect.csharp.opening_eq_cons, after?,
    if_neg (Ne.symm other)]
  rfl

theorem customOn?_nil : customOn? [] = none := rfl

/-- A line with square brackets declares whatever attribute it names that is not well known. -/
theorem customOn?_word {word argument tail : List Char} (run : IsWordRun word)
    (single : '\n' ∉ argument) (closed : ')' ∉ tail) :
    customOn? (Dialect.csharp.opening.toList ++ (word ++ '(' :: (argument ++ ')' :: tail))) =
      if isKnown word || allBlank argument then none
      else some ⟨String.ofList word, String.ofList argument⟩ := by
  have inner : Pattern.kept? (afterName .bare) ('(' :: (argument ++ ')' :: tail)) = some [argument] :=
    kept?_afterName .bare single closed
  have stop : greedy isWord (Pattern.kept? (afterName .bare)) ('(' :: (argument ++ ')' :: tail)) =
      some ([], [argument]) := by
    rw [greedy_cons_of_none (by intro impossible; cases impossible), inner]
    rfl
  have whole := greedy_append_of_forall run stop
  rw [List.append_nil] at whole
  rw [customOn?, customPattern, Pattern.kept?_literal, after?_append_self, Option.bind_some,
    Pattern.kept?_group]
  rw [afterName] at whole
  rw [whole]
  rfl

end AssemblyInfo

import AssemblyInfo.Proofs.Declaration.Invocation

/-!
# The grammar of declarations

What a line has to look like to declare a well-known attribute. No optional part can start like what
follows it, so a line can be taken apart in one way only: the argument ends with the last closing on the
line, and the word in front of it names one attribute.
-/

namespace AssemblyInfo
open Text

/-! ### Taking texts apart -/

theorem ArgumentForm.closing_ne_nil (form : ArgumentForm) : form.closing ≠ [] := by
  cases form <;> decide

/-- Two closings in one text are the same one if none follows either. -/
theorem ArgumentForm.closing_inj (form : ArgumentForm) {argument other tail tailThen : List Char}
    (last : ¬ form.closing <:+: tail) (lastThen : ¬ form.closing <:+: tailThen)
    (same : argument ++ (form.closing ++ tail) = other ++ (form.closing ++ tailThen)) :
    argument = other ∧ tail = tailThen := by
  -- What stands between the two starts cannot be a part of a closing, nor a closing and more.
  have between : ∀ {middle tail tailThen : List Char}, ¬ form.closing <:+: tail →
      form.closing ++ tail = middle ++ (form.closing ++ tailThen) → middle = [] := by
    intro middle tail tailThen last same
    by_contra nonempty
    obtain ⟨c, middle, rfl⟩ := List.exists_cons_of_ne_nil nonempty
    apply last
    cases form with
    | bare =>
      obtain ⟨-, rfl⟩ := List.cons.inj same
      exact ⟨middle, tailThen, by simp⟩
    | quoted =>
      cases middle with
      | nil => simp [ArgumentForm.closing] at same
      | cons d middle =>
        simp only [ArgumentForm.closing, List.cons_append, List.nil_append, List.cons.injEq] at same
        exact ⟨middle, tailThen, by simp [ArgumentForm.closing, same.2.2]⟩
  rcases List.append_eq_append_iff.1 same with ⟨middle, rfl, rest⟩ | ⟨middle, rfl, rest⟩
  · obtain rfl := between last rest
    exact ⟨(List.append_nil _).symm, List.append_cancel_left rest⟩
  · obtain rfl := between lastThen rest
    exact ⟨List.append_nil _, (List.append_cancel_left rest).symm⟩

/-! ### Parts of patterns -/

namespace Text

theorem exists_greedy {α : Type} (holds : Char → Bool) {next : List Char → Option α} {chars : List Char}
    {found : α} (works : next chars = some found) :
    ∃ taken other, greedy holds next chars = some (taken, other) := by
  cases chars with
  | nil => exact ⟨[], found, by rw [greedy, works]; rfl⟩
  | cons c chars =>
    rw [greedy]
    split
    · exact ⟨_, _, rfl⟩
    · exact ⟨[], found, by rw [works]; rfl⟩

/-- No longer run has something to find after it. -/
theorem greedy_longest {α : Type} {holds : Char → Bool} {next : List Char → Option α}
    {taken longer rest : List Char} {found other : α}
    (run : greedy holds next (longer ++ rest) = some (taken, found)) (all : ∀ c ∈ longer, holds c = true)
    (works : next rest = some other) : longer <+: taken := by
  obtain ⟨further, last, beyond⟩ := exists_greedy holds works
  rw [greedy_append_of_forall all beyond] at run
  obtain ⟨rfl, -⟩ := Prod.mk.inj (Option.some.inj run)
  exact List.prefix_append longer further

namespace Pattern

variable {text chars : List Char} {parts : Pattern} {kept : List (List Char)}

theorem kept?_literal_eq_some :
    kept? (.literal text :: parts) chars = some kept ↔
      ∃ rest, chars = text ++ rest ∧ kept? parts rest = some kept := by
  rw [kept?_literal, Option.bind_eq_some_iff]
  constructor
  · rintro ⟨rest, found, later⟩
    exact ⟨rest, eq_append_of_after? found, later⟩
  · rintro ⟨rest, rfl, later⟩
    exact ⟨rest, after?_append_self text rest, later⟩

/-- A text that may be missing is there or not, if the parts after it cannot start with it. -/
theorem kept?_optional_eq_some (apart : ∀ rest, kept? parts (text ++ rest) = none) :
    kept? (.optional text :: parts) chars = some kept ↔
      ∃ given rest, (given = [] ∨ given = text) ∧ chars = given ++ rest ∧ kept? parts rest = some kept := by
  rw [kept?_optional]
  constructor
  · intro found
    rcases Option.or_eq_some_iff.1 found with there | ⟨-, missing⟩
    · obtain ⟨rest, after, later⟩ := Option.bind_eq_some_iff.1 there
      exact ⟨text, rest, Or.inr rfl, eq_append_of_after? after, later⟩
    · exact ⟨[], chars, Or.inl rfl, rfl, missing⟩
  · rintro ⟨given, rest, rfl | rfl, rfl, later⟩
    · have absent : after? text chars = none := by
        cases found : after? text chars with
        | none => rfl
        | some left =>
          rw [eq_append_of_after? found, apart] at later
          cases later
      rw [absent, later]
      rfl
    · rw [after?_append_self, Option.bind_some, later]
      rfl

theorem kept?_indented_eq_some {c : Char} (solid : isBlank c = false) :
    kept? (.run isBlank :: .literal (c :: text) :: parts) chars = some kept ↔
      ∃ indent rest, allBlank indent = true ∧ chars = indent ++ rest ∧
        kept? (.literal (c :: text) :: parts) rest = some kept := by
  have trimmed : kept? (.run isBlank :: .literal (c :: text) :: parts) chars =
      kept? (.literal (c :: text) :: parts) (trimStart chars) := by
    rw [kept?, match?_indented solid, Option.map_map]
    rfl
  rw [trimmed]
  constructor
  · intro found
    refine ⟨chars.takeWhile isBlank, trimStart chars, ?_, List.takeWhile_append_dropWhile.symm, found⟩
    exact List.all_takeWhile
  · rintro ⟨indent, rest, blank, rfl, found⟩
    obtain ⟨left, rfl, -⟩ := kept?_literal_eq_some.1 found
    have bare : trimStart (indent ++ (c :: text ++ left)) = c :: text ++ left := by
      rw [trimStart, List.dropWhile_append_of_pos (List.all_eq_true.1 blank), List.cons_append,
        List.dropWhile_cons_of_neg]
      rw [solid]
      exact Bool.false_ne_true
    rw [bare]
    exact found

end Pattern

end Text

/-! ### Invocations -/

/-- What follows the name in a declaration. -/
def callChars (form : ArgumentForm) (space argument tail : List Char) : List Char :=
  space ++ (form.opening ++ (argument ++ (form.closing ++ tail)))

/-- The parts of a pattern that follow the name and its ending. -/
def callParts (form : ArgumentForm) : Pattern :=
  [.optional [' '], .literal form.opening, .group notNewline, .literal form.closing]

/-- `IsCall form space tail` says that `space` can stand before an argument, and `tail` after it. -/
def IsCall (form : ArgumentForm) (space tail : List Char) : Prop :=
  (space = [] ∨ space = [' ']) ∧ ¬ form.closing <:+: tail

theorem kept?_toClosing_eq_some {form : ArgumentForm} {chars : List Char} {kept : List (List Char)}
    (single : '\n' ∉ chars) :
    Pattern.kept? [.group notNewline, .literal form.closing] chars = some kept ↔
      ∃ argument tail, ¬ form.closing <:+: tail ∧ chars = argument ++ (form.closing ++ tail) ∧
        kept = [argument] := by
  have works : ∀ tail, Pattern.kept? [.literal form.closing] (form.closing ++ tail) = some [] := by
    intro tail
    exact Pattern.kept?_literal_eq_some.2 ⟨tail, rfl, rfl⟩
  have all : ∀ {argument rest}, chars = argument ++ rest → ∀ c ∈ argument, notNewline c = true := by
    rintro argument rest rfl c member
    apply bne_iff_ne.2
    rintro rfl
    exact single (List.mem_append_left _ member)
  have last : ∀ {found}, Pattern.kept? [.group notNewline, .literal form.closing] chars = some found →
      ∃ argument tail, ¬ form.closing <:+: tail ∧ chars = argument ++ (form.closing ++ tail) ∧
        found = [argument] := by
    intro found h
    rw [Pattern.kept?_group] at h
    obtain ⟨⟨argument, inner⟩, run, rfl⟩ := Option.map_eq_some_iff.1 h
    obtain ⟨rest, split, ending⟩ := greedy_eq_some run
    obtain ⟨tail, rfl, nothing⟩ := Pattern.kept?_literal_eq_some.1 ending
    obtain rfl := Option.some.inj nothing
    refine ⟨argument, tail, ?_, split, rfl⟩
    rintro ⟨before, after, rfl⟩
    -- The argument could have gone on to the closing in what follows it.
    have longer : chars = (argument ++ (form.closing ++ before)) ++ (form.closing ++ after) := by
      simp [split]
    have bound := (greedy_longest (longer ▸ run) (all longer) (works after)).length_le
    have positive := List.length_pos_iff.2 form.closing_ne_nil
    simp only [List.length_append] at bound
    omega
  constructor
  · exact last
  · rintro ⟨argument, tail, closed, split, rfl⟩
    obtain ⟨taken, found, run⟩ : ∃ taken found, greedy notNewline
        (Pattern.kept? [.literal form.closing]) chars = some (taken, found) := by
      obtain ⟨further, found, beyond⟩ := exists_greedy notNewline (works tail)
      exact ⟨_, found, split ▸ greedy_append_of_forall (all split) beyond⟩
    have kept : Pattern.kept? [.group notNewline, .literal form.closing] chars = some (taken :: found) := by
      rw [Pattern.kept?_group, run]
      rfl
    obtain ⟨other, rest, closedThen, splitThen, same⟩ := last kept
    obtain ⟨rfl, -⟩ := form.closing_inj closed closedThen (split.symm.trans splitThen)
    rw [kept, same]

theorem kept?_callParts_eq_some {form : ArgumentForm} {chars : List Char} {kept : List (List Char)}
    (single : '\n' ∉ chars) :
    Pattern.kept? (callParts form) chars = some kept ↔
      ∃ space argument tail, IsCall form space tail ∧ chars = callChars form space argument tail ∧
        kept = [argument] := by
  have apart : ∀ rest, Pattern.kept? [.literal form.opening, .group notNewline, .literal form.closing]
      ([' '] ++ rest) = none := by
    intro rest
    rw [Pattern.kept?_literal, form.opening_eq_cons]
    rfl
  rw [callParts, Pattern.kept?_optional_eq_some apart]
  constructor
  · rintro ⟨space, rest, given, rfl, found⟩
    obtain ⟨content, rfl, inner⟩ := Pattern.kept?_literal_eq_some.1 found
    have within : '\n' ∉ content := fun member => single (by simp [member])
    obtain ⟨argument, tail, closed, rfl, same⟩ := (kept?_toClosing_eq_some within).1 inner
    exact ⟨space, argument, tail, ⟨given, closed⟩, rfl, same⟩
  · rintro ⟨space, argument, tail, ⟨given, closed⟩, rfl, same⟩
    have within : '\n' ∉ argument ++ (form.closing ++ tail) :=
      fun member => single (List.mem_append_right _ (List.mem_append_right _ member))
    refine ⟨space, _, given, rfl, Pattern.kept?_literal_eq_some.2 ⟨_, rfl, ?_⟩⟩
    exact (kept?_toClosing_eq_some within).2 ⟨argument, tail, closed, rfl, same⟩

/-- An invocation starts with a space or a parenthesis. -/
theorem callChars_stops {form : ArgumentForm} {space tail : List Char} (call : IsCall form space tail)
    (argument : List Char) : (callChars form space argument tail).takeWhile isWord = [] := by
  unfold callChars
  rw [form.opening_eq_cons]
  rcases call.1 with rfl | rfl <;> rfl

theorem callChars_inj {form : ArgumentForm} {space argument tail other argumentThen tailThen : List Char}
    (call : IsCall form space tail) (callThen : IsCall form other tailThen)
    (same : callChars form space argument tail = callChars form other argumentThen tailThen) :
    space = other ∧ argument = argumentThen ∧ tail = tailThen := by
  have spaces : space = other := by
    have heads := congrArg List.head? same
    unfold callChars at heads
    rw [form.opening_eq_cons] at heads
    rcases call.1 with rfl | rfl <;> rcases callThen.1 with rfl | rfl <;> simp at heads <;> rfl
  subst spaces
  unfold callChars at same
  have contents := List.append_cancel_left (List.append_cancel_left same)
  exact ⟨rfl, form.closing_inj call.2 callThen.2 contents⟩

/-! ### Lines -/

/-- The parts of a line that declares a well-known attribute, but for the opening and the name. -/
structure DeclarationLine where
  indent : List Char
  path : List Char
  ending : List Char
  space : List Char
  argument : List Char
  tail : List Char

namespace DeclarationLine

/-- `line.chars dialect form name` is the characters of `line`. -/
def chars (line : DeclarationLine) (dialect : Dialect) (form : ArgumentForm) (name : List Char) : List Char :=
  line.indent ++ (dialect.opening.toList ++ (line.path ++ (name ++ (line.ending ++
    callChars form line.space line.argument line.tail))))

/-- Blanks, a name space or none, an ending or none, a space or none, and no closing after the argument. -/
structure IsProper (line : DeclarationLine) (form : ArgumentForm) : Prop where
  indent : allBlank line.indent = true
  path : line.path = [] ∨ line.path = reflectionPath
  ending : line.ending = [] ∨ line.ending = attributeEnding
  call : IsCall form line.space line.tail

end DeclarationLine

theorem head?_knownNames : ∀ name ∈ knownNames, ∃ c rest, name.toList = c :: rest ∧ c ≠ 'S' := by
  have all : ∀ name ∈ knownNames, name.toList ≠ [] ∧ name.toList.head? ≠ some 'S' := by decide +kernel
  intro name known
  obtain ⟨nonempty, other⟩ := all name known
  obtain ⟨c, rest, same⟩ := List.exists_cons_of_ne_nil nonempty
  refine ⟨c, rest, same, ?_⟩
  rintro rfl
  exact other (by rw [same]; rfl)

theorem reflectionPath_eq_cons : reflectionPath = 'S' :: reflectionPath.tail := rfl

theorem attributeEnding_eq_cons : attributeEnding = 'A' :: attributeEnding.tail := rfl

section Grammar

variable {dialect : Dialect} {form : ArgumentForm} {name : String} {text : List Char}

/-- What a pattern keeps of a line is the argument of the line that it can be taken apart into. -/
theorem kept?_declarationPattern_eq_some (known : name ∈ knownNames) (single : '\n' ∉ text)
    {kept : List (List Char)} :
    (declarationPattern dialect form name.toList).kept? text = some kept ↔
      ∃ line : DeclarationLine, line.IsProper form ∧ text = line.chars dialect form name.toList ∧
        kept = [line.argument] := by
  have unspaced : ∀ rest, Pattern.kept? (callParts form) (attributeEnding ++ rest) = none := by
    intro rest
    rw [attributeEnding_eq_cons, callParts]
    exact kept?_opening_of_word form (by decide) _ _
  have unnamed : ∀ rest, Pattern.kept? (.literal name.toList :: .optional attributeEnding :: callParts form)
      (reflectionPath ++ rest) = none := by
    intro rest
    obtain ⟨c, more, same, other⟩ := head?_knownNames name known
    rw [Pattern.kept?_literal, same, reflectionPath_eq_cons, List.cons_append, after?, if_neg other]
    rfl
  have pattern : declarationPattern dialect form name.toList =
      .run isBlank :: .literal (dialect.firstChar :: dialect.opening.toList.tail) ::
        .optional reflectionPath :: .literal name.toList :: .optional attributeEnding :: callParts form := by
    rw [← dialect.opening_eq_cons]
    rfl
  rw [pattern, Pattern.kept?_indented_eq_some dialect.firstChar_not_blank, ← dialect.opening_eq_cons]
  constructor
  · rintro ⟨indent, _, blank, rfl, opened⟩
    obtain ⟨_, rfl, content⟩ := Pattern.kept?_literal_eq_some.1 opened
    obtain ⟨path, _, given, rfl, named⟩ := (Pattern.kept?_optional_eq_some unnamed).1 content
    obtain ⟨_, rfl, afterName⟩ := Pattern.kept?_literal_eq_some.1 named
    obtain ⟨ending, rest, ended, rfl, called⟩ := (Pattern.kept?_optional_eq_some unspaced).1 afterName
    have within : '\n' ∉ rest := fun member => single (by simp [member])
    obtain ⟨space, argument, tail, call, rfl, same⟩ := (kept?_callParts_eq_some within).1 called
    exact ⟨⟨indent, path, ending, space, argument, tail⟩, ⟨blank, given, ended, call⟩, rfl, same⟩
  · rintro ⟨line, proper, rfl, same⟩
    have within : '\n' ∉ callChars form line.space line.argument line.tail :=
      fun member => single (by simp [DeclarationLine.chars, member])
    have called := (kept?_callParts_eq_some within).2 ⟨_, _, _, proper.call, rfl, same⟩
    refine ⟨line.indent, _, proper.indent, rfl, Pattern.kept?_literal_eq_some.2 ⟨_, rfl, ?_⟩⟩
    refine (Pattern.kept?_optional_eq_some unnamed).2 ⟨line.path, _, proper.path, rfl, ?_⟩
    refine Pattern.kept?_literal_eq_some.2 ⟨_, rfl, ?_⟩
    exact (Pattern.kept?_optional_eq_some unspaced).2 ⟨line.ending, _, proper.ending, rfl, called⟩

/-! ### One reading only -/

theorem opening_inj {otherDialect : Dialect} {indent other rest restThen : List Char}
    (blank : allBlank indent = true) (otherBlank : allBlank other = true)
    (same : indent ++ (dialect.opening.toList ++ rest) = other ++ (otherDialect.opening.toList ++ restThen)) :
    indent = other ∧ dialect = otherDialect ∧ rest = restThen := by
  have solid : ∀ (dialect : Dialect) rest, (dialect.opening.toList ++ rest).takeWhile isBlank = [] := by
    intro dialect rest
    rw [dialect.opening_eq_cons, List.cons_append, List.takeWhile_cons_of_neg]
    rw [dialect.firstChar_not_blank]
    exact Bool.false_ne_true
  obtain ⟨indents, opened⟩ := run_inj (List.all_eq_true.1 blank) (List.all_eq_true.1 otherBlank)
    (solid _ _) (solid _ _) same
  have dialects : dialect = otherDialect := by
    have heads := congrArg List.head? opened
    rw [dialect.opening_eq_cons, otherDialect.opening_eq_cons] at heads
    revert heads
    cases dialect <;> cases otherDialect <;> simp [Dialect.firstChar]
  subst dialects
  exact ⟨indents, rfl, List.append_cancel_left opened⟩

theorem isWordRun_ended {ending : List Char} (known : name ∈ knownNames)
    (ended : ending = [] ∨ ending = attributeEnding) : IsWordRun (name.toList ++ ending) := by
  intro c member
  rcases List.mem_append.1 member with inName | inEnding
  · exact isWordRun_knownNames name known c inName
  · rcases ended with rfl | rfl
    · cases inEnding
    · exact isWordRun_attributeEnding c inEnding

theorem DeclarationLine.isProper_reads {line other : DeclarationLine} {otherDialect : Dialect}
    {otherForm : ArgumentForm} {otherName : String} (known : name ∈ knownNames)
    (otherKnown : otherName ∈ knownNames) (proper : line.IsProper form)
    (otherProper : other.IsProper otherForm)
    (same : line.chars dialect form name.toList = other.chars otherDialect otherForm otherName.toList) :
    line.indent = other.indent ∧ line.path = other.path ∧
      name.toList ++ line.ending = otherName.toList ++ other.ending ∧
      callChars form line.space line.argument line.tail =
        callChars otherForm other.space other.argument other.tail := by
  obtain ⟨indents, rfl, named⟩ := opening_inj proper.indent otherProper.indent same
  obtain ⟨c, more, start, notS⟩ := head?_knownNames name known
  obtain ⟨d, others, otherStart, otherNotS⟩ := head?_knownNames otherName otherKnown
  have paths : line.path = other.path := by
    have heads := congrArg List.head? named
    rw [start, otherStart] at heads
    rcases proper.path with here | here <;> rcases otherProper.path with there | there
    · rw [here, there]
    · rw [here, there, reflectionPath_eq_cons] at heads
      exact absurd (Option.some.inj heads) notS
    · rw [here, there, reflectionPath_eq_cons] at heads
      exact absurd (Option.some.inj heads).symm otherNotS
    · rw [here, there]
  rw [paths] at named
  have words := List.append_cancel_left named
  rw [← List.append_assoc, ← List.append_assoc] at words
  obtain ⟨whole, calls⟩ := run_inj (isWordRun_ended known proper.ending)
    (isWordRun_ended otherKnown otherProper.ending)
    (callChars_stops proper.call _) (callChars_stops otherProper.call _) words
  exact ⟨indents, paths, whole, calls⟩

theorem name_eq_of_ended {otherName : String} {ending otherEnding : List Char} (known : name ∈ knownNames)
    (otherKnown : otherName ∈ knownNames) (ended : ending = [] ∨ ending = attributeEnding)
    (otherEnded : otherEnding = [] ∨ otherEnding = attributeEnding)
    (same : name.toList ++ ending = otherName.toList ++ otherEnding) : name = otherName := by
  rcases ended with rfl | rfl <;> rcases otherEnded with rfl | rfl
  · exact String.toList_inj.1 (by simpa using same)
  · rw [List.append_nil] at same
    exact absurd same (unended_knownNames otherName otherKnown name known)
  · rw [List.append_nil] at same
    exact absurd same.symm (unended_knownNames name known otherName otherKnown)
  · exact String.toList_inj.1 (List.append_cancel_right same)

/-- A line can be taken apart in one way only. -/
theorem DeclarationLine.chars_inj {line other : DeclarationLine} (known : name ∈ knownNames)
    (proper : line.IsProper form) (otherProper : other.IsProper form)
    (same : line.chars dialect form name.toList = other.chars dialect form name.toList) : line = other := by
  obtain ⟨indents, paths, whole, calls⟩ := isProper_reads known known proper otherProper same
  have endings := List.append_cancel_left whole
  obtain ⟨spaces, arguments, tails⟩ := callChars_inj proper.call otherProper.call calls
  cases line
  cases other
  simp_all

/-! ### What a line declares -/

theorem findAll_declarationPattern (single : '\n' ∉ text) :
    (declarationPattern dialect form name.toList).findAll text =
      ((declarationPattern dialect form name.toList).kept? text).toList := by
  have pattern : declarationPattern dialect form name.toList =
      .run isBlank :: .literal (dialect.firstChar :: dialect.opening.toList.tail) ::
        (declarationPattern dialect form name.toList).tail.tail := by
    rw [← dialect.opening_eq_cons]
    rfl
  rw [pattern]
  exact Pattern.findAll_last_line Pattern.size_pos_of_run single

theorem exists_line_of_findAll (known : name ∈ knownNames) (single : '\n' ∉ text)
    (found : (declarationPattern dialect form name.toList).findAll text ≠ []) :
    ∃ line : DeclarationLine, line.IsProper form ∧ text = line.chars dialect form name.toList := by
  rw [findAll_declarationPattern single] at found
  cases kept : (declarationPattern dialect form name.toList).kept? text with
  | none =>
    rw [kept] at found
    exact absurd rfl found
  | some groups =>
    obtain ⟨line, proper, same, -⟩ := (kept?_declarationPattern_eq_some known single).1 kept
    exact ⟨line, proper, same⟩

theorem declaredAll_of_line (known : name ∈ knownNames) (single : '\n' ∉ text) {line : DeclarationLine}
    (proper : line.IsProper form) (same : text = line.chars dialect form name.toList) :
    declaredAll dialect form name text =
      if allBlank line.argument then [] else [String.ofList line.argument] := by
  have kept := (kept?_declarationPattern_eq_some known single).2 ⟨line, proper, same, rfl⟩
  rw [declaredAll, findAll_declarationPattern single, kept]
  cases blank : allBlank line.argument <;> simp [argumentOf?, blank]

theorem declaredAll_of_no_line (known : name ∈ knownNames) (single : '\n' ∉ text)
    (none : ∀ line : DeclarationLine, line.IsProper form → text ≠ line.chars dialect form name.toList) :
    declaredAll dialect form name text = [] := by
  have nothing : (declarationPattern dialect form name.toList).findAll text = [] := by
    by_contra found
    obtain ⟨line, proper, same⟩ := exists_line_of_findAll known single found
    exact none line proper same
  rw [declaredAll, nothing]
  rfl

/-- A line declares a well-known attribute exactly if it can be taken apart into blanks, the opening, the
name with its name space and ending, and an argument that is not blank up to the last closing. There is one
way to do so, and no other well-known name for which it can be done. -/
theorem declaredAll_line (dialect : Dialect) (form : ArgumentForm) {name : String} (known : name ∈ knownNames)
    {text : List Char} (single : '\n' ∉ text) :
    (∀ value, declaredAll dialect form name text = [value] ↔
      ∃ line : DeclarationLine, line.IsProper form ∧ text = line.chars dialect form name.toList ∧
        allBlank line.argument = false ∧ value = String.ofList line.argument) ∧
    ((∀ line : DeclarationLine, line.IsProper form → text = line.chars dialect form name.toList →
      allBlank line.argument = true) → declaredAll dialect form name text = []) ∧
    (∀ line other : DeclarationLine, line.IsProper form → other.IsProper form →
      text = line.chars dialect form name.toList → text = other.chars dialect form name.toList →
        line = other) ∧
    ∀ (otherDialect : Dialect) (otherForm : ArgumentForm), ∀ otherName ∈ knownNames,
      (declarationPattern dialect form name.toList).findAll text ≠ [] →
      (declarationPattern otherDialect otherForm otherName.toList).findAll text ≠ [] → otherName = name := by
  refine ⟨?_, ?_, ?_, ?_⟩
  · intro value
    constructor
    · intro declared
      by_cases apart : ∃ line : DeclarationLine, line.IsProper form ∧
          text = line.chars dialect form name.toList
      · obtain ⟨line, proper, same⟩ := apart
        rw [declaredAll_of_line known single proper same] at declared
        cases blank : allBlank line.argument with
        | true => simp [blank] at declared
        | false =>
          rw [blank, if_neg Bool.false_ne_true] at declared
          exact ⟨line, proper, same, blank, (List.cons.inj declared).1.symm⟩
      · rw [declaredAll_of_no_line known single fun line proper same => apart ⟨line, proper, same⟩] at declared
        cases declared
    · rintro ⟨line, proper, same, solid, rfl⟩
      rw [declaredAll_of_line known single proper same, solid, if_neg Bool.false_ne_true]
  · intro blank
    by_cases apart : ∃ line : DeclarationLine, line.IsProper form ∧
        text = line.chars dialect form name.toList
    · obtain ⟨line, proper, same⟩ := apart
      rw [declaredAll_of_line known single proper same, if_pos (blank line proper same)]
    · exact declaredAll_of_no_line known single fun line proper same => apart ⟨line, proper, same⟩
  · rintro line other proper otherProper rfl same
    exact DeclarationLine.chars_inj known proper otherProper same
  · intro otherDialect otherForm otherName otherKnown found otherFound
    obtain ⟨line, proper, same⟩ := exists_line_of_findAll known single found
    obtain ⟨other, otherProper, otherSame⟩ := exists_line_of_findAll otherKnown single otherFound
    obtain ⟨-, -, whole, -⟩ := DeclarationLine.isProper_reads otherKnown known otherProper proper
      (otherSame.symm.trans same)
    exact name_eq_of_ended otherKnown known otherProper.ending proper.ending whole

/-- A line with a name space, an ending, a space, and a second declaration in what follows the first. -/
def versionLine : DeclarationLine where
  indent := "\t ".toList
  path := reflectionPath
  ending := attributeEnding
  space := [' ']
  argument := "1.0\")>: Guid(\"2".toList
  tail := "> ' (see \"notes\" )".toList

theorem declaredAll_line_version :
    "AssemblyVersion" ∈ knownNames ∧
      '\n' ∉ versionLine.chars .visualBasic .quoted "AssemblyVersion".toList ∧
      declaredAll .visualBasic .quoted "AssemblyVersion"
        (versionLine.chars .visualBasic .quoted "AssemblyVersion".toList) = ["1.0\")>: Guid(\"2"] ∧
      ∀ form, ∀ name ∈ knownNames, name ≠ "AssemblyVersion" →
        (declarationPattern .visualBasic form name.toList).findAll
          (versionLine.chars .visualBasic .quoted "AssemblyVersion".toList) = [] := by
  have known : "AssemblyVersion" ∈ knownNames := by decide
  have single : '\n' ∉ versionLine.chars .visualBasic .quoted "AssemblyVersion".toList := by decide +kernel
  have proper : versionLine.IsProper .quoted :=
    ⟨by decide +kernel, Or.inr rfl, Or.inr rfl, Or.inr rfl, by decide +kernel⟩
  have solid : allBlank versionLine.argument = false := by decide +kernel
  obtain ⟨declares, -, -, alone⟩ := declaredAll_line .visualBasic .quoted known single
  refine ⟨known, single, (declares _).2 ⟨versionLine, proper, rfl, solid, String.ofList_toList.symm⟩, ?_⟩
  intro form name otherKnown different
  by_contra found
  refine different (alone .visualBasic form name otherKnown ?_ found)
  have kept := (kept?_declarationPattern_eq_some known single).2 ⟨versionLine, proper, rfl, rfl⟩
  rw [findAll_declarationPattern single, kept]
  exact List.cons_ne_nil _ _

end Grammar

end AssemblyInfo

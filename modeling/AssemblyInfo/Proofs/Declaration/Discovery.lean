import AssemblyInfo.Proofs.Declaration.Grammar

/-!
# Discovered attributes

What a line has to look like to declare an attribute that is not well known. Its name is the whole run of
word characters after the opening, so it is none of the well-known names, and the line declares none of the
well-known attributes.
-/

namespace AssemblyInfo
open Text

/-- The parts of a line that declares any attribute, but for the opening. -/
structure CustomLine where
  name : List Char
  space : List Char
  argument : List Char
  tail : List Char

namespace CustomLine

def chars (line : CustomLine) : List Char :=
  Dialect.csharp.opening.toList ++ (line.name ++ callChars .bare line.space line.argument line.tail)

/-- A run of word characters, a space or none, and no closing after the argument. -/
structure IsProper (line : CustomLine) : Prop where
  run : IsWordRun line.name
  call : IsCall .bare line.space line.tail

end CustomLine

/-! ### Taking lines apart -/

theorem callChars_eq_cons {form : ArgumentForm} {space tail : List Char} (call : IsCall form space tail)
    (argument : List Char) :
    ∃ c rest, callChars form space argument tail = c :: rest ∧ (c = ' ' ∨ c = '(') := by
  unfold callChars
  rw [form.opening_eq_cons]
  rcases call.1 with rfl | rfl
  · exact ⟨'(', _, rfl, Or.inr rfl⟩
  · exact ⟨' ', _, rfl, Or.inl rfl⟩

theorem kept?_ending_call {chars : List Char} {kept : List (List Char)} :
    Pattern.kept? (.optional attributeEnding :: callParts .bare) chars = some kept ↔
      ∃ ending rest, (ending = [] ∨ ending = attributeEnding) ∧ chars = ending ++ rest ∧
        Pattern.kept? (callParts .bare) rest = some kept := by
  apply Pattern.kept?_optional_eq_some
  intro rest
  rw [attributeEnding_eq_cons, callParts]
  exact kept?_opening_of_word .bare (by decide) _ _

/-- The name is the whole run of word characters: a shorter one that leaves its ending could be longer. -/
theorem kept?_named_eq_some {chars : List Char} (single : '\n' ∉ chars) {kept : List (List Char)} :
    Pattern.kept? (.group isWord :: .optional attributeEnding :: callParts .bare) chars = some kept ↔
      ∃ name space argument tail, IsWordRun name ∧ IsCall .bare space tail ∧
        chars = name ++ callChars .bare space argument tail ∧ kept = [name, argument] := by
  rw [Pattern.kept?_group]
  constructor
  · intro found
    obtain ⟨⟨name, inner⟩, run, rfl⟩ := Option.map_eq_some_iff.1 found
    obtain ⟨left, split, later⟩ := greedy_eq_some run
    obtain ⟨ending, rest, ended, rfl, called⟩ := kept?_ending_call.1 later
    have within : '\n' ∉ rest := fun member => single (by simp [split, member])
    obtain ⟨space, argument, tail, call, rfl, rfl⟩ := (kept?_callParts_eq_some within).1 called
    have all := greedy_holds run
    rcases ended with rfl | rfl
    · exact ⟨name, space, argument, tail, all, call, split, rfl⟩
    · have longer : chars = (name ++ attributeEnding) ++ callChars .bare space argument tail := by
        simp [split]
      have allLonger : IsWordRun (name ++ attributeEnding) := by
        intro c member
        rcases List.mem_append.1 member with inName | inEnding
        · exact all c inName
        · exact isWordRun_attributeEnding c inEnding
      have works := kept?_ending_call.2 ⟨[], _, Or.inl rfl, rfl, called⟩
      have bound := (greedy_longest (longer ▸ run) allLonger works).length_le
      have positive : 0 < attributeEnding.length := by decide
      rw [List.length_append] at bound
      omega
  · rintro ⟨name, space, argument, tail, run, call, rfl, rfl⟩
    have within : '\n' ∉ callChars .bare space argument tail :=
      fun member => single (List.mem_append_right _ member)
    have called := (kept?_callParts_eq_some within).2 ⟨space, argument, tail, call, rfl, rfl⟩
    have works := kept?_ending_call.2 ⟨[], _, Or.inl rfl, rfl, called⟩
    obtain ⟨c, rest, start, stop⟩ := callChars_eq_cons call argument
    have solid : isWord c = false := by
      rcases stop with rfl | rfl <;> decide
    have here : greedy isWord (Pattern.kept? (.optional attributeEnding :: callParts .bare))
        (callChars .bare space argument tail) = some ([], [argument]) := by
      rw [start, List.nil_append] at works
      rw [start, greedy_cons_of_none, works]
      · rfl
      · intro word
        rw [solid] at word
        cases word
    rw [greedy_append_of_forall run here, List.append_nil]
    rfl

section Discovery

variable {text : List Char}

theorem kept?_customPattern_eq_some (single : '\n' ∉ text) {kept : List (List Char)} :
    customPattern.kept? text = some kept ↔
      ∃ line : CustomLine, line.IsProper ∧ text = line.chars ∧ kept = [line.name, line.argument] := by
  have pattern : customPattern = .literal Dialect.csharp.opening.toList :: .group isWord ::
      .optional attributeEnding :: callParts .bare := rfl
  rw [pattern, Pattern.kept?_literal_eq_some]
  constructor
  · rintro ⟨rest, rfl, named⟩
    have within : '\n' ∉ rest := fun member => single (List.mem_append_right _ member)
    obtain ⟨name, space, argument, tail, run, call, rfl, same⟩ := (kept?_named_eq_some within).1 named
    exact ⟨⟨name, space, argument, tail⟩, ⟨run, call⟩, rfl, same⟩
  · rintro ⟨line, proper, rfl, same⟩
    have within := fun member => single (List.mem_append_right _ member)
    exact ⟨_, rfl, (kept?_named_eq_some within).2
      ⟨line.name, line.space, line.argument, line.tail, proper.run, proper.call, rfl, same⟩⟩

theorem CustomLine.chars_inj {line other : CustomLine} (proper : line.IsProper) (otherProper : other.IsProper)
    (same : line.chars = other.chars) : line = other := by
  obtain ⟨names, calls⟩ := run_inj proper.run otherProper.run (callChars_stops proper.call _)
    (callChars_stops otherProper.call _) (List.append_cancel_left same)
  obtain ⟨spaces, arguments, tails⟩ := callChars_inj proper.call otherProper.call calls
  cases line
  cases other
  simp_all

/-! ### What a line declares -/

theorem findAll_customPattern (single : '\n' ∉ text) :
    customPattern.findAll text = (customPattern.kept? text).toList := by
  rw [customPattern, Dialect.csharp.opening_eq_cons]
  exact Pattern.findAll_last_line Pattern.size_pos_of_literal single

theorem customAll_of_line (single : '\n' ∉ text) {line : CustomLine} (proper : line.IsProper)
    (same : text = line.chars) :
    customAll text =
      if isKnown line.name || allBlank line.argument then []
      else [⟨String.ofList line.name, String.ofList line.argument⟩] := by
  have kept := (kept?_customPattern_eq_some single).2 ⟨line, proper, same, rfl⟩
  rw [customAll, findAll_customPattern single, kept]
  cases skipped : isKnown line.name || allBlank line.argument <;> simp [customOf?, skipped]

theorem exists_line_of_customAll (single : '\n' ∉ text) {custom : CustomDeclaration}
    (found : custom ∈ customAll text) :
    ∃ line : CustomLine, line.IsProper ∧ text = line.chars ∧ isKnown line.name = false ∧
      allBlank line.argument = false ∧ custom = ⟨String.ofList line.name, String.ofList line.argument⟩ := by
  have kept : ∃ groups, customPattern.kept? text = some groups := by
    rw [customAll, findAll_customPattern single] at found
    cases kept : customPattern.kept? text with
    | none =>
      rw [kept] at found
      cases found
    | some groups => exact ⟨groups, rfl⟩
  obtain ⟨groups, kept⟩ := kept
  obtain ⟨line, proper, same, -⟩ := (kept?_customPattern_eq_some single).1 kept
  rw [customAll_of_line single proper same] at found
  split at found
  · cases found
  · rename_i accepted
    rw [Bool.or_eq_true, not_or, Bool.not_eq_true, Bool.not_eq_true] at accepted
    exact ⟨line, proper, same, accepted.1, accepted.2, List.mem_singleton.1 found⟩

/-! ### Well-known and discovered attributes apart -/

theorem reflectionPath_eq_append : reflectionPath = "System".toList ++ '.' :: "Reflection.".toList := by
  decide

/-- A line that can be taken apart in both ways names a well-known attribute. -/
theorem isKnown_of_both {line : CustomLine} {other : DeclarationLine} {dialect : Dialect} {form : ArgumentForm}
    {name : String} (known : name ∈ knownNames) (proper : line.IsProper) (otherProper : other.IsProper form)
    (same : line.chars = other.chars dialect form name.toList) : isKnown line.name = true := by
  have unindented : [] ++ line.chars = other.chars dialect form name.toList := same
  obtain ⟨-, rfl, named⟩ := opening_inj rfl otherProper.indent unindented
  have stops := callChars_stops proper.call line.argument
  rcases otherProper.path with path | path
  · rw [path, List.nil_append, ← List.append_assoc] at named
    obtain ⟨whole, -⟩ := run_inj proper.run (isWordRun_ended known otherProper.ending) stops
      (callChars_stops otherProper.call _) named
    obtain ⟨plain, ended⟩ := isKnown_knownNames name known
    rcases otherProper.ending with ending | ending
    · rw [whole, ending, List.append_nil, plain]
    · rw [whole, ending, ended]
  · -- After the first word of a name space there is a dot, where an argument cannot start.
    rw [path, reflectionPath_eq_append, List.append_assoc] at named
    have first : IsWordRun "System".toList := .of_all (by decide)
    obtain ⟨-, calls⟩ := run_inj proper.run first stops rfl named
    obtain ⟨c, rest, start, stop⟩ := callChars_eq_cons proper.call line.argument
    rw [start] at calls
    obtain ⟨rfl, -⟩ := List.cons.inj calls
    rcases stop with impossible | impossible <;> cases impossible

/-- No line declares a well-known attribute and another one. -/
theorem declaredAll_eq_nil_of_customAll (single : '\n' ∉ text) (found : customAll text ≠ []) (dialect : Dialect)
    (form : ArgumentForm) {name : String} (known : name ∈ knownNames) :
    declaredAll dialect form name text = [] := by
  obtain ⟨custom, member⟩ := List.exists_mem_of_ne_nil _ found
  obtain ⟨line, proper, same, unknown, -, -⟩ := exists_line_of_customAll single member
  apply declaredAll_of_no_line known single
  intro other otherProper otherSame
  rw [isKnown_of_both known proper otherProper (same.symm.trans otherSame)] at unknown
  cases unknown

/-! ### Documents -/

theorem declaredAll_eq_flatMap (dialect : Dialect) (form : ArgumentForm) {name : String}
    (single : '\n' ∉ name.toList) (text : List Char) :
    declaredAll dialect form name text = (splitLines text).flatMap (declaredAll dialect form name) := by
  rw [declaredAll_eq_filterMap dialect form single, List.filterMap_eq_flatMap_toList]
  apply List.flatMap_congr
  intro line member
  have whole := splitLines_of_newline_notMem (newline_notMem_of_mem_splitLines member)
  rw [declaredAll_eq_filterMap dialect form single, whole, List.filterMap_eq_flatMap_toList,
    List.flatMap_singleton]

theorem customAll_eq_flatMap (text : List Char) : customAll text = (splitLines text).flatMap customAll := by
  rw [customAll_eq_filterMap, List.filterMap_eq_flatMap_toList]
  apply List.flatMap_congr
  intro line member
  have whole := splitLines_of_newline_notMem (newline_notMem_of_mem_splitLines member)
  rw [customAll_eq_filterMap, whole, List.filterMap_eq_flatMap_toList, List.flatMap_singleton]

theorem isKnown_of_mem_customAll {custom : CustomDeclaration} (found : custom ∈ customAll text) :
    isKnown custom.name.toList = false := by
  rw [customAll_eq_flatMap] at found
  obtain ⟨line, member, here⟩ := List.mem_flatMap.1 found
  obtain ⟨parts, -, -, unknown, -, rfl⟩ :=
    exists_line_of_customAll (newline_notMem_of_mem_splitLines member) here
  simpa using unknown

/-- A line declares an attribute that is not well known exactly if it starts with the opening and a whole run
of word characters, whose base name is not well known, and goes on with an argument that is not blank up to
the last parenthesis. So no document has an attribute of a well-known name among the others, and none of its
lines declares both kinds. -/
theorem customAll_line :
    (∀ text : List Char, '\n' ∉ text →
      (∀ custom, customAll text = [custom] ↔
        ∃ line : CustomLine, line.IsProper ∧ text = line.chars ∧
          String.ofList (baseName line.name) ∉ knownNames ∧ allBlank line.argument = false ∧
          custom = ⟨String.ofList line.name, String.ofList line.argument⟩) ∧
      ((∀ line : CustomLine, line.IsProper → text = line.chars →
        String.ofList (baseName line.name) ∈ knownNames ∨ allBlank line.argument = true) →
          customAll text = []) ∧
      ∀ line other : CustomLine, line.IsProper → other.IsProper → text = line.chars → text = other.chars →
        line = other) ∧
    ∀ (dialect : Dialect) (text : String),
      (∀ custom ∈ (ParseResult.ofText dialect text).customAttributes, ∀ name ∈ knownNames,
        custom.name.toList ≠ name.toList ∧ custom.name.toList ≠ name.toList ++ attributeEnding) ∧
      (ParseResult.ofText dialect text).customAttributes = (splitLines text.toList).flatMap customAll ∧
      (∀ form, ∀ name ∈ knownNames, declaredAll dialect form name text.toList =
        (splitLines text.toList).flatMap (declaredAll dialect form name)) ∧
      ∀ line ∈ splitLines text.toList, customAll line ≠ [] →
        ∀ form, ∀ name ∈ knownNames, declaredAll dialect form name line = [] := by
  have known_iff : ∀ word, isKnown word = false ↔ String.ofList (baseName word) ∉ knownNames := by
    intro word
    rw [isKnown, ← Bool.not_eq_true, List.contains_iff_mem]
  constructor
  · intro text single
    refine ⟨?_, ?_, ?_⟩
    · intro custom
      constructor
      · intro declared
        have member : custom ∈ customAll text := by rw [declared]; exact List.mem_cons_self
        obtain ⟨line, proper, same, unknown, solid, made⟩ := exists_line_of_customAll single member
        exact ⟨line, proper, same, (known_iff _).1 unknown, solid, made⟩
      · rintro ⟨line, proper, same, unknown, solid, rfl⟩
        rw [customAll_of_line single proper same, (known_iff _).2 unknown, solid]
        rfl
    · intro refused
      by_contra found
      obtain ⟨custom, member⟩ := List.exists_mem_of_ne_nil _ found
      obtain ⟨line, proper, same, unknown, solid, -⟩ := exists_line_of_customAll single member
      rcases refused line proper same with known | blank
      · exact (known_iff _).1 unknown known
      · rw [blank] at solid
        cases solid
    · rintro line other proper otherProper rfl same
      exact CustomLine.chars_inj proper otherProper same
  · intro dialect text
    refine ⟨?_, customAll_eq_flatMap text.toList, ?_, ?_⟩
    · intro custom member name known
      have unknown := isKnown_of_mem_customAll member
      obtain ⟨plain, ended⟩ := isKnown_knownNames name known
      constructor
      · intro same
        rw [same, plain] at unknown
        cases unknown
      · intro same
        rw [same, ended] at unknown
        cases unknown
    · intro form name known
      have single : '\n' ∉ name.toList := (isWordRun_knownNames name known).notMem rfl
      exact declaredAll_eq_flatMap dialect form single text.toList
    · intro line member found form name known
      exact declaredAll_eq_nil_of_customAll (newline_notMem_of_mem_splitLines member) found dialect form known

/-- A line with an ending, a space, and parentheses inside the argument and around what follows it. -/
def ownerLine : CustomLine where
  name := "OwnerAttribute".toList
  space := [' ']
  argument := "typeof(Team), \"[assembly: Guid(\"1\")".toList
  tail := "] // (the owner".toList

theorem customAll_line_owner :
    '\n' ∉ ownerLine.chars ∧
      customAll ownerLine.chars = [⟨"OwnerAttribute", "typeof(Team), \"[assembly: Guid(\"1\")"⟩] ∧
      ∀ form, ∀ name ∈ knownNames, declaredAll .csharp form name ownerLine.chars = [] := by
  have single : '\n' ∉ ownerLine.chars := by decide +kernel
  have proper : ownerLine.IsProper := ⟨.of_all (by decide +kernel), Or.inr rfl, by decide +kernel⟩
  have unknown : String.ofList (baseName ownerLine.name) ∉ knownNames := by decide +kernel
  have solid : allBlank ownerLine.argument = false := by decide +kernel
  obtain ⟨declares, -, -⟩ := customAll_line.1 ownerLine.chars single
  obtain ⟨-, -, -, apart⟩ := customAll_line.2 .csharp (String.ofList ownerLine.chars)
  have declared := (declares ⟨"OwnerAttribute", "typeof(Team), \"[assembly: Guid(\"1\")"⟩).2
    ⟨ownerLine, proper, rfl, unknown, solid, by decide +kernel⟩
  rw [String.toList_ofList, splitLines_of_newline_notMem single] at apart
  exact ⟨single, declared, apart _ List.mem_cons_self (by rw [declared]; exact List.cons_ne_nil _ _)⟩

end Discovery

end AssemblyInfo

import AssemblyInfo.Proofs.Text.Line
import AssemblyInfo.Text.Blank
import AssemblyInfo.Text.Pattern
import Mathlib.Data.List.TakeWhile

/-!
# Laws of patterns

A pattern whose parts cannot take a line feed finds in a text what it finds on its lines. This stays
so if the pattern starts with blanks, which may run over several lines: a match that starts on a blank
line is the match of the line that it ends on.
-/

namespace AssemblyInfo.Text

/-! ### Fixed texts and runs -/

theorem eq_append_of_after? {text chars rest : List Char} (found : after? text chars = some rest) :
    chars = text ++ rest := by
  induction text generalizing chars with
  | nil => exact Option.some.inj found
  | cons c text ih =>
    cases chars with
    | nil => cases found
    | cons d chars =>
      rw [after?] at found
      split at found
      · rename_i same
        rw [same, ih found, List.cons_append]
      · cases found

theorem after?_append_self (text rest : List Char) : after? text (text ++ rest) = some rest := by
  induction text with
  | nil => rfl
  | cons c text ih => rw [List.cons_append, after?, if_pos rfl, ih]

theorem after?_append {text : List Char} {stop : Char} (absent : stop ∉ text)
    (chars rest : List Char) :
    after? text (chars ++ stop :: rest) = (after? text chars).map (· ++ stop :: rest) := by
  induction text generalizing chars with
  | nil => rfl
  | cons c text ih =>
    rw [List.mem_cons, not_or] at absent
    cases chars with
    | nil => rw [List.nil_append, after?, if_neg (Ne.symm absent.1)]; rfl
    | cons d chars =>
      rw [List.cons_append, after?, after?]
      split
      · exact ih absent.2 chars
      · rfl

theorem after?_eq_none {text chars : List Char} {c : Char} (wanted : c ∈ text) (absent : c ∉ chars) :
    after? text chars = none := by
  cases found : after? text chars with
  | none => rfl
  | some rest =>
    rw [eq_append_of_after? found] at absent
    exact (absent (List.mem_append_left rest wanted)).elim

/-- A run of a class that stops where the class ends is the same in both readings. -/
theorem run_inj {holds : Char → Bool} {first second after other : List Char}
    (all : ∀ c ∈ first, holds c = true) (allThen : ∀ c ∈ second, holds c = true)
    (stops : after.takeWhile holds = []) (stopsThen : other.takeWhile holds = [])
    (same : first ++ after = second ++ other) : first = second ∧ after = other := by
  have runs := congrArg (List.takeWhile holds) same
  rw [List.takeWhile_append_of_pos all, List.takeWhile_append_of_pos allThen, stops, stopsThen,
    List.append_nil, List.append_nil] at runs
  subst runs
  exact ⟨rfl, List.append_cancel_left same⟩

section Greedy

variable {α : Type} {holds : Char → Bool} {next : List Char → Option α}

theorem greedy_eq_some {chars taken : List Char} {found : α}
    (h : greedy holds next chars = some (taken, found)) :
    ∃ rest, chars = taken ++ rest ∧ next rest = some found := by
  induction chars generalizing taken with
  | nil =>
    obtain ⟨answer, here, same⟩ := Option.map_eq_some_iff.1 h
    obtain ⟨rfl, rfl⟩ := Prod.mk.inj same
    exact ⟨[], rfl, here⟩
  | cons c chars ih =>
    rw [greedy] at h
    split at h
    · rename_i longer answer deeper
      obtain ⟨rfl, rfl⟩ := Prod.mk.inj (Option.some.inj h)
      split at deeper
      · obtain ⟨rest, same, here⟩ := ih deeper
        exact ⟨rest, by rw [same, List.cons_append], here⟩
      · cases deeper
    · obtain ⟨answer, here, same⟩ := Option.map_eq_some_iff.1 h
      obtain ⟨rfl, rfl⟩ := Prod.mk.inj same
      exact ⟨c :: chars, rfl, here⟩

theorem greedy_holds {chars taken : List Char} {found : α}
    (h : greedy holds next chars = some (taken, found)) : ∀ c ∈ taken, holds c = true := by
  induction chars generalizing taken with
  | nil =>
    obtain ⟨answer, _, same⟩ := Option.map_eq_some_iff.1 h
    obtain ⟨rfl, _⟩ := Prod.mk.inj same
    exact fun c member => (List.not_mem_nil member).elim
  | cons c chars ih =>
    rw [greedy] at h
    split at h
    · rename_i longer answer deeper
      obtain ⟨rfl, rfl⟩ := Prod.mk.inj (Option.some.inj h)
      split at deeper
      · rename_i here
        exact List.forall_mem_cons.2 ⟨here, ih deeper⟩
      · cases deeper
    · obtain ⟨answer, _, same⟩ := Option.map_eq_some_iff.1 h
      obtain ⟨rfl, _⟩ := Prod.mk.inj same
      exact fun c member => (List.not_mem_nil member).elim

theorem greedy_append_newline (stops : holds '\n' = false) {rest : List Char}
    (same : ∀ line, next (line ++ '\n' :: rest) = next line) (line : List Char) :
    greedy holds next (line ++ '\n' :: rest) = greedy holds next line := by
  induction line with
  | nil =>
    have here := same []
    rw [List.nil_append] at here
    rw [List.nil_append, greedy, greedy, stops, here]
    rfl
  | cons c line ih =>
    have here := same (c :: line)
    rw [List.cons_append] at here
    rw [List.cons_append, greedy, greedy, ih, here]

/-- A character more changes nothing for parts that it means nothing to, in the class or not. -/
theorem greedy_append_singleton {stop : Char} (ends : next [] = none)
    (same : ∀ line, next (line ++ [stop]) = next line) (line : List Char) :
    greedy holds next (line ++ [stop]) = greedy holds next line := by
  induction line with
  | nil =>
    have here := same []
    rw [List.nil_append] at here
    have nothing : greedy holds next [] = none := by rw [greedy, ends, Option.map_none]
    rw [List.nil_append, nothing, greedy, nothing, here, ends, ite_self, Option.map_none]
  | cons c line ih =>
    have here := same (c :: line)
    rw [List.cons_append] at here
    rw [List.cons_append, greedy, greedy, ih, here]

theorem greedy_map {β : Type} (f : α → β) (chars : List Char) :
    greedy holds (fun rest => (next rest).map f) chars =
      (greedy holds next chars).map fun (taken, found) => (taken, f found) := by
  induction chars with
  | nil =>
    rw [greedy, greedy]
    cases next [] <;> rfl
  | cons c chars ih =>
    rw [greedy, greedy, ih]
    cases here : next (c :: chars) <;> cases holds c <;> cases greedy holds next chars <;> rfl

theorem greedy_append_of_forall {taken : List Char} (all : ∀ c ∈ taken, holds c = true)
    {rest run : List Char} {found : α} (h : greedy holds next rest = some (run, found)) :
    greedy holds next (taken ++ rest) = some (taken ++ run, found) := by
  induction taken with
  | nil => exact h
  | cons c taken ih =>
    rw [List.forall_mem_cons] at all
    rw [List.cons_append, greedy, if_pos all.1, ih all.2]
    rfl

theorem greedy_eq_none {chars : List Char} (fails : ∀ rest, rest <:+ chars → next rest = none) :
    greedy holds next chars = none := by
  cases h : greedy holds next chars with
  | none => rfl
  | some answer =>
    obtain ⟨rest, rfl, found⟩ := greedy_eq_some h
    rw [fails rest (List.suffix_append _ _)] at found
    cases found

theorem greedy_cons_of_none {c : Char} {chars : List Char}
    (shorter : holds c = true → greedy holds next chars = none) :
    greedy holds next (c :: chars) = (next (c :: chars)).map ([], ·) := by
  rw [greedy]
  by_cases here : holds c = true
  · rw [if_pos here, shorter here]
  · rw [if_neg here]

/-- Nothing is given back to parts that cannot start with a character of the class. -/
theorem greedy_eq_dropWhile (fails : ∀ c rest, holds c = true → next (c :: rest) = none)
    (chars : List Char) :
    greedy holds next chars =
      (next (chars.dropWhile holds)).map (chars.takeWhile holds, ·) := by
  induction chars with
  | nil => rfl
  | cons c chars ih =>
    rw [greedy]
    by_cases here : holds c = true
    · rw [if_pos here, ih, List.dropWhile_cons_of_pos here, List.takeWhile_cons_of_pos here]
      cases next (chars.dropWhile holds) with
      | none => rw [fails c chars here]; rfl
      | some found => rfl
    · rw [if_neg here, List.dropWhile_cons_of_neg here, List.takeWhile_cons_of_neg here]

end Greedy

/-- `part.StaysOnLine` says that `part` cannot take a line feed. -/
def PatternPart.StaysOnLine : PatternPart → Prop
  | .literal text | .optional text => '\n' ∉ text
  | .run holds | .group holds => holds '\n' = false

/-- `part.Omits stop` says that `stop` is in no fixed text of `part`. -/
def PatternPart.Omits (stop : Char) : PatternPart → Prop
  | .literal text | .optional text => stop ∉ text
  | .run _ | .group _ => True

namespace Pattern

variable {pattern : Pattern}

/-! ### One match -/

theorem match?_literal (text : List Char) (parts : Pattern) (chars : List Char) :
    match? (.literal text :: parts) chars =
      (after? text chars).bind fun rest => (match? parts rest).map (·.after text.length) := rfl

theorem match?_optional (text : List Char) (parts : Pattern) (chars : List Char) :
    match? (.optional text :: parts) chars =
      match (after? text chars).bind (match? parts) with
      | some found => some (found.after text.length)
      | none => match? parts chars := rfl

theorem match?_run (holds : Char → Bool) (parts : Pattern) (chars : List Char) :
    match? (.run holds :: parts) chars =
      (greedy holds (match? parts) chars).map fun (taken, found) => found.after taken.length := rfl

theorem match?_group (holds : Char → Bool) (parts : Pattern) (chars : List Char) :
    match? (.group holds :: parts) chars =
      (greedy holds (match? parts) chars).map fun (taken, found) => found.afterGroup taken := rfl

/-- What a match takes is there, and what it keeps is part of that. -/
theorem match?_within {chars : List Char} {found : Match}
    (h : pattern.match? chars = some found) :
    found.size ≤ chars.length ∧ ∀ kept ∈ found.groups, kept ⊆ chars := by
  induction pattern generalizing chars found with
  | nil =>
    obtain rfl := Option.some.inj h
    exact ⟨Nat.zero_le _, fun kept member => (List.not_mem_nil member).elim⟩
  | cons part parts ih =>
    -- A part that keeps nothing takes `taken`, and the parts after it match the rest.
    have step : ∀ {taken rest inner}, chars = taken ++ rest → match? parts rest = some inner →
        found = inner.after taken.length →
        found.size ≤ chars.length ∧ ∀ kept ∈ found.groups, kept ⊆ chars := by
      rintro taken rest inner rfl deeper rfl
      obtain ⟨size, kept⟩ := ih deeper
      refine ⟨?_, fun group member => List.subset_append_of_subset_right _ (kept group member)⟩
      simp only [Match.after, List.length_append]
      omega
    cases part with
    | literal text =>
      rw [match?_literal] at h
      obtain ⟨rest, taken, h⟩ := Option.bind_eq_some_iff.1 h
      obtain ⟨inner, deeper, same⟩ := Option.map_eq_some_iff.1 h
      exact step (eq_append_of_after? taken) deeper same.symm
    | optional text =>
      rw [match?_optional] at h
      split at h
      · rename_i inner deeper
        obtain ⟨rest, taken, deeper⟩ := Option.bind_eq_some_iff.1 deeper
        exact step (eq_append_of_after? taken) deeper (Option.some.inj h).symm
      · exact ih h
    | run holds =>
      rw [match?_run] at h
      obtain ⟨⟨taken, inner⟩, deeper, same⟩ := Option.map_eq_some_iff.1 h
      obtain ⟨rest, split, deeper⟩ := greedy_eq_some deeper
      exact step split deeper same.symm
    | group holds =>
      rw [match?_group] at h
      obtain ⟨⟨taken, inner⟩, run, rfl⟩ := Option.map_eq_some_iff.1 h
      obtain ⟨rest, rfl, deeper⟩ := greedy_eq_some run
      obtain ⟨size, kept⟩ := ih deeper
      refine ⟨?_, fun group member => ?_⟩
      · simp only [Match.afterGroup, List.length_append]
        omega
      · rcases List.mem_cons.1 member with rfl | later
        · exact List.subset_append_left _ _
        · exact List.subset_append_of_subset_right _ (kept group later)

theorem size_le_length {chars : List Char} {found : Match}
    (h : pattern.match? chars = some found) : found.size ≤ chars.length :=
  (match?_within h).1

/-- Parts that stay on their line match a line as they match it with other lines after it. -/
theorem match?_append_newline (inLine : ∀ part ∈ pattern, part.StaysOnLine) (line rest : List Char) :
    pattern.match? (line ++ '\n' :: rest) = pattern.match? line := by
  induction pattern generalizing line with
  | nil => rfl
  | cons part parts ih =>
    rw [List.forall_mem_cons] at inLine
    have later := ih inLine.2
    have stays := inLine.1
    have fixed : ∀ text, '\n' ∉ text →
        (after? text (line ++ '\n' :: rest)).bind (match? parts) =
          (after? text line).bind (match? parts) := by
      intro text single
      rw [after?_append single]
      cases after? text line with
      | none => rfl
      | some left => exact later left
    cases part with
    | literal text =>
      have same := congrArg (Option.map (Match.after · text.length)) (fixed text stays)
      rwa [Option.map_bind, Option.map_bind] at same
    | optional text => rw [match?_optional, match?_optional, fixed text stays, later line]
    | run holds => rw [match?_run, match?_run, greedy_append_newline stays later]
    | group holds => rw [match?_group, match?_group, greedy_append_newline stays later]

theorem match?_closed_nil (c : Char) (text : List Char) (parts : Pattern) :
    match? (parts ++ [.literal (c :: text)]) [] = none := by
  induction parts with
  | nil => rfl
  | cons part parts ih =>
    have fixed : ∀ start, (after? start []).bind (match? (parts ++ [.literal (c :: text)])) = none := by
      intro start
      cases start with
      | nil => exact ih
      | cons d start => rfl
    rw [List.cons_append]
    cases part with
    | literal start =>
      have none := congrArg (Option.map (Match.after · start.length)) (fixed start)
      rwa [Option.map_bind] at none
    | optional start => rw [match?_optional, fixed start, ih]
    | run holds => rw [match?_run, greedy, ih]; rfl
    | group holds => rw [match?_group, greedy, ih]; rfl

/-- Parts that end in a fixed text match a line as they match it with one character more after it that
is in none of their fixed texts: a run that takes the character gives it back. -/
theorem match?_append_singleton {stop c : Char} {text : List Char} (absent : stop ∉ c :: text)
    {parts : Pattern} (omits : ∀ part ∈ parts, part.Omits stop) (line : List Char) :
    match? (parts ++ [.literal (c :: text)]) (line ++ [stop]) =
      match? (parts ++ [.literal (c :: text)]) line := by
  induction parts generalizing line with
  | nil =>
    rw [List.nil_append, match?_literal, match?_literal, after?_append absent]
    cases after? (c :: text) line <;> rfl
  | cons part parts ih =>
    rw [List.forall_mem_cons] at omits
    have later := ih omits.2
    have apart := omits.1
    have fixed : ∀ start, stop ∉ start →
        (after? start (line ++ [stop])).bind (match? (parts ++ [.literal (c :: text)])) =
          (after? start line).bind (match? (parts ++ [.literal (c :: text)])) := by
      intro start single
      rw [after?_append single]
      cases after? start line with
      | none => rfl
      | some left => exact later left
    have ends := match?_closed_nil c text parts
    rw [List.cons_append]
    cases part with
    | literal start =>
      have same := congrArg (Option.map (Match.after · start.length)) (fixed start apart)
      rwa [Option.map_bind, Option.map_bind] at same
    | optional start => rw [match?_optional, match?_optional, fixed start apart, later line]
    | run holds => rw [match?_run, match?_run, greedy_append_singleton ends later]
    | group holds => rw [match?_group, match?_group, greedy_append_singleton ends later]

theorem size_pos_of_literal {c : Char} {text chars : List Char} {parts : Pattern} {found : Match}
    (h : match? (.literal (c :: text) :: parts) chars = some found) : 0 < found.size := by
  rw [match?_literal] at h
  obtain ⟨rest, _, h⟩ := Option.bind_eq_some_iff.1 h
  obtain ⟨inner, _, rfl⟩ := Option.map_eq_some_iff.1 h
  simp only [Match.after, List.length_cons]
  omega

theorem size_pos_of_run {holds : Char → Bool} {c : Char} {text chars : List Char} {parts : Pattern}
    {found : Match} (h : match? (.run holds :: .literal (c :: text) :: parts) chars = some found) :
    0 < found.size := by
  rw [match?_run] at h
  obtain ⟨⟨taken, inner⟩, run, rfl⟩ := Option.map_eq_some_iff.1 h
  obtain ⟨_, _, deeper⟩ := greedy_eq_some run
  have positive := size_pos_of_literal deeper
  simp only [Match.after]
  omega

/-! ### The search through a text -/

theorem scan_of_match {chars : List Char} {found : Match} (h : pattern.match? chars = some found)
    (positive : 0 < found.size) :
    pattern.scan true 0 chars = found.groups :: pattern.scan true found.size chars := by
  obtain ⟨size, same⟩ := Nat.exists_eq_add_of_lt positive
  cases chars with
  | nil =>
    have bound := size_le_length h
    rw [List.length_nil] at bound
    omega
  | cons c rest =>
    rw [Nat.zero_add] at same
    rw [scan, if_pos rfl, h, same, scan]
    simp only [same, Nat.add_sub_cancel]

/-- The search goes on at the next line from a place within a line that starts no match. -/
theorem scan_rest_of_line {line : List Char} (single : '\n' ∉ line) {atStart : Bool} {covered : Nat}
    (within : covered ≤ line.length) (inside : atStart = false ∨ 0 < covered) (rest : List Char) :
    pattern.scan atStart covered (line ++ '\n' :: rest) = pattern.scan true 0 rest := by
  induction line generalizing atStart covered with
  | nil =>
    obtain rfl := Nat.le_zero.1 within
    rcases inside with rfl | impossible
    · rw [List.nil_append, scan]
      rfl
    · omega
  | cons c line ih =>
    rw [List.mem_cons, not_or] at single
    have other : (c == '\n') = false := beq_eq_false_iff_ne.2 (Ne.symm single.1)
    rw [List.length_cons] at within
    rw [List.cons_append]
    cases covered with
    | zero =>
      rcases inside with rfl | impossible
      · rw [scan, other]
        exact ih single.2 (Nat.zero_le _) (Or.inl rfl)
      · omega
    | succ covered =>
      rw [scan, other]
      exact ih single.2 (by omega) (Or.inl rfl)

/-- The same at the last line: there is nothing more to find. -/
theorem scan_rest_of_last_line {line : List Char} (single : '\n' ∉ line) {atStart : Bool}
    {covered : Nat} (inside : atStart = false ∨ 0 < covered) :
    pattern.scan atStart covered line = [] := by
  induction line generalizing atStart covered with
  | nil => rw [scan]
  | cons c line ih =>
    rw [List.mem_cons, not_or] at single
    have other : (c == '\n') = false := beq_eq_false_iff_ne.2 (Ne.symm single.1)
    cases covered with
    | zero =>
      rcases inside with rfl | impossible
      · rw [scan, other]
        exact ih single.2 (Or.inl rfl)
      · omega
    | succ covered =>
      rw [scan, other]
      exact ih single.2 (Or.inl rfl)

/-- The search passes over a line that belongs to the match before. -/
theorem scan_covered_line (line rest : List Char) (atStart : Bool) (covered : Nat) :
    pattern.scan atStart (line.length + 1 + covered) (line ++ '\n' :: rest) =
      pattern.scan true covered rest := by
  induction line generalizing atStart with
  | nil =>
    rw [List.length_nil, Nat.zero_add, Nat.add_comm, List.nil_append, scan]
    rfl
  | cons c line ih =>
    rw [List.length_cons, Nat.add_right_comm _ 1 1, Nat.add_right_comm _ 1 covered, List.cons_append, scan]
    exact ih _

/-- A search without a match at a line start goes on at the next line. -/
theorem scan_of_no_match {line : List Char} (single : '\n' ∉ line) {rest : List Char}
    (h : pattern.match? (line ++ '\n' :: rest) = none) :
    pattern.scan true 0 (line ++ '\n' :: rest) = pattern.scan true 0 rest := by
  cases line with
  | nil =>
    rw [List.nil_append] at h ⊢
    rw [scan, if_pos rfl, h]
    rfl
  | cons c line =>
    rw [List.mem_cons, not_or] at single
    have other : (c == '\n') = false := beq_eq_false_iff_ne.2 (Ne.symm single.1)
    rw [List.cons_append] at h ⊢
    rw [scan, if_pos rfl, h]
    simp only [other]
    exact scan_rest_of_line single.2 (Nat.zero_le _) (Or.inl rfl) rest

/-! ### Matches by lines -/

/-- `pattern.kept? line` is what the match of `pattern` at the start of `line` keeps. -/
def kept? (pattern : Pattern) (line : List Char) : Option (List (List Char)) :=
  (pattern.match? line).map Match.groups

theorem kept?_literal (text : List Char) (parts : Pattern) (chars : List Char) :
    kept? (.literal text :: parts) chars = (after? text chars).bind (kept? parts) := by
  rw [kept?, match?_literal]
  cases after? text chars with
  | none => rfl
  | some rest => exact Option.map_map ..

theorem kept?_optional (text : List Char) (parts : Pattern) (chars : List Char) :
    kept? (.optional text :: parts) chars =
      ((after? text chars).bind (kept? parts)).or (kept? parts chars) := by
  have given : (after? text chars).bind (kept? parts) =
      ((after? text chars).bind (match? parts)).map Match.groups := Option.map_bind.symm
  rw [kept?, match?_optional, given]
  cases (after? text chars).bind (match? parts) <;> rfl

theorem kept?_run (holds : Char → Bool) (parts : Pattern) (chars : List Char) :
    kept? (.run holds :: parts) chars = (greedy holds (kept? parts) chars).map Prod.snd := by
  rw [kept?, match?_run, show kept? parts = fun rest => (match? parts rest).map Match.groups from rfl,
    greedy_map, Option.map_map, Option.map_map]
  rfl

theorem kept?_group (holds : Char → Bool) (parts : Pattern) (chars : List Char) :
    kept? (.group holds :: parts) chars =
      (greedy holds (kept? parts) chars).map fun (taken, kept) => taken :: kept := by
  rw [kept?, match?_group, show kept? parts = fun rest => (match? parts rest).map Match.groups from rfl,
    greedy_map, Option.map_map, Option.map_map]
  rfl

theorem kept?_append_singleton {stop c : Char} {text : List Char} (absent : stop ∉ c :: text)
    {parts : Pattern} (omits : ∀ part ∈ parts, part.Omits stop) (line : List Char) :
    kept? (parts ++ [.literal (c :: text)]) (line ++ [stop]) =
      kept? (parts ++ [.literal (c :: text)]) line := by
  rw [kept?, kept?, match?_append_singleton absent omits]

theorem subset_of_mem_kept? {line group : List Char} {kept : List (List Char)}
    (h : pattern.kept? line = some kept) (member : group ∈ kept) : group ⊆ line := by
  obtain ⟨found, here, rfl⟩ := Option.map_eq_some_iff.1 h
  exact (match?_within here).2 group member

theorem findAll_last_line (positive : ∀ {chars found}, pattern.match? chars = some found → 0 < found.size)
    {line : List Char} (single : '\n' ∉ line) : pattern.findAll line = (pattern.kept? line).toList := by
  rw [findAll, kept?]
  cases h : pattern.match? line with
  | some found =>
    rw [scan_of_match h (positive h), scan_rest_of_last_line single (Or.inr (positive h))]
    rfl
  | none =>
    cases line with
    | nil => rfl
    | cons c line =>
      rw [List.mem_cons, not_or] at single
      have other : (c == '\n') = false := beq_eq_false_iff_ne.2 (Ne.symm single.1)
      rw [scan, if_pos rfl, h, other]
      exact scan_rest_of_last_line single.2 (Or.inl rfl)

theorem findAll_line (positive : ∀ {chars found}, pattern.match? chars = some found → 0 < found.size)
    {line rest : List Char} (single : '\n' ∉ line)
    (same : pattern.match? (line ++ '\n' :: rest) = pattern.match? line) :
    pattern.findAll (line ++ '\n' :: rest) = (pattern.kept? line).toList ++ pattern.findAll rest := by
  rw [findAll, findAll, kept?]
  cases h : pattern.match? line with
  | some found =>
    rw [h] at same
    rw [scan_of_match same (positive h),
      scan_rest_of_line single (size_le_length h) (Or.inr (positive h))]
    rfl
  | none => exact scan_of_no_match single (same.trans h)

theorem findAll_eq_of_lines
    (positive : ∀ {chars found}, pattern.match? chars = some found → 0 < found.size)
    (further : ∀ line rest, '\n' ∉ line →
      pattern.findAll (line ++ '\n' :: rest) = (pattern.kept? line).toList ++ pattern.findAll rest)
    (chars : List Char) : pattern.findAll chars = (splitLines chars).filterMap pattern.kept? := by
  induction chars using lines_induction with
  | last line single =>
    rw [findAll_last_line positive single, splitLines_of_newline_notMem single, List.filterMap_cons]
    cases pattern.kept? line <;> rfl
  | further line rest single ih =>
    rw [further line rest single, ih, splitLines_append, List.filterMap_append,
      splitLines_of_newline_notMem single, List.filterMap_cons]
    cases pattern.kept? line <;> rfl

/-- A pattern that stays on its line finds in a text what it finds on its lines. -/
theorem findAll_eq_filterMap_splitLines {c : Char} {text : List Char} {parts : Pattern}
    (inLine : ∀ part ∈ .literal (c :: text) :: parts, PatternPart.StaysOnLine part)
    (chars : List Char) :
    findAll (.literal (c :: text) :: parts) chars =
      (splitLines chars).filterMap (kept? (.literal (c :: text) :: parts)) :=
  findAll_eq_of_lines size_pos_of_literal
    (fun _ _ single => findAll_line size_pos_of_literal single (match?_append_newline inLine _ _)) chars

section Indented

variable {c : Char} {text : List Char} {parts : Pattern}

theorem match?_literal_of_head_ne {d : Char} (other : c ≠ d) (rest : List Char) :
    match? (.literal (c :: text) :: parts) (d :: rest) = none := by
  rw [match?_literal, after?, if_neg other]
  rfl

theorem match?_indented (solid : isBlank c = false) (chars : List Char) :
    match? (.run isBlank :: .literal (c :: text) :: parts) chars =
      (match? (.literal (c :: text) :: parts) (trimStart chars)).map
        (·.after (chars.takeWhile isBlank).length) := by
  have fails : ∀ d rest, isBlank d = true →
      match? (.literal (c :: text) :: parts) (d :: rest) = none := by
    intro d rest blank
    apply match?_literal_of_head_ne
    intro same
    rw [same, blank] at solid
    cases solid
  rw [match?_run, greedy_eq_dropWhile fails, Option.map_map]
  rfl

/-- A blank line in front is taken in by the match after it. -/
theorem match?_indented_of_blank (solid : isBlank c = false) {line : List Char}
    (blank : allBlank line = true) (rest : List Char) :
    match? (.run isBlank :: .literal (c :: text) :: parts) (line ++ '\n' :: rest) =
      (match? (.run isBlank :: .literal (c :: text) :: parts) rest).map
        (·.after (line.length + 1)) := by
  have all : ∀ d ∈ line, isBlank d = true := List.all_eq_true.1 blank
  have dropped : trimStart (line ++ '\n' :: rest) = trimStart rest := by
    rw [trimStart, List.dropWhile_append_of_pos all, List.dropWhile_cons_of_pos isBlank_newline]
    rfl
  have taken : (line ++ '\n' :: rest).takeWhile isBlank = line ++ '\n' :: rest.takeWhile isBlank := by
    rw [List.takeWhile_append_of_pos all, List.takeWhile_cons_of_pos isBlank_newline]
  rw [match?_indented solid, match?_indented solid, dropped, taken, Option.map_map]
  congr 1
  funext found
  simp only [Match.after, Function.comp_apply, List.length_append, List.length_cons, Match.mk.injEq,
    and_true]
  omega

theorem match?_indented_of_not_blank (solid : isBlank c = false)
    (inLine : ∀ part ∈ .literal (c :: text) :: parts, PatternPart.StaysOnLine part)
    {line : List Char} (solidLine : allBlank line = false) (rest : List Char) :
    match? (.run isBlank :: .literal (c :: text) :: parts) (line ++ '\n' :: rest) =
      match? (.run isBlank :: .literal (c :: text) :: parts) line := by
  have left : line.dropWhile isBlank ≠ [] := by
    intro empty
    rw [allBlank, List.all_eq_true.2 (List.dropWhile_eq_nil_iff.1 empty)] at solidLine
    cases solidLine
  have dropped : trimStart (line ++ '\n' :: rest) = trimStart line ++ '\n' :: rest := by
    rw [trimStart, List.dropWhile_append, if_neg (mt List.isEmpty_iff.1 left)]
    rfl
  have taken : (line ++ '\n' :: rest).takeWhile isBlank = line.takeWhile isBlank := by
    rw [List.takeWhile_append, if_neg]
    intro whole
    have lengths := congrArg List.length (List.takeWhile_append_dropWhile (p := isBlank) (l := line))
    rw [List.length_append, whole] at lengths
    exact left (List.length_eq_zero_iff.1 (by omega))
  rw [match?_indented solid, match?_indented solid, dropped, taken, match?_append_newline inLine]

/-- The same of a pattern that starts with blanks, line feeds included. -/
theorem findAll_indented_eq_filterMap_splitLines (solid : isBlank c = false)
    (inLine : ∀ part ∈ .literal (c :: text) :: parts, PatternPart.StaysOnLine part)
    (chars : List Char) :
    findAll (.run isBlank :: .literal (c :: text) :: parts) chars =
      (splitLines chars).filterMap (kept? (.run isBlank :: .literal (c :: text) :: parts)) := by
  refine findAll_eq_of_lines size_pos_of_run (fun line rest single => ?_) chars
  cases blank : allBlank line with
  | false =>
    exact findAll_line size_pos_of_run single (match?_indented_of_not_blank solid inLine blank rest)
  | true =>
    have nothing : kept? (.run isBlank :: .literal (c :: text) :: parts) line = none := by
      rw [kept?, match?_indented solid, trimStart, List.dropWhile_eq_nil_iff.2 (List.all_eq_true.1 blank)]
      rfl
    have shifted : match? (.run isBlank :: .literal (c :: text) :: parts) (line ++ '\n' :: rest) = _ :=
      match?_indented_of_blank solid blank rest
    rw [nothing, Option.toList_none, List.nil_append]
    cases h : match? (.run isBlank :: .literal (c :: text) :: parts) rest with
    | none =>
      rw [h] at shifted
      exact scan_of_no_match single shifted
    | some found =>
      rw [h] at shifted
      rw [findAll, findAll, scan_of_match shifted (size_pos_of_run shifted),
        scan_of_match h (size_pos_of_run h)]
      exact congrArg _ (scan_covered_line line rest true found.size)

end Indented

end Pattern

end AssemblyInfo.Text

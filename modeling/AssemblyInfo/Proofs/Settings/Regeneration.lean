import AssemblyInfo.Proofs.Settings.RoundTrip

/-!
# Regenerating what was read

Whatever a source text declares for a field with a text, malformed declarations included, holds no line
feed and is not blank. So settings made of what was read give a source text that declares it again.
-/

namespace AssemblyInfo
open Text Model

/-- `ofResult result` is the settings with the texts of `result`, and nothing else. -/
def Settings.ofResult (result : ParseResult) : Settings where
  value field := if field.isFlag then .null else .ofText? (result.value field)

/-! ### What can be read -/

theorem declaredOn?_readable {dialect : Dialect} {form : ArgumentForm} {name line : List Char} {text : String}
    (read : declaredOn? dialect form name line = some text) :
    text.toList ⊆ line ∧ allBlank text.toList = false := by
  unfold declaredOn? at read
  obtain ⟨kept, found, argument⟩ := Option.bind_eq_some_iff.1 read
  unfold argumentOf? at argument
  split at argument
  · rename_i chars
    split at argument
    · cases argument
    · rename_i solid
      obtain rfl := Option.some.inj argument
      rw [String.toList_ofList]
      exact ⟨Pattern.subset_of_mem_kept? found List.mem_cons_self, Bool.eq_false_iff.2 solid⟩
  · cases argument

/-- A value that was read, or is the default, holds no line feed and is not blank. -/
theorem ParseResult.value_readable {dialect : Dialect} {source : String} {field : Field} {text : String}
    (read : (ofText dialect source).value field = some text) :
    '\n' ∉ text.toList ∧ allBlank text.toList = false := by
  change (field.declarations dialect source.toList).head?.or field.default = some text at read
  rw [declarations_eq_filterMap, Option.or_eq_some_iff] at read
  rcases read with declared | ⟨_, byDefault⟩
  · obtain ⟨line, member, found⟩ := List.mem_filterMap.1 (List.mem_of_mem_head? declared)
    obtain ⟨within, solid⟩ := declaredOn?_readable found
    exact ⟨fun newline => newline_notMem_of_mem_splitLines member (within newline), solid⟩
  · unfold Field.default at byDefault
    split at byDefault
    · obtain rfl := Option.some.inj byDefault
      decide
    · cases byDefault

namespace Settings

variable (dialect : Dialect) (source : String)

theorem isTyped_ofResult (result : ParseResult) : (ofResult result).IsTyped where
  texts := by
    intro field plain
    unfold ofResult
    simp only [plain]
    cases result.value field <;> rfl
  flags := by
    intro field flag
    unfold ofResult
    simp only [flag]
    rfl
  internals := rfl

theorem isOneLine_ofResult : (ofResult (ParseResult.ofText dialect source)).IsOneLine where
  texts := by
    intro field text held
    unfold ofResult at held
    simp only at held
    split at held
    · cases held
    · cases read : (ParseResult.ofText dialect source).value field with
      | none =>
        rw [read] at held
        cases held
      | some known =>
        rw [read] at held
        obtain rfl : known = text := Option.some.inj held
        exact (ParseResult.value_readable read).1
  internals := by
    intro name member
    cases member
  customs := by
    intro custom member
    cases member
  metadata := by
    intro metadata member
    cases member

theorem declaredValue_ofResult {field : Field} (plain : field.isFlag = false) :
    (ofResult (ParseResult.ofText dialect source)).declaredValue field =
      (ParseResult.ofText dialect source).value field := by
  unfold declaredValue ofResult
  simp only [plain, Bool.false_eq_true, if_false]
  cases read : (ParseResult.ofText dialect source).value field with
  | none => rfl
  | some text =>
    have solid := (ParseResult.value_readable read).2
    simp only [Value.ofText?, Value.now, solid, Bool.false_eq_true, if_false]

/-- The source text of what was read from a text declares the same texts as that text. -/
theorem ofText_render_ofResult :
    ∃ text, render (ofResult (ParseResult.ofText dialect source)) dialect = .ok text ∧
      ∀ field : Field, field.isFlag = false →
        (ParseResult.ofText dialect text).value field = (ParseResult.ofText dialect source).value field := by
  have typed := isTyped_ofResult (ParseResult.ofText dialect source)
  have oneLine := isOneLine_ofResult dialect source
  have foreign : (ofResult (ParseResult.ofText dialect source)).HasForeignNames := by
    intro custom member
    cases member
  have serialisable : (ofResult (ParseResult.ofText dialect source)).IsSerialisable := by
    intro custom member
    cases member
  refine ⟨_, render_eq typed serialisable dialect, ?_⟩
  intro field plain
  rw [ofText_eq_readBack typed oneLine foreign]
  change ((ofResult (ParseResult.ofText dialect source)).declaredValue field).or field.default = _
  rw [declaredValue_ofResult dialect source plain]
  -- A field without a declaration has its default already.
  change ((field.declarations dialect source.toList).head?.or field.default).or field.default =
    (field.declarations dialect source.toList).head?.or field.default
  rw [Option.or_assoc, Option.or_self]

end Settings

end AssemblyInfo

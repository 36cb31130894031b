import AssemblyInfo.Proofs.Outcome
import AssemblyInfo.Yaml.Document
import Mathlib.Data.List.TakeWhile

/-!
# Texts without content

A text whose lines are all blank or comments writes no document: its value is null.
-/

namespace AssemblyInfo.Yaml

/-- `isRemark line` says that nothing stands on `line` after its spaces, or a comment. -/
def isRemark (line : List Char) : Bool :=
  (line.dropWhile (· = ' ')).head?.all (· = '#')

/-- `unmarked text` is `text` without a byte order mark at its start. -/
def unmarked (text : List Char) : List Char :=
  if text.head? = some '\uFEFF' then text.tail else text

/-- `areRemarks text` says that each line of `text` is blank or a comment. -/
def areRemarks (text : List Char) : Bool :=
  (text.splitOnP isBreak).all isRemark

/-- `isCommentary text` says that each line of `text` is blank or a comment, after a byte order mark if there
is one. -/
def isCommentary (text : List Char) : Bool :=
  areRemarks (unmarked text)

/-! ### Lines -/

section Lines

variable {text : List Char}

theorem line_of_spaces (text : List Char) :
    (text.takeWhile fun c => !isBreak c).dropWhile (· = ' ') =
      (text.dropWhile (· = ' ')).takeWhile fun c => !isBreak c := by
  induction text with
  | nil => rfl
  | cons c rest ih =>
    by_cases space : c = ' '
    · subst space
      exact ih
    · rw [List.dropWhile_cons_of_neg (by simpa using space), List.takeWhile_cons]
      split
      · exact List.dropWhile_cons_of_neg (by simpa using space)
      · rfl

theorem lineEnd_of_spaces (text : List Char) :
    (text.dropWhile (· = ' ')).dropWhile (fun c => !isBreak c) = text.dropWhile fun c => !isBreak c := by
  induction text with
  | nil => rfl
  | cons c rest ih =>
    by_cases space : c = ' '
    · subst space
      exact ih
    · rw [List.dropWhile_cons_of_neg (by simpa using space)]

/-- After the spaces of a remark comes a comment or the end of the line. -/
theorem lineEnd_of_isRemark (remark : isRemark (text.takeWhile fun c => !isBreak c) = true)
    (noComment : (text.dropWhile (· = ' ')).head? ≠ some '#') :
    text.dropWhile (· = ' ') = text.dropWhile fun c => !isBreak c := by
  rw [isRemark, line_of_spaces] at remark
  rw [← lineEnd_of_spaces]
  generalize text.dropWhile (· = ' ') = after at remark noComment ⊢
  cases after with
  | nil => rfl
  | cons c rest =>
    cases ends : isBreak c with
    | true => rw [List.dropWhile_cons_of_neg (by rw [ends]; decide)]
    | false =>
      rw [List.takeWhile_cons_of_pos (by rw [ends]; rfl)] at remark
      exact absurd (congrArg some (of_decide_eq_true remark)) noComment

theorem areRemarks_of_lineEnd {c : Char} {rest : List Char}
    (lineEnd : (text.dropWhile fun c => !isBreak c) = c :: rest) :
    isBreak c = true ∧
      areRemarks text = (isRemark (text.takeWhile fun c => !isBreak c) && areRemarks rest) := by
  have ends : isBreak c = true := by
    have head := List.head?_dropWhile_not (fun c => !isBreak c) text
    rw [lineEnd] at head
    simpa using head
  have line : ∀ c ∈ text.takeWhile fun c => !isBreak c, isBreak c = false := by
    intro c member
    simpa using List.mem_takeWhile_imp member
  refine ⟨ends, ?_⟩
  have lines := List.splitOnP_append_cons (text.takeWhile fun c => !isBreak c) rest ends
  rw [← lineEnd, List.takeWhile_append_dropWhile, List.splitOnP_eq_singleton line] at lines
  rw [areRemarks, lines]
  rfl

theorem isRemark_of_areRemarks (remarks : areRemarks text = true) :
    isRemark (text.takeWhile fun c => !isBreak c) = true := by
  cases lineEnd : text.dropWhile fun c => !isBreak c with
  | nil =>
    rw [List.dropWhile_eq_nil_iff] at lineEnd
    have whole : ∀ c ∈ text, isBreak c = false := by
      intro c member
      simpa using lineEnd c member
    rw [areRemarks, List.splitOnP_eq_singleton whole] at remarks
    rw [List.takeWhile_eq_self_iff.2 lineEnd]
    simpa using remarks
  | cons c rest =>
    rw [(areRemarks_of_lineEnd lineEnd).2, Bool.and_eq_true] at remarks
    exact remarks.1

end Lines

/-! ### Cursors -/

namespace Cursor

theorem rest_next (cursor : Cursor) : cursor.next.rest = cursor.rest.tail := by
  unfold next
  split
  · rename_i ended
    rw [ended]
    rfl
  · rename_i c rest here
    rw [here]
    split
    · rfl
    · split <;> rfl

theorem limit_next (cursor : Cursor) : cursor.next.limit = cursor.limit := by
  unfold next
  split
  · rfl
  · split
    · rfl
    · split <;> rfl

theorem rest_forward (cursor : Cursor) (n : Nat) : (cursor.forward n).rest = cursor.rest.drop n := by
  induction n generalizing cursor with
  | zero => rfl
  | succ n ih => rw [forward, ih, rest_next, List.drop_tail]

/-- The place after the characters with `p` that come next. -/
def past (cursor : Cursor) (p : Char → Bool) : Cursor :=
  cursor.forward (cursor.rest.takeWhile p).length

theorem rest_past (cursor : Cursor) (p : Char → Bool) : (cursor.past p).rest = cursor.rest.dropWhile p := by
  have parts : (cursor.rest.takeWhile p ++ cursor.rest.dropWhile p).drop (cursor.rest.takeWhile p).length =
      cursor.rest.dropWhile p := List.drop_left
  rw [past, rest_forward]
  rwa [List.takeWhile_append_dropWhile] at parts

end Cursor

/-! ### Reading -/

theorem run_comment {cursor : Cursor} (remark : isRemark (cursor.rest.takeWhile fun c => !isBreak c) = true) :
    ∃ next, Scan.comment.run cursor = .ok ((), next) ∧
      next.rest = cursor.rest.dropWhile fun c => !isBreak c := by
  have run : Scan.comment.run cursor =
      (if (cursor.past (· = ' ')).rest.head? = some '#' then (do let _ ← Scan.toLineEnd)
        else pure () : Scan Unit).run (cursor.past (· = ' ')) := rfl
  rw [run]
  split
  · refine ⟨_, rfl, ?_⟩
    rw [← lineEnd_of_spaces, ← Cursor.rest_past cursor]
    exact Cursor.rest_past _ _
  · rename_i noComment
    rw [Cursor.rest_past] at noComment
    exact ⟨_, rfl, by rw [Cursor.rest_past, lineEnd_of_isRemark remark noComment]⟩

theorem run_lineBreak_of_nil {cursor : Cursor} (ended : cursor.rest = []) :
    Scan.lineBreak?.run cursor = .ok (none, cursor) := by
  obtain ⟨rest, limit, index, line, column⟩ := cursor
  obtain rfl : rest = [] := ended
  rfl

theorem run_lineBreak_of_cons {cursor : Cursor} {c : Char} {rest : List Char} (here : cursor.rest = c :: rest)
    (ends : isBreak c = true) :
    ∃ found, Scan.lineBreak?.run cursor = .ok (some found, cursor.forward 1) := by
  obtain ⟨chars, limit, index, line, column⟩ := cursor
  obtain rfl : chars = c :: rest := here
  have run : Scan.lineBreak?.run ⟨c :: rest, limit, index, line, column⟩ =
      (if isBreak c then (do Scan.skip 1; return some (if c = '\u0085' then '\n' else c)) else return none :
        Scan (Option Char)).run ⟨c :: rest, limit, index, line, column⟩ := rfl
  rw [run, if_pos ends]
  exact ⟨_, rfl⟩

/-- A text of remarks is passed over up to its end, in as many steps as it has lines. -/
theorem run_toNextToken {steps : Nat} {cursor : Cursor} (enough : cursor.rest.length < steps)
    (remarks : areRemarks cursor.rest = true) :
    ∃ endsLine next, (Lexer.toNextToken steps).run cursor = .ok (endsLine, next) ∧ next.rest = [] := by
  induction steps generalizing cursor with
  | zero => exact absurd enough (Nat.not_lt_zero _)
  | succ steps ih =>
    -- A remark leads to the end of its line; what comes after the line break has a line less.
    obtain ⟨past, passed, here⟩ := run_comment (isRemark_of_areRemarks remarks)
    change ∃ endsLine next, (Scan.comment.run cursor >>= _) = _ ∧ _
    rw [passed, ok_bind]
    change ∃ endsLine next, (Scan.lineBreak?.run past >>= _) = _ ∧ _
    cases lineEnd : cursor.rest.dropWhile fun c => !isBreak c with
    | nil =>
      rw [lineEnd] at here
      rw [run_lineBreak_of_nil here]
      exact ⟨false, past, rfl, here⟩
    | cons c rest =>
      obtain ⟨ends, lines⟩ := areRemarks_of_lineEnd lineEnd
      rw [lines, Bool.and_eq_true] at remarks
      rw [lineEnd] at here
      obtain ⟨found, broken⟩ := run_lineBreak_of_cons here ends
      have later : (past.forward 1).rest = rest := by
        rw [Cursor.rest_forward, here]
        rfl
      have fewer : (past.forward 1).rest.length < steps := by
        have least := List.length_dropWhile_le (p := fun c => !isBreak c) cursor.rest
        rw [lineEnd, List.length_cons] at least
        rw [later]
        omega
      obtain ⟨endsLine, next, onward, ended⟩ := ih fewer (by rw [later]; exact remarks.2)
      refine ⟨true, next, ?_, ended⟩
      rw [broken, ok_bind]
      change ((Lexer.toNextToken steps).run (past.forward 1) >>= _) = _
      rw [onward]
      rfl

theorem length_unmarked_le (text : List Char) : (unmarked text).length ≤ text.length := by
  unfold unmarked
  split
  · exact text.length_tail ▸ Nat.sub_le _ 1
  · exact Nat.le_refl _

theorem run_skipMark (text : List Char) :
    ∃ next, Lexer.skipMark.run (.start text) = .ok ((), next) ∧ next.rest = unmarked text ∧
      next.limit = text.length := by
  have run : Lexer.skipMark.run (.start text) =
      (if 0 = 0 && decide (text.head? = some '\uFEFF') then Scan.skip 1 else pure () : Scan Unit).run
        (.start text) := rfl
  simp only [run, unmarked, decide_true, Bool.true_and, decide_eq_true_eq]
  split
  · exact ⟨_, rfl, Cursor.rest_next _, Cursor.limit_next _⟩
  · exact ⟨_, rfl, rfl, rfl⟩

/-- Nothing but the end of the text comes after its remarks. -/
theorem step_of_isCommentary {text : List Char} (commentary : isCommentary text = true) :
    ∃ last, ({ cursor := .start text } : Lexer).step = .ok last ∧ last.isDone = true ∧ last.tokens = [] := by
  obtain ⟨start, marked, rest, limit⟩ := run_skipMark text
  have enough : start.rest.length < start.limit + 1 := by
    rw [rest, limit]
    exact Nat.lt_succ_of_le (length_unmarked_le text)
  obtain ⟨endsLine, cursor, passed, ended⟩ := run_toNextToken enough (by rw [rest]; exact commentary)
  have scanned : ({ cursor := .start text } : Lexer).scan (do
      Lexer.skipMark
      Lexer.toNextToken (← Scan.bound)) = .ok (endsLine, { cursor }) := by
    change ((Lexer.skipMark.run (.start text) >>= fun marked =>
      (Lexer.toNextToken (marked.2.limit + 1)).run marked.2) >>= _) = _
    rw [marked, ok_bind, passed]
    rfl
  have advanced : ∃ allowsKey, ({ cursor := .start text } : Lexer).advance = .ok { cursor, allowsKey } := by
    rw [Lexer.advance, scanned, ok_bind]
    cases endsLine <;> exact ⟨_, rfl⟩
  obtain ⟨allowsKey, advanced⟩ := advanced
  rw [Lexer.step, advanced, ok_bind]
  dsimp only
  rw [ended]
  exact ⟨_, rfl, rfl, rfl⟩

theorem ofChars_of_isCommentary {text : List Char} (commentary : isCommentary text = true) :
    Token.ofChars text = [] := by
  obtain ⟨last, step, done, noTokens⟩ := step_of_isCommentary commentary
  rw [Token.ofChars, Lexer.run, step]
  dsimp only
  rw [if_pos done, noTokens]
  rfl

/-- A text of blank lines and comments has the value null, unless a character in it cannot be printed. -/
theorem load_of_isCommentary (free : Nat) {text : List Char} (commentary : isCommentary text = true) :
    load free text = if text.all isPrintable then .ok .null else .error (.malformed .unprintable) := by
  unfold load
  rw [ofChars_of_isCommentary commentary]
  cases text.all isPrintable <;> rfl

end AssemblyInfo.Yaml

/-!
# Lines

A text is a list of lines with a line feed between each two. Splitting loses nothing, and no line
holds a line feed.
-/

namespace AssemblyInfo.Text

/-- `splitLines chars` is the list of the lines of `chars`; it has one more line than `chars` has
line feeds. -/
def splitLines : List Char → List (List Char)
  | [] => [[]]
  | c :: rest =>
    if c = '\n' then [] :: splitLines rest
    else
      match splitLines rest with
      | [] => [[c]]
      | line :: lines => (c :: line) :: lines

def joinLines : List (List Char) → List Char
  | [] => []
  | [line] => line
  | line :: lines => line ++ '\n' :: joinLines lines

/-- `unifyBreaks chars` writes every line break of `chars` as a line feed: a carriage return counts
as a break, together with a line feed right after it. -/
def unifyBreaks : List Char → List Char
  | [] => []
  | '\r' :: '\n' :: rest => '\n' :: unifyBreaks rest
  | c :: rest => (if c = '\r' then '\n' else c) :: unifyBreaks rest

theorem splitLines_ne_nil (chars : List Char) : splitLines chars ≠ [] := by
  cases chars with
  | nil => simp [splitLines]
  | cons c rest =>
    rw [splitLines]
    split
    · simp
    · split <;> simp

theorem splitLines_newline (rest : List Char) : splitLines ('\n' :: rest) = [] :: splitLines rest := by
  simp [splitLines]

theorem joinLines_splitLines (chars : List Char) : joinLines (splitLines chars) = chars := by
  induction chars with
  | nil => rfl
  | cons c rest ih =>
    rw [splitLines]
    split
    · rename_i h
      cases found : splitLines rest with
      | nil => exact (splitLines_ne_nil rest found).elim
      | cons line lines => rw [joinLines, ← found, ih, h]; rfl; simp
    · cases found : splitLines rest with
      | nil => exact (splitLines_ne_nil rest found).elim
      | cons line lines =>
        rw [found] at ih
        cases lines with
        | nil => simpa [joinLines] using ih
        | cons next others => simpa [joinLines] using ih

end AssemblyInfo.Text

import AssemblyInfo.Yaml.Token.Quoted

/-!
# Block scalars

A scalar of indented lines. Its head says whether lines are folded, how deep they are indented, and
what becomes of the line breaks at the end.
-/

namespace AssemblyInfo.Yaml

/-- What becomes of the line breaks at the end of a block scalar. -/
inductive Chomping where
  /-- One break is kept. -/
  | clip
  /-- No break is kept. -/
  | strip
  /-- All breaks are kept. -/
  | keep
  deriving DecidableEq, Repr

namespace Scan

def chomping? : Scan (Option Chomping) := do
  match ← peek with
  | some '+' => skip 1; return some .keep
  | some '-' => skip 1; return some .strip
  | _ => return none

/-- `increment?` reads the indicator for the indentation, which is not zero. -/
def increment? : Scan (Option Nat) := do
  match ← peek with
  | some c =>
    if c = '0' then fail .badBlockHead
    else if c.isDigit then skip 1; return some (c.toNat - 0x30)
    else return none
  | none => return none

/-- `blockHead` reads the indicators of a block scalar, in either order. -/
def blockHead : Scan (Chomping × Option Nat) := do
  let head ←
    match ← chomping? with
    | some chomping => pure (chomping, ← increment?)
    | none =>
      match ← increment? with
      | some increment => pure ((← chomping?).getD .clip, some increment)
      | none => pure (.clip, none)
  if startsWithEnd (← rest) then return head else fail .badBlockHead

/-- `leadingBreaks deepest steps` reads blank lines before the first line, and the deepest of their
indentations and its own. -/
def leadingBreaks (deepest : Nat) : Nat → Scan (List Char × Nat)
  | 0 => return ([], deepest)
  | steps + 1 => do
    dropWhile (· = ' ')
    let deepest := max deepest (← get).column
    match ← lineBreak? with
    | some c =>
      let (blank, deepest) ← leadingBreaks deepest steps
      return (c :: blank, deepest)
    | none => return ([], deepest)

/-- `indentTo indent` passes over spaces up to the column `indent`. -/
def indentTo (indent : Nat) : Scan Unit := do
  let cursor ← get
  let spaces := cursor.rest.takeWhile (· = ' ')
  skip (min spaces.length (indent - cursor.column))

/-- `blockBreaks indent steps` reads blank lines and the indentation after them. -/
def blockBreaks (indent : Nat) : Nat → Scan (List Char)
  | 0 => return []
  | steps + 1 => do
    indentTo indent
    match ← lineBreak? with
    | some c => return c :: (← blockBreaks indent steps)
    | none => return []

/-- The lines of a block scalar: their text, the last line break, and the blank lines after it. -/
structure BlockLines where
  chars : List Char
  lastBreak : List Char
  trailing : List Char

def isOnLine (indent : Nat) : Scan Bool := do
  let cursor ← get
  return cursor.column = indent && !cursor.rest.isEmpty

def startsWithSpace (chars : List Char) : Bool :=
  match chars with
  | c :: _ => isSpace c
  | [] => false

/-- `blockLines isFolded indent blank steps` reads lines after the blank lines `blank`. Folding
joins two lines with a space, unless one of them starts with a space. -/
def blockLines (isFolded : Bool) (indent : Nat) (blank : List Char) : Nat → Scan BlockLines
  | 0 => return ⟨[], [], blank⟩
  | steps + 1 => do
    let isText := !startsWithSpace (← rest)
    let line ← toLineEnd
    let lastBreak := (← lineBreak?).toList
    let next ← blockBreaks indent (← bound)
    if ← isOnLine indent then
      let isJoined := isFolded && lastBreak == ['\n'] && isText && !startsWithSpace (← rest)
      let between := if !isJoined then lastBreak else if next.isEmpty then [' '] else []
      let more ← blockLines isFolded indent next steps
      return { more with chars := blank ++ line ++ between ++ more.chars }
    else return ⟨blank ++ line, lastBreak, next⟩

def blockScalar (isFolded : Bool) (parentIndent : Int) : Scan String := do
  skip 1
  let (chomping, increment) ← blockHead
  endLine .badBlockHead
  let least := max 1 (parentIndent + 1).toNat
  let (blank, indent) ←
    match increment with
    | some increment =>
      let indent := least + increment - 1
      pure (← blockBreaks indent (← bound), indent)
    | none =>
      let (blank, deepest) ← leadingBreaks 0 (← bound)
      pure (blank, max least deepest)
  let lines ←
    if ← isOnLine indent then blockLines isFolded indent blank (← bound)
    else pure ⟨[], [], blank⟩
  let ending :=
    match chomping with
    | .clip => lines.lastBreak
    | .strip => []
    | .keep => lines.lastBreak ++ lines.trailing
  return String.ofList (lines.chars ++ ending)

end Scan

end AssemblyInfo.Yaml

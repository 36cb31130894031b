import AssemblyInfo.Yaml.Problem

/-!
# Cursors

A place in a text whose line breaks are line feeds: the characters from there on, with index, line
and column. Reading moves the cursor forward.
-/

namespace AssemblyInfo.Yaml

def isBreak (c : Char) : Bool :=
  c = '\n' || c = '\u0085' || c = '\u2028' || c = '\u2029'

def isSpace (c : Char) : Bool :=
  c = ' ' || c = '\t'

def isGap (c : Char) : Bool :=
  isSpace c || isBreak c

def startsWithGap (chars : List Char) : Bool :=
  match chars with
  | [] => true
  | c :: _ => isGap c

/-- `startsWithEnd chars` says that a space, a line break or the end comes next. -/
def startsWithEnd (chars : List Char) : Bool :=
  match chars with
  | [] => true
  | c :: _ => c = ' ' || isBreak c

/-- `isNameChar c` says that `c` belongs to the name of an anchor, a handle or a directive. -/
def isNameChar (c : Char) : Bool :=
  c.isAlphanum || c = '-' || c = '_'

/-- `isPrintable c` says that `c` may stand in a text. -/
def isPrintable (c : Char) : Bool :=
  let n := c.toNat
  n = 0x9 || n = 0xA || n = 0xD || (0x20 ≤ n && n ≤ 0x7E) || n = 0x85 ||
    (0xA0 ≤ n && n ≤ 0xD7FF) || (0xE000 ≤ n && n ≤ 0xFFFD) || 0x10000 ≤ n

/-- A place in a text. -/
structure Cursor where
  rest : List Char
  /-- A number that the number of characters to come does not exceed. -/
  limit : Nat
  index : Nat := 0
  line : Nat := 0
  column : Nat := 0
  deriving DecidableEq, Repr

namespace Cursor

/-- `start text` is the place before the first character of `text`. -/
def start (text : List Char) : Cursor :=
  { rest := text, limit := text.length }

/-- `cursor.next` is the place one character further. A byte order mark takes no column. -/
def next (cursor : Cursor) : Cursor :=
  match cursor.rest with
  | [] => cursor
  | c :: rest =>
    if isBreak c then
      { cursor with rest, index := cursor.index + 1, line := cursor.line + 1, column := 0 }
    else if c = '\uFEFF' then { cursor with rest, index := cursor.index + 1 }
    else { cursor with rest, index := cursor.index + 1, column := cursor.column + 1 }

def forward (cursor : Cursor) : Nat → Cursor
  | 0 => cursor
  | n + 1 => cursor.next.forward n

def atSeparator (cursor : Cursor) : Bool :=
  match cursor.rest with
  | '-' :: '-' :: '-' :: rest => startsWithGap rest
  | '.' :: '.' :: '.' :: rest => startsWithGap rest
  | _ => false

end Cursor

/-- A reading that moves a cursor. -/
abbrev Scan := StateT Cursor (Except Problem)

namespace Scan

/-- `fail cause` stops: the text is malformed. -/
def fail {α : Type} (cause : Cause) : Scan α :=
  throw (.malformed cause)

def rest : Scan (List Char) := do
  return (← get).rest

def peek : Scan (Option Char) := do
  return (← get).rest.head?

def skip (n : Nat) : Scan Unit :=
  modify fun cursor => cursor.forward n

/-- `takeWhile p` reads the characters up to the first without `p`. -/
def takeWhile (p : Char → Bool) : Scan (List Char) := do
  let taken := (← rest).takeWhile p
  skip taken.length
  return taken

/-- `dropWhile p` passes over the characters up to the first without `p`. -/
def dropWhile (p : Char → Bool) : Scan Unit := do
  let _ ← takeWhile p

def toLineEnd : Scan (List Char) :=
  takeWhile fun c => !isBreak c

/-- `lineBreak?` reads a line break, if one comes next. All breaks but the Unicode separators are
read as line feeds. -/
def lineBreak? : Scan (Option Char) := do
  match ← peek with
  | some c =>
    if isBreak c then
      skip 1
      return some (if c = '\u0085' then '\n' else c)
    else return none
  | none => return none

/-- `comment` passes over spaces and a comment after them, up to the end of the line. -/
def comment : Scan Unit := do
  dropWhile (· = ' ')
  if (← peek) = some '#' then
    let _ ← toLineEnd

/-- `endLine cause` passes over spaces, a comment and the line break after them; nothing else may
stand on the line. -/
def endLine (cause : Cause) : Scan Unit := do
  comment
  match ← peek with
  | none => return
  | some c =>
    if isBreak c then
      let _ ← lineBreak?
    else fail cause

/-- `bound` is a number of steps that no loop over the characters to come exceeds. -/
def bound : Scan Nat := do
  return (← get).limit + 1

end Scan

end AssemblyInfo.Yaml

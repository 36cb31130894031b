/-!
# Patterns

A pattern is a list of parts and is looked for where a line starts. Each part takes as many characters
as it can, and gives some of them back only if the parts after it find nothing otherwise. The next
match is looked for after the end of the last one.
-/

namespace AssemblyInfo.Text

def after? : List Char → List Char → Option (List Char)
  | [], chars => some chars
  | c :: start, d :: chars => if c = d then after? start chars else none
  | _ :: _, [] => none

/-- A part of a pattern. -/
inductive PatternPart where
  /-- A fixed text. -/
  | literal (chars : List Char)
  /-- A fixed text that may be missing. -/
  | optional (chars : List Char)
  /-- A run of characters of a class. -/
  | run (holds : Char → Bool)
  /-- A run of characters of a class, which is kept. -/
  | group (holds : Char → Bool)

/-- A list of parts, matched one after the other. -/
abbrev Pattern := List PatternPart

/-- What a pattern matches: the number of characters, and the runs that are kept. -/
structure Match where
  size : Nat
  groups : List (List Char)
  deriving DecidableEq, Repr

/-- `found.after size` is `found` after `size` more characters. -/
def Match.after (found : Match) (size : Nat) : Match :=
  { found with size := size + found.size }

/-- `found.afterGroup kept` is `found` after the run `kept`. -/
def Match.afterGroup (found : Match) (kept : List Char) : Match :=
  { size := kept.length + found.size, groups := kept :: found.groups }

/-- `greedy holds next chars` is the longest run of characters of the class `holds` after which `next`
finds something, and what it finds there. -/
def greedy {α : Type} (holds : Char → Bool) (next : List Char → Option α) :
    List Char → Option (List Char × α)
  | [] => (next []).map ([], ·)
  | c :: rest =>
    match if holds c then greedy holds next rest else none with
    | some (taken, found) => some (c :: taken, found)
    | none => (next (c :: rest)).map ([], ·)

namespace Pattern

/-- `pattern.match? chars` is the match of `pattern` at the head of `chars`. -/
def match? : Pattern → List Char → Option Match
  | [], _ => some ⟨0, []⟩
  | .literal text :: parts, chars =>
    (after? text chars).bind fun rest => (match? parts rest).map (·.after text.length)
  | .optional text :: parts, chars =>
    match (after? text chars).bind (match? parts) with
    | some found => some (found.after text.length)
    | none => match? parts chars
  | .run holds :: parts, chars =>
    (greedy holds (match? parts) chars).map fun (taken, found) => found.after taken.length
  | .group holds :: parts, chars =>
    (greedy holds (match? parts) chars).map fun (taken, found) => found.afterGroup taken

/-- `pattern.scan atStart covered chars` is what the matches in `chars` keep, after the first `covered`
characters, which belong to the match before; `atStart` says that `chars` starts a line. -/
def scan (pattern : Pattern) : Bool → Nat → List Char → List (List (List Char))
  | _, _, [] => []
  | _, covered + 1, c :: rest => pattern.scan (c == '\n') covered rest
  | atStart, 0, c :: rest =>
    match if atStart then pattern.match? (c :: rest) else none with
    | some found => found.groups :: pattern.scan (c == '\n') (found.size - 1) rest
    | none => pattern.scan (c == '\n') 0 rest

/-- `pattern.findAll chars` is what the matches of `pattern` in `chars` keep, from left to right. -/
def findAll (pattern : Pattern) (chars : List Char) : List (List (List Char)) :=
  pattern.scan true 0 chars

end Pattern

end AssemblyInfo.Text

import AssemblyInfo.Yaml.Token.Block
import AssemblyInfo.Yaml.Token.Name
import AssemblyInfo.Yaml.Token.Plain

/-!
# Tokens of a text

Outside flow collections the indentation decides where collections start and end. That a token is a
key shows only at the colon after it, so the tokens that may still turn out to be keys are kept in
mind: on each level of flow collections the last one, as long as it lies on the current line and not
too far back.
-/

namespace AssemblyInfo.Yaml

/-- A token that may turn out to be a key. -/
structure Candidate where
  /-- The level of flow collections. -/
  level : Nat
  /-- The number of tokens before it. -/
  position : Nat
  /-- Whether it has to be a key. -/
  isRequired : Bool
  index : Nat
  line : Nat
  column : Nat
  deriving DecidableEq, Repr

/-- The state of the reading. -/
structure Lexer where
  cursor : Cursor
  /-- The tokens read so far, last one first. -/
  tokens : List Token := []
  /-- The number of tokens read so far. -/
  count : Nat := 0
  /-- The column of the innermost block collection. -/
  indent : Int := -1
  /-- The columns of the block collections around it. -/
  outer : List Int := []
  /-- The number of open flow collections. -/
  level : Nat := 0
  /-- Whether a key may start here. -/
  allowsKey : Bool := true
  candidates : List Candidate := []
  isDone : Bool := false

namespace Lexer

def inFlow (lexer : Lexer) : Bool :=
  lexer.level != 0

def column (lexer : Lexer) : Int :=
  lexer.cursor.column

def push (lexer : Lexer) (token : Token) : Lexer :=
  { lexer with tokens := token :: lexer.tokens, count := lexer.count + 1 }

/-- `lexer.insertAt position added` adds the tokens `added` after the first `position` ones. -/
def insertAt (lexer : Lexer) (position : Nat) (added : List Token) : Lexer :=
  let later := lexer.count - position
  { lexer with
    tokens := lexer.tokens.take later ++ added.reverse ++ lexer.tokens.drop later
    count := lexer.count + added.length }

def scan {α : Type} (lexer : Lexer) (reading : Scan α) : Except Problem (α × Lexer) := do
  let (result, cursor) ← reading.run lexer.cursor
  return (result, { lexer with cursor })

def skip (lexer : Lexer) (n : Nat) : Lexer :=
  { lexer with cursor := lexer.cursor.forward n }

/-! ### Indentation -/

/-- `closeTo column indents lexer` ends the block collections that lie deeper than `column`; the
collections around them are `indents`. -/
def closeTo (column : Int) : List Int → Lexer → Lexer
  | [], lexer => lexer
  | indent :: rest, lexer =>
    if column < lexer.indent then
      closeTo column rest { lexer.push .blockEnd with indent, outer := rest }
    else lexer

def unwind (lexer : Lexer) (column : Int) : Lexer :=
  if lexer.inFlow then lexer else closeTo column lexer.outer lexer

def opens (lexer : Lexer) (column : Int) : Bool :=
  !lexer.inFlow && lexer.indent < column

/-- `lexer.deepen column` enters a block collection at `column`, if one starts there. -/
def deepen (lexer : Lexer) (column : Int) : Lexer :=
  if lexer.opens column then
    { lexer with indent := column, outer := lexer.indent :: lexer.outer }
  else lexer

/-! ### Candidates for keys -/

def isStale (cursor : Cursor) (candidate : Candidate) : Bool :=
  candidate.line != cursor.line || 1024 < cursor.index - candidate.index

/-- `lexer.forget drops` gives up the candidates that `drops` holds of; none of them may be
required. -/
def forget (lexer : Lexer) (drops : Candidate → Bool) : Except Problem Lexer :=
  if lexer.candidates.any fun candidate => drops candidate && candidate.isRequired then
    .error (.malformed .missingColon)
  else .ok { lexer with candidates := lexer.candidates.filter fun candidate => !drops candidate }

def forgetStale (lexer : Lexer) : Except Problem Lexer :=
  lexer.forget (isStale lexer.cursor)

def forgetHere (lexer : Lexer) : Except Problem Lexer :=
  lexer.forget fun candidate => candidate.level = lexer.level

def candidate? (lexer : Lexer) : Option Candidate :=
  lexer.candidates.find? fun candidate => candidate.level = lexer.level

/-- `lexer.remember` makes the next token a candidate, if a key may start here. -/
def remember (lexer : Lexer) : Except Problem Lexer := do
  if !lexer.allowsKey then return lexer
  let lexer ← lexer.forgetHere
  let candidate : Candidate :=
    { level := lexer.level
      position := lexer.count
      isRequired := !lexer.inFlow && lexer.indent = lexer.column
      index := lexer.cursor.index
      line := lexer.cursor.line
      column := lexer.cursor.column }
  return { lexer with candidates := candidate :: lexer.candidates }

/-! ### One token -/

/-- `toNextToken steps` passes over blank lines and comments, and says whether a line has ended. -/
def toNextToken : Nat → Scan Bool
  | 0 => return false
  | steps + 1 => do
    Scan.comment
    match ← Scan.lineBreak? with
    | some _ =>
      let _ ← toNextToken steps
      return true
    | none => return false

def skipMark : Scan Unit := do
  let cursor ← get
  if cursor.index = 0 && cursor.rest.head? = some '\uFEFF' then Scan.skip 1

def advance (lexer : Lexer) : Except Problem Lexer := do
  let (endsLine, lexer) ← lexer.scan (do skipMark; toNextToken (← Scan.bound))
  let lexer := if endsLine && !lexer.inFlow then { lexer with allowsKey := true } else lexer
  let lexer ← lexer.forgetStale
  return lexer.unwind lexer.column

def finish (lexer : Lexer) : Except Problem Lexer := do
  let lexer ← (lexer.unwind (-1)).forgetHere
  return { lexer with isDone := true, allowsKey := false, candidates := [] }

def topLevel (lexer : Lexer) : Except Problem Lexer := do
  let lexer ← (lexer.unwind (-1)).forgetHere
  return { lexer with allowsKey := false }

def readDirective (lexer : Lexer) : Except Problem Lexer := do
  let lexer ← lexer.topLevel
  let (directive, lexer) ← lexer.scan Scan.directive
  return lexer.push (.directive directive)

def readSeparator (lexer : Lexer) (token : Token) : Except Problem Lexer := do
  let lexer ← lexer.topLevel
  return (lexer.skip 3).push token

def openFlow (lexer : Lexer) (token : Token) : Except Problem Lexer := do
  let lexer ← lexer.remember
  return { (lexer.skip 1).push token with level := lexer.level + 1, allowsKey := true }

def closeFlow (lexer : Lexer) (token : Token) : Except Problem Lexer := do
  let lexer ← lexer.forgetHere
  if !lexer.inFlow then throw (.malformed .unopenedFlow)
  return { (lexer.skip 1).push token with level := lexer.level - 1, allowsKey := false }

def readFlowEntry (lexer : Lexer) : Except Problem Lexer := do
  let lexer ← { lexer with allowsKey := true }.forgetHere
  return (lexer.skip 1).push .flowEntry

/-- `lexer.openBlock token` enters a block collection that starts here, if one does. Within a block
collection it may start only where a key may. -/
def openBlock (lexer : Lexer) (token : Token) : Except Problem Lexer :=
  if !lexer.inFlow && !lexer.allowsKey then .error (.malformed .misplacedIndicator)
  else if lexer.opens lexer.column then .ok ((lexer.deepen lexer.column).push token)
  else .ok lexer

/-- `lexer.readBlockEntry` reads the dash before an item. -/
def readBlockEntry (lexer : Lexer) : Except Problem Lexer := do
  let lexer ← lexer.openBlock .blockSequenceStart
  let lexer ← { lexer with allowsKey := true }.forgetHere
  return (lexer.skip 1).push .blockEntry

/-- `lexer.readKey` reads the question mark before a key. -/
def readKey (lexer : Lexer) : Except Problem Lexer := do
  let lexer ← lexer.openBlock .blockMappingStart
  let lexer ← { lexer with allowsKey := !lexer.inFlow }.forgetHere
  return (lexer.skip 1).push .key

def confirm (lexer : Lexer) (candidate : Candidate) : Lexer :=
  let starts := lexer.opens candidate.column
  let added := if starts then [.blockMappingStart, .key] else [.key]
  let lexer := (lexer.deepen candidate.column).insertAt candidate.position added
  { lexer with
    candidates := lexer.candidates.filter fun other => other.level != lexer.level
    allowsKey := false }

/-- `lexer.readValue` reads the colon before a value. -/
def readValue (lexer : Lexer) : Except Problem Lexer := do
  let lexer ←
    match lexer.candidate? with
    | some candidate => pure (lexer.confirm candidate)
    | none => do
      let lexer ← lexer.openBlock .blockMappingStart
      { lexer with allowsKey := !lexer.inFlow }.forgetHere
  return (lexer.skip 1).push .value

/-- `lexer.readName reading token` reads an anchor, an alias or a tag. -/
def readName {α : Type} (lexer : Lexer) (reading : Scan α) (token : α → Token) :
    Except Problem Lexer := do
  let lexer ← lexer.remember
  let (name, lexer) ← { lexer with allowsKey := false }.scan reading
  return lexer.push (token name)

def readBlockScalar (lexer : Lexer) (isFolded : Bool) : Except Problem Lexer := do
  let lexer ← { lexer with allowsKey := true }.forgetHere
  let (text, lexer) ← lexer.scan (Scan.blockScalar isFolded lexer.indent)
  return lexer.push (.scalar text false)

def readPlain (lexer : Lexer) : Except Problem Lexer := do
  let lexer ← lexer.remember
  let ((text, endsLine), lexer) ← lexer.scan (Scan.plainScalar lexer.inFlow (lexer.indent + 1))
  return { lexer.push (.scalar text true) with allowsKey := endsLine }

/-- The characters that start no plain scalar. -/
def indicators : List Char := "-?:,[]\x7b\x7d#&*!|>'\"%@\x60".toList

def startsPlain (inFlow : Bool) (c : Char) (following : List Char) : Bool :=
  (!isGap c && !indicators.contains c) ||
    (!startsWithGap following && (c = '-' || (!inFlow && (c = '?' || c = ':'))))

/-- `lexer.isIndicator following` says that an indicator before `following` stands alone. -/
def isIndicator (lexer : Lexer) (following : List Char) : Bool :=
  lexer.inFlow || startsWithGap following

def readToken (lexer : Lexer) (c : Char) (following : List Char) : Except Problem Lexer :=
  let atMargin := lexer.cursor.column = 0
  if c = '%' && atMargin then lexer.readDirective
  else if c = '-' && atMargin && lexer.cursor.atSeparator then lexer.readSeparator .documentStart
  else if c = '.' && atMargin && lexer.cursor.atSeparator then lexer.readSeparator .documentEnd
  else if c = '[' then lexer.openFlow .flowSequenceStart
  else if c = '\x7b' then lexer.openFlow .flowMappingStart
  else if c = ']' then lexer.closeFlow .flowSequenceEnd
  else if c = '\x7d' then lexer.closeFlow .flowMappingEnd
  else if c = ',' then lexer.readFlowEntry
  else if c = '-' && startsWithGap following then lexer.readBlockEntry
  else if c = '?' && lexer.isIndicator following then lexer.readKey
  else if c = ':' && lexer.isIndicator following then lexer.readValue
  else if c = '*' then lexer.readName Scan.anchorName .alias
  else if c = '&' then lexer.readName Scan.anchorName .anchor
  else if c = '!' then lexer.readName Scan.tagName .tag
  else if c = '|' && !lexer.inFlow then lexer.readBlockScalar false
  else if c = '>' && !lexer.inFlow then lexer.readBlockScalar true
  else if c = '\'' then lexer.readName (Scan.quotedScalar false) (.scalar · false)
  else if c = '"' then lexer.readName (Scan.quotedScalar true) (.scalar · false)
  else if startsPlain lexer.inFlow c following then lexer.readPlain
  else .error (.malformed .badCharacter)

/-- `lexer.step` reads one token, with the ends of block collections before it. -/
def step (lexer : Lexer) : Except Problem Lexer := do
  let lexer ← lexer.advance
  match lexer.cursor.rest with
  | [] => lexer.finish
  | c :: following => lexer.readToken c following

/-- `lexer.settled` is the tokens before the first candidate. -/
def settled (lexer : Lexer) : List Token :=
  let fresh := lexer.candidates.filter fun candidate => !isStale lexer.cursor candidate
  let count := fresh.foldl (fun n candidate => min n candidate.position) lexer.count
  lexer.tokens.reverse.take count

/-- `lexer.run steps` reads all tokens. If the text cannot be read to its end, the tokens before
that place are followed by a stop. -/
def run : Nat → Lexer → List Token
  | 0, lexer => lexer.tokens.reverse
  | steps + 1, lexer =>
    match lexer.step with
    | .ok next => if next.isDone then next.tokens.reverse else run steps next
    | .error problem => lexer.settled ++ [.stop problem]

end Lexer

/-- `Token.ofChars text` is the tokens of `text`. -/
def Token.ofChars (text : List Char) : List Token :=
  Lexer.run (text.length + 2) { cursor := .start text }

end AssemblyInfo.Yaml

import AssemblyInfo.Decimal.Reading
import AssemblyInfo.Encoding.Utf8
import AssemblyInfo.Yaml.Cursor
import AssemblyInfo.Yaml.Token.Basic

/-!
# Anchors, tags and directives
-/

namespace AssemblyInfo.Yaml.Scan
open Text

/-- `name cause` reads a name, one character or more. -/
def name (cause : Cause) : Scan String := do
  let chars ← takeWhile isNameChar
  if chars.isEmpty then fail cause
  return String.ofList chars

/-- The characters that may follow the name of an anchor. -/
def anchorEnds : List Char := ['?', ':', ',', ']', '\x7d', '%', '@', '\x60']

/-- `anchorName` reads the name of an anchor or alias, after its indicator. -/
def anchorName : Scan String := do
  skip 1
  let name ← name .badAnchor
  match ← peek with
  | none => return name
  | some c => if isGap c || anchorEnds.contains c then return name else fail .badAnchor

def hexByte : Scan UInt8 := do
  match ← rest with
  | a :: b :: _ =>
    match hexValue? a, hexValue? b with
    | some high, some low =>
      skip 2
      return (high * 16 + low).toUInt8
    | _, _ => fail .badTag
  | _ => fail .badTag

/-- `escapedBytes steps` reads the bytes that are written after percent signs. -/
def escapedBytes : Nat → Scan (List UInt8)
  | 0 => return []
  | steps + 1 => do
    if (← peek) = some '%' then
      skip 1
      return (← hexByte) :: (← escapedBytes steps)
    else return []

/-- The characters of tags, apart from letters and digits. -/
def tagMarks : List Char := "-;/?:@&=+$,_.!~*'()[]".toList

def isTagChar (c : Char) : Bool :=
  c.isAlphanum || tagMarks.contains c

/-- `tagParts steps` reads the characters of a tag, with their escapes. -/
def tagParts : Nat → Scan (List Char)
  | 0 => return []
  | steps + 1 => do
    let plain ← takeWhile isTagChar
    if (← peek) = some '%' then
      let bytes ← escapedBytes (← bound)
      match Encoding.Utf8.decode bytes with
      | .ok chars => return plain ++ chars ++ (← tagParts steps)
      | .error _ => fail .badTag
    else return plain

/-- `tagText cause` reads the text of a tag, one character or more. -/
def tagText (cause : Cause) : Scan String := do
  let before := (← get).index
  let chars ← tagParts (← bound)
  if (← get).index = before then fail cause
  return String.ofList chars

/-- `tagHandle cause` reads a handle: an exclamation mark, or two with a name between them. -/
def tagHandle (cause : Cause) : Scan String := do
  if (← peek) != some '!' then fail cause
  skip 1
  if (← peek) = some ' ' then return "!"
  let name ← takeWhile isNameChar
  if (← peek) != some '!' then fail cause
  skip 1
  return String.ofList ('!' :: name ++ ['!'])

/-- `usesHandle chars` says that an exclamation mark comes before the next space or line break. -/
def usesHandle (chars : List Char) : Bool :=
  (chars.takeWhile fun c => !(c = ' ' || isBreak c)).contains '!'

def tagName : Scan TagName := do
  let following := (← rest).tail
  let tag ←
    if following.head? = some '<' then do
      skip 2
      let suffix ← tagText .badTag
      if (← peek) != some '>' then fail .badTag
      skip 1
      pure ⟨none, suffix⟩
    else if startsWithGap following then do
      skip 1
      pure ⟨none, "!"⟩
    else if usesHandle following then do
      let handle ← tagHandle .badTag
      pure ⟨some handle, ← tagText .badTag⟩
    else do
      skip 1
      pure ⟨some "!", ← tagText .badTag⟩
  if startsWithEnd (← rest) then return tag else fail .badTag

/-- `number` reads decimal digits, which may not be too many. -/
def number : Scan Nat := do
  let chars ← takeWhile Char.isDigit
  if Decimal.longestNumeral < chars.length then throw (.fault (.longNumeral chars.length))
  match Decimal.natural? 10 chars with
  | some n => return n
  | none => fail .badDirective

def versionDirective : Scan Directive := do
  dropWhile (· = ' ')
  let major ← number
  if (← peek) != some '.' then fail .badDirective
  skip 1
  let minor ← number
  if startsWithEnd (← rest) then return .version major minor else fail .badDirective

def tagDirective : Scan Directive := do
  dropWhile (· = ' ')
  let handle ← tagHandle .badDirective
  if (← peek) != some ' ' then fail .badDirective
  dropWhile (· = ' ')
  let expansion ← tagText .badDirective
  if startsWithEnd (← rest) then return .tagHandle handle expansion else fail .badDirective

def directiveOf (name : String) : Scan Directive :=
  if name = "YAML" then versionDirective
  else if name = "TAG" then tagDirective
  else do
    let _ ← toLineEnd
    return .other

def directive : Scan Directive := do
  skip 1
  let name ← name .badDirective
  if !startsWithEnd (← rest) then fail .badDirective
  let directive ← directiveOf name
  endLine .badDirective
  return directive

end AssemblyInfo.Yaml.Scan

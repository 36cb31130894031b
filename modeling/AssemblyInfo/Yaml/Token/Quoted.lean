import AssemblyInfo.Text.Hex
import AssemblyInfo.Yaml.Cursor

/-!
# Quoted scalars

A scalar between quotes may go over several lines: a line break becomes a space, and a line break
with blank lines after it becomes these. Double quotes allow escapes, single quotes only a doubled
quote.
-/

namespace AssemblyInfo.Yaml.Scan
open Text

def escape? : Char → Option Char
  | '0' => some '\x00'
  | 'a' => some '\x07'
  | 'b' => some '\x08'
  | 't' | '\t' => some '\t'
  | 'n' => some '\n'
  | 'v' => some '\x0b'
  | 'f' => some '\x0c'
  | 'r' => some '\r'
  | 'e' => some '\x1b'
  | ' ' => some ' '
  | '"' => some '"'
  | '\\' => some '\\'
  | '/' => some '/'
  | 'N' => some '\u0085'
  | '_' => some '\u00a0'
  | 'L' => some '\u2028'
  | 'P' => some '\u2029'
  | _ => none

/-- `escapeWidth? c` is the number of hexadecimal digits after the escape `c`. -/
def escapeWidth? : Char → Option Nat
  | 'x' => some 2
  | 'u' => some 4
  | 'U' => some 8
  | _ => none

def hexNumber? (chars : List Char) : Option Nat :=
  chars.foldl (fun n c => match n, hexValue? c with
    | some n, some digit => some (n * 16 + digit)
    | _, _ => none) (some 0)

/-- `codeEscape width` reads the number of a character in `width` digits. A surrogate is refused: no text holds
one. -/
def codeEscape (width : Nat) : Scan Char := do
  let digits := (← rest).take width
  match hexNumber? digits with
  | some n =>
    if digits.length < width then fail .badEscape
    else if 0x7FFFFFFF < n then throw (.fault .hugeCodePoint)
    else if 0x10FFFF < n then throw (.fault .badCodePoint)
    else if !n.isValidChar then throw (.fault .loneSurrogate)
    else
      skip width
      return Char.ofNat n
  | none => fail .badEscape

/-- `breaks steps` reads blank lines; a line that separates documents may not come among them. -/
def breaks : Nat → Scan (List Char)
  | 0 => return []
  | steps + 1 => do
    if (← get).atSeparator then fail .unclosedScalar
    dropWhile isSpace
    match ← lineBreak? with
    | some c => return c :: (← breaks steps)
    | none => return []

/-- `joined first blank` is what a line break and the blank lines after it are read as. -/
def joined (first : Char) (blank : List Char) : List Char :=
  if first != '\n' then first :: blank
  else if blank.isEmpty then [' ']
  else blank

/-- `quotedGap` reads spaces between words, or the end of a line and blank lines. -/
def quotedGap : Scan (List Char) := do
  let spaces ← takeWhile isSpace
  if (← peek).isNone then fail .unclosedScalar
  match ← lineBreak? with
  | some first => return joined first (← breaks (← bound))
  | none => return spaces

/-- `escape` reads an escape, after its backslash. -/
def escape : Scan (List Char) := do
  match ← peek with
  | none => fail .badEscape
  | some c =>
    match escape? c, escapeWidth? c with
    | some replaced, _ =>
      skip 1
      return [replaced]
    | none, some width =>
      skip 1
      return [← codeEscape width]
    | none, none =>
      match ← lineBreak? with
      | some _ => breaks (← bound)
      | none => fail .badEscape

/-- `quotedWord isDouble steps` reads characters up to a gap or the closing quote. -/
def quotedWord (isDouble : Bool) : Nat → Scan (List Char)
  | 0 => return []
  | steps + 1 => do
    let plain ← takeWhile fun c => !(c = '\'' || c = '"' || c = '\\' || isGap c)
    match ← rest with
    | '\'' :: '\'' :: _ =>
      if isDouble then
        skip 1
        return plain ++ '\'' :: (← quotedWord isDouble steps)
      else
        skip 2
        return plain ++ '\'' :: (← quotedWord isDouble steps)
    | '\'' :: _ =>
      if isDouble then
        skip 1
        return plain ++ '\'' :: (← quotedWord isDouble steps)
      else return plain
    | '"' :: _ =>
      if isDouble then return plain
      else
        skip 1
        return plain ++ '"' :: (← quotedWord isDouble steps)
    | '\\' :: _ =>
      skip 1
      if isDouble then
        let escaped ← escape
        return plain ++ escaped ++ (← quotedWord isDouble steps)
      else return plain ++ '\\' :: (← quotedWord isDouble steps)
    | _ => return plain

/-- `quotedRest isDouble steps` reads gaps and words up to the closing quote. -/
def quotedRest (isDouble : Bool) : Nat → Scan (List Char)
  | 0 => return []
  | steps + 1 => do
    if (← peek) = some (if isDouble then '"' else '\'') then
      skip 1
      return []
    else
      let gap ← quotedGap
      let word ← quotedWord isDouble (← bound)
      return gap ++ word ++ (← quotedRest isDouble steps)

def quotedScalar (isDouble : Bool) : Scan String := do
  skip 1
  let word ← quotedWord isDouble (← bound)
  let more ← quotedRest isDouble (← bound)
  return String.ofList (word ++ more)

end AssemblyInfo.Yaml.Scan

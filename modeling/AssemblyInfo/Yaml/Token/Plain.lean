import AssemblyInfo.Yaml.Token.Quoted

/-!
# Plain scalars

A scalar without quotes goes on up to a comment, a colon before a gap, or, within a flow collection,
an indicator. It may go over several lines that are indented far enough.
-/

namespace AssemblyInfo.Yaml

/-- The characters that end a plain scalar within a flow collection. -/
def flowEnds : List Char := [',', '?', '[', ']', '\x7b', '\x7d']

/-- `isColonEnd inFlow chars` says that a colon before `chars` ends a plain scalar. -/
def isColonEnd (inFlow : Bool) (chars : List Char) : Bool :=
  match chars with
  | [] => true
  | c :: _ => isGap c || (inFlow && c != '?' && flowEnds.contains c)

/-- `plainWord inFlow chars` is the characters of `chars` up to a gap or the end of the scalar. -/
def plainWord (inFlow : Bool) : List Char → List Char
  | [] => []
  | c :: rest =>
    if isGap c || (c = ':' && isColonEnd inFlow rest) || (inFlow && flowEnds.contains c) then []
    else c :: plainWord inFlow rest

/-- What comes between two words of a plain scalar. -/
structure PlainGap where
  /-- The characters between the words; none at the end of the scalar. -/
  chars : List Char
  /-- Whether a line has ended. -/
  endsLine : Bool

namespace Scan

/-- `plainBreaks steps` reads indentation and blank lines, unless a line that separates documents
comes. -/
def plainBreaks : Nat → Scan (Option (List Char))
  | 0 => return some []
  | steps + 1 => do
    dropWhile (· = ' ')
    match ← lineBreak? with
    | some c =>
      if (← get).atSeparator then return none
      return (← plainBreaks steps).map (c :: ·)
    | none => return some []

/-- `plainGap` reads spaces between words, or the end of a line, blank lines and indentation. -/
def plainGap : Scan PlainGap := do
  let spaces ← takeWhile (· = ' ')
  match ← lineBreak? with
  | none => return ⟨spaces, false⟩
  | some first =>
    if (← get).atSeparator then return ⟨[], true⟩
    match ← plainBreaks (← bound) with
    | none => return ⟨[], true⟩
    | some blank => return ⟨joined first blank, true⟩

/-- `plainWords inFlow indent gap steps` reads words after `gap`; lines have to be indented by
`indent`. -/
def plainWords (inFlow : Bool) (indent : Int) (gap : PlainGap) : Nat → Scan (List Char × Bool)
  | 0 => return ([], gap.endsLine)
  | steps + 1 => do
    if (← peek) = some '#' then return ([], gap.endsLine)
    let word := plainWord inFlow (← rest)
    if word.isEmpty then return ([], gap.endsLine)
    skip word.length
    let next ← plainGap
    let cursor ← get
    if next.chars.isEmpty || cursor.rest.head? = some '#' || (!inFlow && cursor.column < indent) then
      return (gap.chars ++ word, next.endsLine)
    else
      let (more, endsLine) ← plainWords inFlow indent next steps
      return (gap.chars ++ word ++ more, endsLine)

/-- `plainScalar inFlow indent` reads a scalar without quotes, and says whether a line has ended
after it. -/
def plainScalar (inFlow : Bool) (indent : Int) : Scan (String × Bool) := do
  let (chars, endsLine) ← plainWords inFlow indent ⟨[], false⟩ (← bound)
  return (String.ofList chars, endsLine)

end Scan

end AssemblyInfo.Yaml

import AssemblyInfo.Decimal.Reading
import AssemblyInfo.Encoding.Base64
import AssemblyInfo.Value.Basic
import AssemblyInfo.Yaml.Problem
import AssemblyInfo.Yaml.Tag

/-!
# Values of scalars

The value of a scalar with a given tag. The tag may have been written out, so the text need not have
the form of its kind.
-/

namespace AssemblyInfo.Yaml
open Text

def wordFlag? (word : String) : Option Bool :=
  if ["yes", "true", "on"].contains word then some true
  else if ["no", "false", "off"].contains word then some false
  else none

def boolOf (chars : List Char) : Except Fault Bool :=
  let word := String.ofList (lowerChars chars)
  match wordFlag? word with
  | some flag => .ok flag
  | none => .error (.missing (quoted word))

/-- `withoutUnderscores chars` is `chars` without underscores. -/
def withoutUnderscores (chars : List Char) : List Char :=
  chars.filter (· != '_')

/-- `integerOf base chars` is the integer that `chars` writes. Decimal digits may not be too many. -/
def integerOf (base : Nat) (chars : List Char) : Except Fault Int :=
  let digits := Decimal.leadingDigits chars
  if base = 10 && Decimal.longestNumeral < digits then .error (.longNumeral digits)
  else
    match Decimal.integer? base chars with
    | some n => .ok n
    | none => .error (.badInteger base (String.ofList chars))

def integersOf : List (List Char) → Except Fault (List Int)
  | [] => .ok []
  | part :: rest => do return (← integerOf 10 part) :: (← integersOf rest)

/-- `unsignedIntOf chars` is the integer that `chars` writes, in the base that its start names, or as
groups of sixtieths. -/
def unsignedIntOf (chars : List Char) : Except Fault Int :=
  match chars with
  | [] => .error .emptyNumber
  | ['0'] => .ok 0
  | '0' :: 'b' :: digits => integerOf 2 digits
  | '0' :: 'x' :: digits => integerOf 16 digits
  | '0' :: _ => integerOf 8 chars
  | _ =>
    if chars.contains ':' then
      (integersOf (splitAtChar ':' chars)).map fun parts => parts.foldl (fun n part => n * 60 + part) 0
    else integerOf 10 chars

def intOf (chars : List Char) : Except Fault Int :=
  let (negative, rest) := Decimal.takeSign (withoutUnderscores chars)
  (unsignedIntOf rest).map fun n => if negative then -n else n

def floatOf (chars : List Char) : Except Fault Float :=
  match Decimal.float? chars with
  | some x => .ok x
  | none => .error (.badFloat (String.ofList chars))

def floatsOf : List (List Char) → Except Fault (List Float)
  | [] => .ok []
  | part :: rest => do return (← floatOf part) :: (← floatsOf rest)

/-- `addSixtieths total power parts` adds up groups of sixtieths, the last group first. -/
def addSixtieths (total : Float) (power : Nat) : List Float → Except Fault Float
  | [] => .ok total
  | part :: rest =>
    if Nat.pow 2 1024 ≤ Nat.pow 60 power then .error .numberTooLarge
    else addSixtieths (total + part * Decimal.scientific (Nat.pow 60 power) 0) (power + 1) rest

def unsignedFloatOf (chars : List Char) : Except Fault Float :=
  if String.ofList chars = ".inf" then .ok (1.0 / 0.0)
  else if chars.contains ':' then do
    addSixtieths 0 0 (← floatsOf (splitAtChar ':' chars)).reverse
  else floatOf chars

/-- `doubleOf label chars` is the double that `chars` writes, with or without a sign. The word of the
format for what is no number is always the one called 0; any other is the one called `label`. -/
def doubleOf (label : Nat) (chars : List Char) : Except Fault Value :=
  let text := lowerChars (withoutUnderscores chars)
  let (negative, rest) := Decimal.takeSign text
  if text.isEmpty then .error .emptyNumber
  else if String.ofList rest = ".nan" then .ok (.notANumber 0)
  else (unsignedFloatOf rest).map fun x => .ofFloat label (if negative then -x else x)

def numberOf (digits : List Char) : Nat :=
  (Decimal.natural? 10 digits).getD 0

def offsetOf (parts : TimeParts) : Option Int :=
  match parts.offset with
  | some (sign, hours, minutes) =>
    let total : Int := numberOf hours * 60 + numberOf minutes
    some (if sign = '-' then -total else total)
  | none => if parts.isUniversal then some 0 else none

/-- `microsecondsOf digits` is the microseconds that the digits after a point write; further digits
are cut off. -/
def microsecondsOf (digits : List Char) : Nat :=
  let kept := digits.take 6
  numberOf kept * Nat.pow 10 (6 - kept.length)

/-- `checked flaw value` is `value`, unless there is a flaw. -/
def checked (flaw : Option Calendar.Flaw) (value : Value) : Except Fault Value :=
  match flaw with
  | some flaw => .error (.calendar flaw)
  | none => .ok value

def timeOf (parts : TimeParts) : Except Fault Value :=
  let date : Calendar.Date := ⟨numberOf parts.year, numberOf parts.month, numberOf parts.day⟩
  if parts.hour.isEmpty then checked date.flaw? (.date date)
  else
    let moment : Calendar.Moment :=
      { date
        hour := numberOf parts.hour
        minute := numberOf parts.minute
        second := numberOf parts.second
        microsecond := microsecondsOf parts.fraction
        offset := offsetOf parts }
    checked moment.flaw? (.moment moment)

def timestampOf (chars : List Char) : Except Fault Value :=
  match timeParts? (withoutLastBreak chars) with
  | some parts => timeOf parts
  | none => .error .badTimestamp

/-- `scalarOf label tag chars` is the value of the scalar `chars`; `label` tells it from all others. -/
def scalarOf (label : Nat) (tag : Tag) (chars : List Char) : Except Problem Value :=
  match tag with
  | .null => .ok .null
  | .bool => ((boolOf chars).map Value.bool).mapError .fault
  | .int => ((intOf chars).map Value.int).mapError .fault
  | .float => (doubleOf label chars).mapError .fault
  | .timestamp => (timestampOf chars).mapError .fault
  | .str => .ok (.text (String.ofList chars))
  | .binary =>
    match Encoding.Base64.decode? chars with
    | some bytes => .ok (.bytes bytes)
    | none => .error (.malformed .badBinary)
  | _ => .error (.malformed .unknownTag)

end AssemblyInfo.Yaml

import AssemblyInfo.Text.Hex

/-!
# Tags

The tag of a node says what kind of value it stands for. A plain scalar without a tag has one by its
form: the first kind in a fixed order whose form it has, and a text otherwise. A line break at the
very end of a scalar does not change its form.
-/

namespace AssemblyInfo.Yaml
open Text

/-- What the tags of the known kinds start with. -/
def tagRoot : String := "tag:yaml.org,2002:"

/-- The kind of value that a node stands for. -/
inductive Tag where
  | null
  | bool
  | int
  | float
  | binary
  | timestamp
  | orderedMap
  | pairs
  | set
  | str
  | seq
  | map
  /-- The mark of mappings that stand for others. -/
  | merge
  /-- The mark of the value of a mapping that stands for a scalar. -/
  | value
  | other (name : String)
  deriving DecidableEq, Repr, Inhabited

namespace Tag

def ofSuffix? : String → Option Tag
  | "null" => some .null
  | "bool" => some .bool
  | "int" => some .int
  | "float" => some .float
  | "binary" => some .binary
  | "timestamp" => some .timestamp
  | "omap" => some .orderedMap
  | "pairs" => some .pairs
  | "set" => some .set
  | "str" => some .str
  | "seq" => some .seq
  | "map" => some .map
  | "merge" => some .merge
  | "value" => some .value
  | _ => none

def ofName (name : String) : Tag :=
  if tagRoot.toList.isPrefixOf name.toList then
    (ofSuffix? (String.ofList (name.toList.drop tagRoot.length))).getD (.other name)
  else .other name

end Tag

/-! ### Forms of plain scalars -/

def isDigit (c : Char) : Bool :=
  '0' ≤ c && c ≤ '9'

def isDigits (chars : List Char) : Bool :=
  !chars.isEmpty && chars.all isDigit

def isGrouped (chars : List Char) : Bool :=
  chars.all fun c => isDigit c || c = '_'

def startsWithDigit (chars : List Char) : Bool :=
  match chars with
  | c :: _ => isDigit c
  | [] => false

/-- `dropSign chars` is `chars` without a leading sign. -/
def dropSign : List Char → List Char
  | '+' :: rest => rest
  | '-' :: rest => rest
  | chars => chars

def splitAtChar (mark : Char) : List Char → List (List Char)
  | [] => [[]]
  | c :: rest =>
    if c = mark then [] :: splitAtChar mark rest
    else
      match splitAtChar mark rest with
      | [] => [[c]]
      | part :: parts => (c :: part) :: parts

def isSixtieths (chars : List Char) : Bool :=
  match chars with
  | [c] => isDigit c
  | [c, d] => '0' ≤ c && c ≤ '5' && isDigit d
  | _ => false

/-- `isSexagesimal chars` says that `chars` is groups of sixtieths after a number, between
colons. -/
def isSexagesimal (chars : List Char) : Bool :=
  match splitAtChar ':' chars with
  | first :: second :: rest =>
    startsWithDigit first && isGrouped first && (second :: rest).all isSixtieths
  | _ => false

def hasBoolForm (chars : List Char) : Bool :=
  ["yes", "Yes", "YES", "no", "No", "NO", "true", "True", "TRUE", "false", "False", "FALSE", "on",
    "On", "ON", "off", "Off", "OFF"].contains (String.ofList chars)

/-- `hasNullForm chars` holds of the words for null, and of nothing at all. -/
def hasNullForm (chars : List Char) : Bool :=
  ["~", "null", "Null", "NULL", ""].contains (String.ofList chars)

/-- `hasBasedForm chars` holds of binary, octal and hexadecimal numbers. -/
def hasBasedForm (chars : List Char) : Bool :=
  match chars with
  | '0' :: 'b' :: c :: rest => (c :: rest).all fun c => c = '0' || c = '1' || c = '_'
  | '0' :: 'x' :: c :: rest => (c :: rest).all fun c => (hexValue? c).isSome || c = '_'
  | '0' :: c :: rest => (c :: rest).all fun c => ('0' ≤ c && c ≤ '7') || c = '_'
  | _ => false

def hasDecimalForm (chars : List Char) : Bool :=
  match chars with
  | ['0'] => true
  | c :: _ => c != '0' && isDigit c && isGrouped chars
  | [] => false

def hasIntForm (chars : List Char) : Bool :=
  let unsigned := dropSign chars
  hasBasedForm unsigned || hasDecimalForm unsigned ||
    (unsigned.head? != some '0' && isSexagesimal unsigned)

/-- `isExponent chars` says that `chars` is nothing, or an exponent with its sign. -/
def isExponent (chars : List Char) : Bool :=
  match chars with
  | [] => true
  | e :: sign :: digits => (e = 'e' || e = 'E') && (sign = '+' || sign = '-') && isDigits digits
  | _ => false

/-- `isFraction chars` says that `chars` is digits and underscores, perhaps with an exponent. -/
def isFraction (chars : List Char) : Bool :=
  isExponent (chars.dropWhile fun c => isDigit c || c = '_')

/-- `hasPointForm chars` holds of numbers with digits before a point. -/
def hasPointForm (chars : List Char) : Bool :=
  let whole := chars.takeWhile (· != '.')
  match chars.dropWhile (· != '.') with
  | _ :: rest => startsWithDigit whole && isGrouped whole && isFraction rest
  | [] => false

/-- `hasSexagesimalPointForm chars` holds of groups of sixtieths before a point. -/
def hasSexagesimalPointForm (chars : List Char) : Bool :=
  let whole := chars.takeWhile (· != '.')
  match chars.dropWhile (· != '.') with
  | _ :: rest => isSexagesimal whole && isGrouped rest
  | [] => false

def hasFloatForm (chars : List Char) : Bool :=
  let unsigned := dropSign chars
  let word := String.ofList unsigned
  hasPointForm unsigned || hasSexagesimalPointForm unsigned ||
    [".inf", ".Inf", ".INF"].contains word ||
    [".nan", ".NaN", ".NAN"].contains (String.ofList chars) ||
    match chars with
    | '.' :: rest => startsWithDigit rest && isFraction rest
    | _ => false

/-! ### Timestamps -/

/-- The parts of a timestamp, as they are written. -/
structure TimeParts where
  year : List Char
  month : List Char
  day : List Char
  hour : List Char := []
  minute : List Char := []
  second : List Char := []
  fraction : List Char := []
  /-- The sign, hours and minutes of the offset. -/
  offset : Option (Char × List Char × List Char) := none
  /-- Whether the time is universal time. -/
  isUniversal : Bool := false
  deriving DecidableEq, Repr

/-- `takeDigits least most chars` is from `least` to `most` leading digits of `chars`, and the
rest. -/
def takeDigits (least most : Nat) (chars : List Char) : Option (List Char × List Char) :=
  let digits := (chars.takeWhile isDigit).take most
  if least ≤ digits.length then some (digits, chars.drop digits.length) else none

def takeMark (mark : Char) : List Char → Option (List Char)
  | [] => none
  | c :: rest => if c = mark then some rest else none

/-- `dateParts? chars` is the date at the start of `chars`, and the rest. -/
def dateParts? (chars : List Char) : Option (TimeParts × List Char) := do
  let (year, rest) ← takeDigits 4 4 chars
  let (month, rest) ← takeDigits 1 2 (← takeMark '-' rest)
  let (day, rest) ← takeDigits 1 2 (← takeMark '-' rest)
  return ({ year, month, day }, rest)

/-- `dropBlanks chars` is `chars` without leading spaces and tabs. -/
def dropBlanks (chars : List Char) : List Char :=
  chars.dropWhile fun c => c = ' ' || c = '\t'

def timeStart? (chars : List Char) : Option (List Char) :=
  match chars with
  | 'T' :: rest => some rest
  | 't' :: rest => some rest
  | ' ' :: rest => some (dropBlanks rest)
  | '\t' :: rest => some (dropBlanks rest)
  | _ => none

/-- `fractionParts chars` is the digits after a point, and the rest. -/
def fractionParts (chars : List Char) : List Char × List Char :=
  match chars with
  | '.' :: rest => (rest.takeWhile isDigit, rest.dropWhile isDigit)
  | _ => ([], chars)

/-- `withOffset? parts chars` is `parts` with the offset `chars`, which has to be all there is. -/
def withOffset? (parts : TimeParts) (chars : List Char) : Option TimeParts :=
  match dropBlanks chars with
  | ['Z'] => some { parts with isUniversal := true }
  | sign :: rest =>
    if sign = '+' || sign = '-' then do
      let (hours, rest) ← takeDigits 1 2 rest
      match rest with
      | [] => return { parts with offset := some (sign, hours, []) }
      | rest =>
        let (minutes, rest) ← takeDigits 2 2 (← takeMark ':' rest)
        if rest.isEmpty then return { parts with offset := some (sign, hours, minutes) } else none
    else none
  | [] => if chars.isEmpty then some parts else none

def timeParts? (chars : List Char) : Option TimeParts := do
  let (parts, rest) ← dateParts? chars
  if rest.isEmpty then return parts
  let (hour, rest) ← takeDigits 1 2 (← timeStart? rest)
  let (minute, rest) ← takeDigits 2 2 (← takeMark ':' rest)
  let (second, rest) ← takeDigits 2 2 (← takeMark ':' rest)
  let (fraction, rest) := fractionParts rest
  withOffset? { parts with hour, minute, second, fraction } rest

/-- `hasTimestampForm chars` holds of timestamps; a date on its own has two digits for month and
day. -/
def hasTimestampForm (chars : List Char) : Bool :=
  match timeParts? chars with
  | some parts => !parts.hour.isEmpty || (parts.month.length = 2 && parts.day.length = 2)
  | none => false

/-! ### The tag of a scalar -/

/-- The forms in the order in which they are tried. -/
def forms : List (Tag × (List Char → Bool)) :=
  [(.bool, hasBoolForm), (.float, hasFloatForm), (.int, hasIntForm), (.merge, (· == ['<', '<'])),
    (.null, hasNullForm), (.timestamp, hasTimestampForm), (.value, (· == ['='])),
    (.other (tagRoot ++ "yaml"), fun chars => [['!'], ['&'], ['*']].contains chars)]

/-- `withoutLastBreak chars` is `chars` without a line feed at its very end. -/
def withoutLastBreak (chars : List Char) : List Char :=
  if chars.getLast? = some '\n' then chars.dropLast else chars

def Tag.ofPlain (text : List Char) : Tag :=
  let matching := fun (form : Tag × (List Char → Bool)) =>
    form.2 text || (form.2 (withoutLastBreak text) && !(withoutLastBreak text).isEmpty)
  match forms.find? matching with
  | some (tag, _) => tag
  | none => .str

end AssemblyInfo.Yaml

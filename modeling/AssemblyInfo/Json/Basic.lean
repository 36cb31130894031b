import AssemblyInfo.Decimal.Notation
import AssemblyInfo.Text.Hex

/-!
# JSON

JSON texts of printable ASCII characters: compact ones on one line, and indented ones with an item
a line.
-/

namespace AssemblyInfo

/-- A JSON value; the members of an object keep their order. -/
inductive Json where
  | null
  | bool (flag : Bool)
  | int (n : Int)
  | float (x : Float)
  | text (s : String)
  | array (items : List Json)
  | object (members : List (String × Json))

namespace Json
open Text

instance : Inhabited Json := ⟨.null⟩

def unitEscape (u : Nat) : List Char :=
  '\\' :: 'u' :: hexDigits 4 u

/-- `codeEscape n` is the escape of the character with code point `n`, in one unit or two. -/
def codeEscape (n : Nat) : List Char :=
  if n < 0x10000 then unitEscape n
  else
    unitEscape (0xD800 + (n - 0x10000) / 1024) ++ unitEscape (0xDC00 + (n - 0x10000) % 1024)

def charText (c : Char) : List Char :=
  if c = '"' || c = '\\' then ['\\', c]
  else if 0x20 ≤ c.toNat && c.toNat < 0x7F then [c]
  else if c = '\n' then ['\\', 'n']
  else if c = '\r' then ['\\', 'r']
  else if c = '\t' then ['\\', 't']
  else if c = '\x08' then ['\\', 'b']
  else if c = '\x0c' then ['\\', 'f']
  else codeEscape c.toNat

def stringText (s : String) : List Char :=
  '"' :: s.toList.flatMap charText ++ ['"']

/-- `floatText x` is `x` as a JSON number, or the name of what is none. -/
def floatText (x : Float) : List Char :=
  Decimal.floatTextWith ⟨"Infinity".toList, "NaN".toList⟩ x

def boolText (flag : Bool) : List Char :=
  (if flag then "true" else "false").toList

mutual

/-- `json.compact` is `json` without blanks. -/
def compact : Json → List Char
  | .null => "null".toList
  | .bool flag => boolText flag
  | .int n => Decimal.integerText n
  | .float x => floatText x
  | .text s => stringText s
  | .array [] => ['[', ']']
  | .array (item :: rest) => '[' :: item.compact ++ compactItems rest
  | .object [] => ['\x7b', '\x7d']
  | .object ((name, value) :: rest) =>
    '\x7b' :: stringText name ++ ':' :: value.compact ++ compactMembers rest

/-- `compactItems items` is the items of an array after the first, and its end. -/
def compactItems : List Json → List Char
  | [] => [']']
  | item :: rest => ',' :: item.compact ++ compactItems rest

/-- `compactMembers members` is the members of an object after the first, and its end. -/
def compactMembers : List (String × Json) → List Char
  | [] => ['\x7d']
  | (name, value) :: rest =>
    ',' :: stringText name ++ ':' :: value.compact ++ compactMembers rest

end

def lineStart (depth : Nat) : List Char :=
  '\n' :: List.replicate (2 * depth) ' '

mutual

/-- `json.indented depth` is `json` with an item a line, at the given depth. -/
def indented (depth : Nat) : Json → List Char
  | .array [] => ['[', ']']
  | .array (item :: rest) =>
    '[' :: lineStart (depth + 1) ++ item.indented (depth + 1) ++ indentedItems depth rest
  | .object [] => ['\x7b', '\x7d']
  | .object ((name, value) :: rest) =>
    '\x7b' :: lineStart (depth + 1) ++ stringText name ++ ':' :: ' ' :: value.indented (depth + 1) ++
      indentedMembers depth rest
  | .null => "null".toList
  | .bool flag => boolText flag
  | .int n => Decimal.integerText n
  | .float x => floatText x
  | .text s => stringText s

/-- `indentedItems depth items` is the items of an array after the first, and its end. -/
def indentedItems (depth : Nat) : List Json → List Char
  | [] => lineStart depth ++ [']']
  | item :: rest =>
    ',' :: lineStart (depth + 1) ++ item.indented (depth + 1) ++ indentedItems depth rest

/-- `indentedMembers depth members` is the members of an object after the first, and its end. -/
def indentedMembers (depth : Nat) : List (String × Json) → List Char
  | [] => lineStart depth ++ ['\x7d']
  | (name, value) :: rest =>
    ',' :: lineStart (depth + 1) ++ stringText name ++ ':' :: ' ' :: value.indented (depth + 1) ++
      indentedMembers depth rest

end

end Json

end AssemblyInfo

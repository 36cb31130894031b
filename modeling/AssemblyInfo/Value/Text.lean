import AssemblyInfo.Fault
import AssemblyInfo.Value.Basic

/-!
# Text of values

The text of a value in a message or an attribute. A text stands for itself; within a collection it
is quoted. Integers of too many digits are not written.
-/

namespace AssemblyInfo.Value
open Text

def separated (parts : List (List Char)) : List Char :=
  (parts.intersperse [',', ' ']).flatten

/-- `tupleText parts` is a tuple of `parts`; a comma follows an only one. -/
def tupleText (parts : List (List Char)) : List Char :=
  match parts with
  | [part] => '(' :: part ++ [',', ')']
  | _ => '(' :: separated parts ++ [')']

def braced (parts : List (List Char)) : List Char :=
  '\x7b' :: separated parts ++ ['\x7d']

/-- `setText frozen parts` is a set of `parts`. A frozen one has its kind in front, and so has one
without parts. -/
def setText (frozen : Bool) (parts : List (List Char)) : List Char :=
  match frozen, parts with
  | false, [] => "set()".toList
  | false, parts => braced parts
  | true, [] => "frozenset()".toList
  | true, parts => "frozenset(".toList ++ braced parts ++ [')']

mutual

def shown : Value → List Char
  | .null => "None".toList
  | .bool flag => (if flag then "True" else "False").toList
  | .int n => Decimal.integerText n
  | .float x => Decimal.floatText x
  | .notANumber _ => "nan".toList
  | .text s => quotedChars s.toList
  | .bytes data => (quotedBytes data).toList
  | .date d => d.shown.toList
  | .moment m => m.shown.toList
  | .list items => '[' :: separated (shownItems items) ++ [']']
  | .tuple items => tupleText (shownItems items)
  | .set frozen items => setText frozen (shownItems items)
  | .map entries => braced (shownEntries entries)
  | .record fields => "namespace(".toList ++ separated (shownFields fields) ++ [')']
  | .dataclass _ shownAs fields => shownAs (shownMembers fields)
  | .again _ => "[...]".toList
  | .later part => (part ()).shown

def shownItems : List Value → List (List Char)
  | [] => []
  | item :: rest => item.shown :: shownItems rest

def shownEntries : List (Value × Value) → List (List Char)
  | [] => []
  | (key, value) :: rest => (key.shown ++ ':' :: ' ' :: value.shown) :: shownEntries rest

def shownFields : List (String × Value) → List (List Char)
  | [] => []
  | (name, value) :: rest => (name.toList ++ '=' :: value.shown) :: shownFields rest

/-- `shownMembers fields` is how the fields of a dataclass are shown; what stands in for one that fails is left
to the dataclass. -/
def shownMembers : List (String × Except Fault Value) → List (List Char)
  | [] => []
  | (_, .error _) :: rest => [] :: shownMembers rest
  | (_, .ok value) :: rest => value.shown :: shownMembers rest

end

def display : Value → String
  | .text s => s
  | .date d => String.ofList d.text
  | .moment m => String.ofList m.text
  | .later part => (part ()).display
  | value => String.ofList value.shown

mutual

/-- `value.isWritable` says that no integer in `value` is too long to be written. A dataclass
says how it is shown itself. -/
def isWritable : Value → Bool
  | .int n => !Decimal.isLong n.natAbs
  | .list items | .tuple items | .set _ items => areWritable items
  | .map entries => areWritableEntries entries
  | .record fields => areWritableFields fields
  | .later part => (part ()).isWritable
  | _ => true

def areWritable : List Value → Bool
  | [] => true
  | item :: rest => item.isWritable && areWritable rest

def areWritableEntries : List (Value × Value) → Bool
  | [] => true
  | (key, value) :: rest => key.isWritable && value.isWritable && areWritableEntries rest

def areWritableFields : List (String × Value) → Bool
  | [] => true
  | (_, value) :: rest => value.isWritable && areWritableFields rest

end

/-- `value.written text` is `text`, which shows `value`, unless an integer in it is too long. -/
def written (value : Value) (text : String) : Except Fault String :=
  if value.isWritable then .ok text else .error .longInteger

/-- `value.writtenText` is the text of `value`, unless an integer in it is too long. -/
def writtenText (value : Value) : Except Fault String :=
  value.written value.display

end AssemblyInfo.Value

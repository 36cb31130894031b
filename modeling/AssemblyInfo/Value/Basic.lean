import AssemblyInfo.Decimal.Shortest
import AssemblyInfo.Fault

/-!
# Values

What a settings file can hold, and what a caller can hand to the builder. Collections keep their
order; the order of a set is the one in which it is enumerated. A collection that contains itself is
written out up to the place where it would start again.
-/

namespace AssemblyInfo

/-- A value of a settings file or of a caller. -/
inductive Value where
  | null
  | bool (flag : Bool)
  | int (n : Int)
  | float (x : Float)
  /-- A float that is no number. It differs from every other one, and is the same as itself only:
  the label says which one it is. -/
  | notANumber (label : Nat)
  | text (s : String)
  | bytes (data : List UInt8)
  | date (d : Calendar.Date)
  | moment (m : Calendar.Moment)
  | list (items : List Value)
  | tuple (items : List Value)
  /-- A set; a frozen one can be an item of a set. -/
  | set (frozen : Bool) (items : List Value)
  | map (entries : List (Value × Value))
  | record (fields : List (String × Value))
  /-- An object of a kind that declares its fields, shown as what they are shown as says. A field may fail
  when it is read or copied. -/
  | dataclass (kind : String) (shownAs : List (List Char) → List Char) (fields : List (String × Except Fault Value))
  /-- One of the collections around this place; `copied` says that a dataclass lies on the way back
  here. -/
  | again (copied : Bool)
  /-- A value that is worked out when it is looked at. -/
  | later (part : Unit → Value)

namespace Value

instance : Inhabited Value := ⟨.null⟩

/-- `ofFloat label x` is `x` as a value. Should it be no number, it is the one called `label`. -/
def ofFloat (label : Nat) (x : Float) : Value :=
  match Decimal.magnitude x with
  | .notANumber => .notANumber label
  | _ => .float x

/-- `ofText? text` is `text` as a value, null if there is none. -/
def ofText? : Option String → Value
  | some s => .text s
  | none => .null

/-- `value.now` is `value`, worked out so far that its kind can be seen. -/
def now : Value → Value
  | .later part => (part ()).now
  | value => value

/-- `value.kind` is the name of the kind of `value`, as messages give it. -/
def kind : Value → String
  | .null => "NoneType"
  | .bool _ => "bool"
  | .int _ => "int"
  | .float _ | .notANumber _ => "float"
  | .text _ => "str"
  | .bytes _ => "bytes"
  | .date _ => "datetime.date"
  | .moment _ => "datetime.datetime"
  | .list _ => "list"
  | .tuple _ => "tuple"
  | .set frozen _ => if frozen then "frozenset" else "set"
  | .map _ => "dict"
  | .record _ | .again _ => "object"
  | .dataclass kind _ _ => kind
  | .later part => (part ()).kind

/-- `value.isTruthy` is false for null, false, zero and what is empty. -/
def isTruthy : Value → Bool
  | .null => false
  | .bool flag => flag
  | .int n => n != 0
  | .float x => x != 0
  | .text s => s != ""
  | .bytes data => !data.isEmpty
  | .list items | .tuple items | .set _ items => !items.isEmpty
  | .map entries => !entries.isEmpty
  | .notANumber _ | .date _ | .moment _ | .record _ | .dataclass .. | .again _ => true
  | .later part => (part ()).isTruthy

def items? (value : Value) : Option (List Value) :=
  match value.now with
  | .list items => some items
  | _ => none

def entries? (value : Value) : Option (List (Value × Value)) :=
  match value.now with
  | .map entries => some entries
  | _ => none

end Value

end AssemblyInfo

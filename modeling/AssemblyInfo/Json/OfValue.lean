import AssemblyInfo.Fault
import AssemblyInfo.Json.Basic
import AssemblyInfo.Value.Copy
import AssemblyInfo.Value.Text

/-!
# JSON of values

Every value has a JSON form, except a collection that contains itself, a mapping with a key that is
no text, number, flag or null, an integer that is too long to be written, and a dataclass that cannot be
copied. A set becomes an array sorted by the texts of its items, a record and a dataclass become objects,
and what JSON has no form for becomes its text.
-/

namespace AssemblyInfo

/-- The JSON form of what is no number. -/
def Json.notANumber : Json := .float (0.0 / 0.0)

def Json.keyText : Value → Except Fault String
  | .text s => .ok s
  | .null => .ok "null"
  | .bool flag => .ok (String.ofList (Json.boolText flag))
  | .int n => (Value.int n).writtenText
  | .float x => .ok (String.ofList (Json.floatText x))
  | .notANumber _ => .ok (String.ofList Json.notANumber.compact)
  | .later part => Json.keyText (part ())
  | value => .error (.badKey value.kind)

/-- `inOrder results` is the results, unless one of them is a fault. -/
def inOrder {α : Type} : List (Except Fault α) → Except Fault (List α)
  | [] => .ok []
  | .error fault :: _ => .error fault
  | .ok result :: rest => (inOrder rest).map (result :: ·)

/-- `sortedByText entries` is the right sides of `entries`, sorted by the left ones; entries with
one left side keep their order. -/
def sortedByText {α : Type} (entries : List (String × α)) : List α :=
  (entries.mergeSort fun a b => decide (a.1 ≤ b.1)).map Prod.snd

namespace Value

mutual

/-- `value.toJson` is the JSON form of `value`. -/
def toJson : Value → Except Fault Json
  | .null => .ok .null
  | .bool flag => .ok (.bool flag)
  | .int n => if Decimal.isLong n.natAbs then .error .longInteger else .ok (.int n)
  | .float x => .ok (.float x)
  | .notANumber _ => .ok .notANumber
  | .text s => .ok (.text s)
  | .bytes data => .ok (.text (Value.bytes data).display)
  | .date d => .ok (.text (Value.date d).display)
  | .moment m => .ok (.text (Value.moment m).display)
  | .list items => (itemsToJson items).map .array
  | .tuple items => (itemsToJson items).map .array
  | .set _ items =>
    if areWritable items then (inOrder (sortedByText (keyedToJson items))).map .array
    else .error .longInteger
  | .map entries => (entriesToJson entries).map .object
  | .record fields => (fieldsToJson fields).map .object
  | .dataclass _ _ fields => do
    let _ ← fieldsAsDict fields
    return .object (← membersToJson fields)
  | .again copied => .error (if copied then .endless else .circular)
  | .later part => (part ()).toJson

def itemsToJson : List Value → Except Fault (List Json)
  | [] => .ok []
  | item :: rest => do
    let first ← item.toJson
    let more ← itemsToJson rest
    return first :: more

def keyedToJson : List Value → List (String × Except Fault Json)
  | [] => []
  | item :: rest => (item.display, item.toJson) :: keyedToJson rest

def entriesToJson : List (Value × Value) → Except Fault (List (String × Json))
  | [] => .ok []
  | (key, value) :: rest => do
    let name ← Json.keyText key
    let member ← value.toJson
    let members ← entriesToJson rest
    return (name, member) :: members

def fieldsToJson : List (String × Value) → Except Fault (List (String × Json))
  | [] => .ok []
  | (name, value) :: rest => do
    let member ← value.toJson
    let members ← fieldsToJson rest
    return (name, member) :: members

/-- `membersToJson fields` is the members of a dataclass, which has been copied before. -/
def membersToJson : List (String × Except Fault Value) → Except Fault (List (String × Json))
  | [] => .ok []
  | (_, .error fault) :: _ => .error fault
  | (name, .ok value) :: rest => do
    let member ← value.toJson
    let members ← membersToJson rest
    return (name, member) :: members

end

/-- `value.serialise` is the compact JSON text of `value`. -/
def serialise (value : Value) : Except Fault String :=
  value.toJson.map fun json => String.ofList json.compact

end Value

end AssemblyInfo

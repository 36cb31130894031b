import AssemblyInfo.Value.Basic

/-!
# Keys

Which values are one key of a mapping: numbers are compared by value, whatever their kind, and
times with an offset by the instant they name. What is no number is the same key as itself only.
-/

namespace AssemblyInfo

/-- A part of the identity of a key. -/
inductive KeyPart where
  | null
  | number (n : Int)
  | double (bits : Nat)
  | notANumber (label : Nat)
  | text (s : String)
  | bytes (data : List UInt8)
  | date (d : Calendar.Date)
  | localTime (m : Calendar.Moment)
  | instant (microseconds : Int)
  | collection (size : Nat)
  deriving DecidableEq, Repr

namespace KeyPart

/-- `ofFinite negative mantissa exponent bits` is the identity of a finite double: its value if it
is an integer. -/
def ofFinite (negative : Bool) (mantissa : Nat) (exponent : Int) (bits : Nat) : KeyPart :=
  let r := Decimal.Ratio.scale mantissa 2 exponent
  if r.num % r.den = 0 then
    let n : Int := r.num / r.den
    .number (if negative then -n else n)
  else .double bits

def ofFloat (x : Float) : KeyPart :=
  match Decimal.magnitude x with
  | .finite mantissa exponent => ofFinite (Decimal.isNegative x) mantissa exponent x.toBits.toNat
  | _ => .double x.toBits.toNat

def ofMoment (m : Calendar.Moment) : KeyPart :=
  match m.instant? with
  | some microseconds => .instant microseconds
  | none => .localTime m

end KeyPart

namespace Value

mutual

/-- `value.key` is the identity of `value` as a key. -/
def key : Value → List KeyPart
  | .null => [.null]
  | .bool flag => [.number (if flag then 1 else 0)]
  | .int n => [.number n]
  | .float x => [.ofFloat x]
  | .notANumber label => [.notANumber label]
  | .text s => [.text s]
  | .bytes data => [.bytes data]
  | .date d => [.date d]
  | .moment m => [.ofMoment m]
  | .list items | .tuple items | .set _ items => .collection items.length :: itemKeys items
  | .map entries => [.collection entries.length]
  | .record fields => [.collection fields.length]
  | .dataclass _ _ fields => [.collection fields.length]
  | .again _ => [.collection 0]
  | .later part => (part ()).key

def itemKeys : List Value → List KeyPart
  | [] => []
  | item :: rest => item.key ++ itemKeys rest

end

def isHashable : Value → Bool
  | .list _ | .set false _ | .map _ | .again _ => false
  | .later part => (part ()).isHashable
  | _ => true

/-- `putEntry key value entries` sets `key` to `value`: a key that is there keeps its place and its
spelling. -/
def putEntry {α : Type} (key : Value) (value : α) : List (Value × α) → List (Value × α)
  | [] => [(key, value)]
  | (present, old) :: rest =>
    if present.key = key.key then (present, value) :: rest
    else (present, old) :: putEntry key value rest

/-- `mapOf pairs` is the mapping that is set to `pairs` one after the other. -/
def mapOf (pairs : List (Value × Value)) : Value :=
  .map (pairs.foldl (fun entries pair => putEntry pair.1 pair.2 entries) [])

/-- `putItem item items` adds `item` unless it is there. -/
def putItem (item : Value) (items : List Value) : List Value :=
  if items.any fun present => present.key = item.key then items else items ++ [item]

/-- `setOf frozen items` is the set of `items`, in the order of their first occurrences. -/
def setOf (frozen : Bool) (items : List Value) : Value :=
  .set frozen (items.foldl (fun present item => putItem item present) [])

def lookup? (name : String) (entries : List (Value × Value)) : Option Value :=
  (entries.find? fun entry => entry.1.key = [.text name]).map Prod.snd

end Value

end AssemblyInfo

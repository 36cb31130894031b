import AssemblyInfo.Value.Key

/-!
# Equal values

Collections are equal if they are of one kind and hold equal values; sets and mappings in whatever
order. Other values are equal if they are one key, and a record or dataclass is equal to none.
-/

namespace AssemblyInfo.Value

def sameSet (items others : List Value) : Bool :=
  items.length == others.length &&
    items.all fun item => others.any fun other => other.key = item.key

mutual

/-- `value.same other` says that two values are equal. -/
def same : Value → Value → Bool
  | .list items, other =>
    match other.now with
    | .list others => sameItems items others
    | _ => false
  | .tuple items, other =>
    match other.now with
    | .tuple others => sameItems items others
    | _ => false
  | .set _ items, other =>
    match other.now with
    | .set _ others => sameSet items others
    | _ => false
  | .map entries, other =>
    match other.now with
    | .map others => entries.length == others.length && sameEntries entries others
    | _ => false
  | .record _, _ | .dataclass .., _ | .again _, _ => false
  | .later part, other => (part ()).same other
  | value, other => value.key = other.key

def sameItems : List Value → List Value → Bool
  | [], [] => true
  | item :: rest, other :: others => item.same other && sameItems rest others
  | _, _ => false

def sameEntries : List (Value × Value) → List (Value × Value) → Bool
  | [], _ => true
  | (key, value) :: rest, others =>
    let found := others.find? fun other => other.1.key = key.key
    (match found with
      | some other => value.same other.2
      | none => false) && sameEntries rest others

end

end AssemblyInfo.Value

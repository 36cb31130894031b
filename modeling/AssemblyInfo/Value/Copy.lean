import AssemblyInfo.Value.Basic

/-!
# Copies of dataclasses

A dataclass is copied into a mapping before it is written. The copy goes through the lists, tuples,
mappings and dataclasses in its fields, each of which becomes a new one; whatever else stands in a field is
copied as it is. So a field that cannot be read or copied is found before anything is written, and a
collection that contains itself is copied without end.
-/

namespace AssemblyInfo.Value

mutual

/-- `value.unhashable?` is the kind of the part of `value` for which it is no key of a mapping. -/
def unhashable? : Value → Option String
  | .list _ => some "list"
  | .set false _ => some "set"
  | .map _ => some "dict"
  | .tuple items => unhashableItem? items
  | .later part => (part ()).unhashable?
  | _ => none

def unhashableItem? : List Value → Option String
  | [] => none
  | item :: rest => item.unhashable?.or (unhashableItem? rest)

end

/-- `value.asKey` is `value`, if it can be a key of a mapping. -/
def asKey (value : Value) : Except Fault Value :=
  match value.unhashable? with
  | some kind => .error (.unhashable kind)
  | none => .ok value

mutual

/-- `value.asDict` is the copy of `value`, with mappings in the place of dataclasses. -/
def asDict : Value → Except Fault Value
  | .list items => (itemsAsDict items).map .list
  | .tuple items => (itemsAsDict items).map .tuple
  | .map entries => (entriesAsDict entries).map .map
  | .dataclass _ _ fields => (fieldsAsDict fields).map .map
  | .again _ => .error .endless
  | .later part => (part ()).asDict
  | value => .ok value

def itemsAsDict : List Value → Except Fault (List Value)
  | [] => .ok []
  | item :: rest => do
    let copy ← item.asDict
    let more ← itemsAsDict rest
    return copy :: more

/-- `entriesAsDict entries` is the copies of `entries`. A key is filed after its value has been copied. -/
def entriesAsDict : List (Value × Value) → Except Fault (List (Value × Value))
  | [] => .ok []
  | (key, value) :: rest => do
    let name ← key.asDict
    let copy ← value.asDict
    let name ← name.asKey
    let more ← entriesAsDict rest
    return (name, copy) :: more

def fieldsAsDict : List (String × Except Fault Value) → Except Fault (List (Value × Value))
  | [] => .ok []
  | (_, .error fault) :: _ => .error fault
  | (name, .ok value) :: rest => do
    let copy ← value.asDict
    let more ← fieldsAsDict rest
    return (.text name, copy) :: more

end

end AssemblyInfo.Value

import AssemblyInfo.Folded.Spelling
import AssemblyInfo.Folded.Store

/-!
# Folded tables

A table from names to values in which case does not count. Every entry is filed under the folded form
of its spelling, and keeps the place and the spelling of its first insertion.
-/

namespace AssemblyInfo.Folded
open Spelling Naming

/-- A table from names to values in which case does not count. -/
structure Table (ν α : Type) [Spelling ν] where
  /-- Spellings and values under folded names. -/
  store : Store ν (ν × α)
  filed : ∀ slot ∈ store.slots, slot.1 = fold slot.2.1

namespace Table

variable {ν α : Type} [DecidableEq ν] [Spelling ν]

/-- The table without entries. -/
def empty : Table ν α := ⟨.empty, nofun⟩

instance : Inhabited (Table ν α) := ⟨empty⟩

/-- `table.entries` is the names of `table` as they are spelled, and their values. -/
def entries (table : Table ν α) : List (ν × α) :=
  table.store.slots.map Prod.snd

def size (table : Table ν α) : Nat :=
  table.store.slots.length

/-- `table.entry? name` is the entry that is filed under `name`. -/
def entry? (table : Table ν α) (name : ν) : Option (ν × α) :=
  table.store.find? (fold name)

def get? (table : Table ν α) (name : ν) : Option α :=
  (table.entry? name).map Prod.snd

/-- `table.spelling name` is `name` as it is spelled in `table`, and `name` itself if it is not there. -/
def spelling (table : Table ν α) (name : ν) : ν :=
  ((table.entry? name).map Prod.fst).getD name

theorem fold_spelling (table : Table ν α) (name : ν) : fold (table.spelling name) = fold name := by
  unfold spelling
  cases found : table.entry? name with
  | none => rfl
  | some entry => exact (table.filed _ (Store.mem_of_find? found)).symm

/-- `table.insert name value` files `value` under `name`, in the spelling that is there. -/
def insert (table : Table ν α) (name : ν) (value : α) : Table ν α :=
  ⟨table.store.put (fold name) (table.spelling name, value), by
    intro slot member
    rcases mem_putSlot member with rfl | present
    · exact (table.fold_spelling name).symm
    · exact table.filed slot present⟩

/-- `table.erase name` removes what is filed under `name`. -/
def erase (table : Table ν α) (name : ν) : Table ν α :=
  ⟨table.store.remove (fold name), fun slot member => table.filed slot (List.mem_filter.1 member).1⟩

/-- `absent name` is the fault that nothing is filed under `name`. -/
def absent (name : ν) : Fault :=
  .missing (String.ofList (toValue (fold name)).shown)

/-- `table.read name` is the value under `name`, which has to be there. -/
def read (table : Table ν α) (name : ν) : Except Fault α :=
  match table.get? name with
  | some value => .ok value
  | none => .error (absent name)

/-- `table.drop name` removes the entry under `name`, which has to be there. -/
def drop (table : Table ν α) (name : ν) : Except Fault (Table ν α) :=
  match table.get? name with
  | some _ => .ok (table.erase name)
  | none => .error (absent name)

/-! ### Access by arbitrary keys -/

section
variable {κ : Type} [Naming κ ν]

/-- `table.fetch key` is the value under `key`, which has to be there. -/
def fetch (table : Table ν α) (key : κ) : Except Fault α := do
  table.read (← nameOf key)

/-- `table.find key` is the value under `key`, if there is one. -/
def find (table : Table ν α) (key : κ) : Except Fault (Option α) := do
  let name ← nameOf key
  return table.get? name

/-- `table.put key value` sets `key` to `value`. -/
def put (table : Table ν α) (key : κ) (value : α) : Except Fault (Table ν α) := do
  let name ← nameOf key
  return table.insert name value

/-- `table.remove key` removes the entry under `key`, which has to be there. -/
def remove (table : Table ν α) (key : κ) : Except Fault (Table ν α) := do
  table.drop (← nameOf key)

/-- `table.take key` removes the entry under `key`, and gives its value. -/
def take (table : Table ν α) (key : κ) : Except Fault (α × Table ν α) := do
  let value ← table.fetch key
  return (value, ← table.remove key)

/-- `table.takeOr key other` removes the entry under `key`, and gives its value or `other`. -/
def takeOr (table : Table ν α) (key : κ) (other : α) : Except Fault (α × Table ν α) := do
  match ← table.find key with
  | some value => return (value, ← table.remove key)
  | none => return (other, table)

/-- `table.fetchOrPut key value` is the value under `key`, which is set to `value` if there is
none. -/
def fetchOrPut (table : Table ν α) (key : κ) (value : α) : Except Fault (α × Table ν α) := do
  match ← table.find key with
  | some present => return (present, table)
  | none => return (value, ← table.put key value)

/-- `table.putAll pairs` sets keys one after the other, up to the first that is no name. -/
def putAll (table : Table ν α) : List (κ × α) → Except Fault Unit × Table ν α
  | [] => (.ok (), table)
  | (key, value) :: rest =>
    match table.put key value with
    | .ok next => next.putAll rest
    | .error fault => (.error fault, table)

def hasKey (table : Table ν α) (key : κ) : Except Fault Bool := do
  return (← table.find key).isSome

end

/-! ### From the first entry on -/

/-- `table.takeFirst` removes the first entry, and gives it. The entry is looked up again by its
spelling. -/
def takeFirst (table : Table ν α) : Except Fault ((ν × α) × Table ν α) :=
  match table.entries with
  | [] => .error .empty
  | (name, _) :: _ => do
    let value ← table.read name
    return ((name, value), ← table.drop name)

theorem find?_of_slots {table : Table ν α} {slot : ν × ν × α} {rest : List (ν × ν × α)}
    (slots : table.store.slots = slot :: rest) : table.entry? slot.2.1 = some slot.2 := by
  have filed := table.filed slot (by rw [slots]; exact List.mem_cons_self)
  unfold entry? Store.find?
  rw [slots, List.find?_cons_of_pos (by simp [filed])]
  rfl

/-- The first entry is found under its spelling, since it is filed there. -/
theorem takeFirst_eq (table : Table ν α) :
    table.takeFirst =
      match table.entries with
      | [] => .error .empty
      | entry :: _ => .ok (entry, table.erase entry.1) := by
  unfold takeFirst
  cases slots : table.store.slots with
  | nil => simp [entries, slots]
  | cons slot rest =>
    have found := find?_of_slots slots
    simp [entries, slots, read, drop, get?, found, bind, Except.bind, pure, Except.pure]

theorem size_lt_of_takeFirst {table rest : Table ν α} {entry : ν × α}
    (taken : table.takeFirst = .ok (entry, rest)) : rest.size < table.size := by
  rw [takeFirst_eq] at taken
  cases slots : table.store.slots with
  | nil => simp [entries, slots] at taken
  | cons slot others =>
    have here : slot ∈ table.store.slots := by
      rw [slots]
      exact List.mem_cons_self
    simp only [entries, slots, List.map_cons, Except.ok.injEq, Prod.mk.injEq] at taken
    have smaller := Store.length_remove_lt here
    rw [table.filed slot here] at smaller
    rw [← taken.2]
    exact smaller

/-- `table.clear` removes the first entry until there is none. -/
def clear (table : Table ν α) : Table ν α :=
  match _ : table.takeFirst with
  | .ok (_, rest) => rest.clear
  | .error _ => table
termination_by table.size
decreasing_by
  rename_i taken
  exact size_lt_of_takeFirst taken

/-! ### The whole table -/

/-- `table.agrees same pairs` says that the table holds exactly the `pairs`, of which the last one
under a key counts. Here case counts, and values are compared by `same`. -/
def agrees (table : Table ν α) (same : α → α → Bool) (pairs : List (ν × α)) : Bool :=
  let isSame := fun (entry : ν × α) =>
    match pairs.reverse.find? fun pair => pair.1 == entry.1 with
    | some pair => same entry.2 pair.2
    | none => false
  table.entries.all isSame && pairs.all fun pair => table.entries.any fun entry => entry.1 == pair.1

def shown (table : Table ν Value) : Except Fault String :=
  let value := Value.map (table.entries.map fun entry => (toValue entry.1, entry.2))
  value.written ("CaseInsensitiveDict(" ++ String.ofList value.shown ++ ")")

end Table

end AssemblyInfo.Folded

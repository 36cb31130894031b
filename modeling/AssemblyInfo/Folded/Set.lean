import AssemblyInfo.Folded.Spelling
import AssemblyInfo.Folded.Store
import AssemblyInfo.Value.Key

/-!
# Folded sets

A set of names in which case does not count. Every element is filed under its folded form, and keeps the
place and the spelling of its first insertion. Texts are the names unless others are given.
-/

namespace AssemblyInfo.Folded
open Spelling Naming

/-- A set of names in which case does not count. -/
structure Set (ν : Type := String) [Spelling ν] where
  /-- Spellings under folded forms. -/
  store : Store ν ν
  filed : ∀ slot ∈ store.slots, slot.1 = fold slot.2

namespace Set

variable {ν : Type} [DecidableEq ν] [Spelling ν]

/-- The set without elements. -/
def empty : Set ν := ⟨.empty, nofun⟩

instance : Inhabited (Set ν) := ⟨empty⟩

/-- `set.items` is the elements of `set` as they are spelled. -/
def items (set : Set ν) : List ν :=
  set.store.slots.map Prod.snd

def size (set : Set ν) : Nat :=
  set.store.slots.length

/-- `set.has item` says that `item` is an element, in whatever spelling. -/
def has (set : Set ν) (item : ν) : Bool :=
  (set.store.find? (fold item)).isSome

/-- `set.insert item` adds `item`, unless it is there in some spelling. -/
def insert (set : Set ν) (item : ν) : Set ν :=
  match set.store.find? (fold item) with
  | some _ => set
  | none =>
    ⟨set.store.put (fold item) item, by
      intro slot member
      rcases mem_putSlot member with rfl | present
      · rfl
      · exact set.filed slot present⟩

/-- `set.erase item` removes `item`, in whatever spelling it is there. -/
def erase (set : Set ν) (item : ν) : Set ν :=
  ⟨set.store.remove (fold item), fun slot member => set.filed slot (List.mem_filter.1 member).1⟩

/-- `set.insertAll items` adds `items` one after the other. -/
def insertAll (set : Set ν) (items : List ν) : Set ν :=
  items.foldl insert set

/-- `set.eraseAll items` removes `items` one after the other. -/
def eraseAll (set : Set ν) (items : List ν) : Set ν :=
  items.foldl erase set

/-- `set.toggle item` removes `item` if it is there, and adds it otherwise. -/
def toggle (set : Set ν) (item : ν) : Set ν :=
  if set.has item then set.erase item else set.insert item

/-- `set.toggleAll items` toggles `items` one after the other. -/
def toggleAll (set : Set ν) (items : List ν) : Set ν :=
  items.foldl toggle set

def ofList (items : List ν) : Set ν :=
  empty.insertAll items

/-! ### From the first element on -/

/-- `set.takeFirst` removes the first element, and gives it. -/
def takeFirst (set : Set ν) : Except Fault (ν × Set ν) :=
  match set.items with
  | [] => .error .empty
  | item :: _ => .ok (item, set.erase item)

theorem size_lt_of_takeFirst {set rest : Set ν} {item : ν}
    (taken : set.takeFirst = .ok (item, rest)) : rest.size < set.size := by
  unfold takeFirst items at taken
  cases slots : set.store.slots with
  | nil => simp [slots] at taken
  | cons slot others =>
    have here : slot ∈ set.store.slots := by
      rw [slots]
      exact List.mem_cons_self
    simp only [slots, List.map_cons, Except.ok.injEq, Prod.mk.injEq] at taken
    have smaller := Store.length_remove_lt here
    rw [set.filed slot here] at smaller
    rw [← taken.2]
    exact smaller

/-- `set.clear` removes the first element until there is none. This comes to an end since every element
is found where it is filed. -/
def clear (set : Set ν) : Set ν :=
  match _ : set.takeFirst with
  | .ok (_, rest) => rest.clear
  | .error _ => set
termination_by set.size
decreasing_by
  rename_i taken
  exact size_lt_of_takeFirst taken

/-! ### Access by arbitrary values -/

def hasValue (set : Set) (value : Value) : Bool :=
  match value.now with
  | .text item => set.has item
  | _ => false

/-- `set.put key` adds `key`. -/
def put {κ : Type} [Naming κ ν] (set : Set ν) (key : κ) : Except Fault (Set ν) := do
  return set.insert (← nameOf key)

/-- `set.discard key` removes `key` if it is there. -/
def discard {κ : Type} [Naming κ ν] (set : Set ν) (key : κ) : Except Fault (Set ν) := do
  return set.erase (← nameOf key)

/-- `set.remove value` removes `value`, which has to be there. -/
def remove (set : Set) (value : Value) : Except Fault Set :=
  if set.hasValue value then set.discard value
  else .error (.missing (String.ofList value.shown))

/-! ### Other collections -/

/-- A collection beside a folded set. -/
inductive Operand (ι : Type) where
  /-- A folded set. -/
  | folded (other : Set)
  /-- A set in which case counts; its items differ from one another. -/
  | exact (items : List ι)
  /-- A list. -/
  | list (items : List ι)

namespace Operand

def texts : Operand String → List String
  | .folded other => other.items
  | .exact items => items
  | .list items => items

def values : Operand Value → List Value
  | .folded other => other.items.map .text
  | .exact items => items
  | .list items => items

def has : Operand Value → String → Bool
  | .folded other, item => other.has item
  | .exact items, item | .list items, item => items.any fun value => value.key = [.text item]

end Operand

def covers (set : Set) (operand : Operand Value) : Bool :=
  operand.values.all set.hasValue

def within (set : Set) (operand : Operand Value) : Bool :=
  set.items.all operand.has

def isSubset (set : Set) (operand : Operand Value) : Bool :=
  set.size ≤ operand.values.length && set.within operand

/-- `set.equals operand` holds of sets with the same elements; a list equals no set. -/
def equals (set : Set) : Operand Value → Bool
  | .list _ => false
  | operand => set.size == operand.values.length && set.isSubset operand

/-- `compared relation operand answer` is `answer`, unless `operand` is a list. -/
def compared (relation : String) (operand : Operand Value) (answer : Bool) : Except Fault Bool :=
  match operand with
  | .list _ => .error (.incomparable relation (Value.list []).kind)
  | _ => .ok answer

def le (set : Set) (operand : Operand Value) : Except Fault Bool :=
  compared "<=" operand (set.isSubset operand)

def lt (set : Set) (operand : Operand Value) : Except Fault Bool :=
  compared "<" operand (set.size < operand.values.length && set.isSubset operand)

def ge (set : Set) (operand : Operand Value) : Except Fault Bool :=
  compared ">=" operand (operand.values.length ≤ set.size && set.covers operand)

/-- `set.isDisjoint operand` says that no item of `operand` is in `set`. -/
def isDisjoint (set : Set) (operand : Operand Value) : Bool :=
  !operand.values.any set.hasValue

def unite (set : Set) (operand : Operand String) : Set :=
  set.insertAll operand.texts

def subtract (set : Set) (operand : Operand String) : Set :=
  set.eraseAll operand.texts

/-- `set.symmetric operand` toggles the items of `operand`, which has to be a set. -/
def symmetric (set : Set) (operand : Operand String) : Except Fault Set :=
  match operand with
  | .list _ => .error .notBuildable
  | operand => .ok (set.toggleAll operand.texts)

/-- `set.union operand` would be a new set, which cannot be built from items. -/
def union (_ : Set) (_ : Operand String) : Except Fault Set :=
  .error .notBuildable

def shown (set : Set) : String :=
  "CaseInsensitiveSet(" ++ String.ofList (Value.list (set.items.map .text)).shown ++ ")"

end Set

end AssemblyInfo.Folded

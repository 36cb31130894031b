import AssemblyInfo.Folded.Table
import Mathlib.Data.List.Basic

/-!
# Entries of folded tables

What is filed in a folded table is known from its entries, since every entry is filed under the folded
form of its own spelling. So each operation on a table is one on the list of its entries, of which no two
have one folded name.
-/

namespace AssemblyInfo.Folded
open Spelling

variable {ν α : Type} [Spelling ν]

def foldedKeys (entries : List (ν × α)) : List ν :=
  entries.map fun entry => fold entry.1

theorem foldedKeys_cons (entry : ν × α) (rest : List (ν × α)) :
    foldedKeys (entry :: rest) = fold entry.1 :: foldedKeys rest := rfl

/-- `filedEntry entry` is `entry` under the folded form of its spelling. -/
def filedEntry (entry : ν × α) : ν × ν × α :=
  (fold entry.1, entry)

variable [DecidableEq ν]

/-- `insertEntry name value entries` replaces the value under `name`, or adds an entry at the end. -/
def insertEntry (name : ν) (value : α) : List (ν × α) → List (ν × α)
  | [] => [(name, value)]
  | (present, old) :: rest =>
    if fold present = fold name then (present, value) :: rest
    else (present, old) :: insertEntry name value rest

def eraseEntry (name : ν) (entries : List (ν × α)) : List (ν × α) :=
  entries.filter fun entry => fold entry.1 ≠ fold name

/-- `entryOf? name entries` is the entry under `name`, if there is one. -/
def entryOf? (name : ν) (entries : List (ν × α)) : Option (ν × α) :=
  entries.find? fun entry => fold entry.1 = fold name

theorem insertEntry_of_absent {name : ν} {entries : List (ν × α)}
    (absent : fold name ∉ foldedKeys entries) (value : α) :
    insertEntry name value entries = entries ++ [(name, value)] := by
  induction entries with
  | nil => rfl
  | cons entry rest ih =>
    obtain ⟨present, old⟩ := entry
    rw [foldedKeys_cons, List.mem_cons, not_or] at absent
    rw [insertEntry, if_neg (Ne.symm absent.1), ih absent.2, List.cons_append]

/-- `spellingIn name entries` is `name` as it is spelled in `entries`, and `name` itself if it is not
there. -/
def spellingIn (name : ν) (entries : List (ν × α)) : ν :=
  ((entryOf? name entries).map Prod.fst).getD name

theorem map_putSlot_filedEntry (name : ν) (value : α) (entries : List (ν × α)) :
    (putSlot (fold name) (spellingIn name entries, value) (entries.map filedEntry)).map Prod.snd =
      insertEntry name value entries := by
  induction entries with
  | nil => rfl
  | cons entry rest ih =>
    obtain ⟨present, old⟩ := entry
    rw [List.map_cons, filedEntry, putSlot, insertEntry]
    by_cases same : fold present = fold name
    · have spelled : spellingIn name ((present, old) :: rest) = present := by
        unfold spellingIn entryOf?
        rw [List.find?_cons_of_pos (by simpa using same)]
        rfl
      rw [if_pos same, if_pos same, spelled, List.map_cons, List.map_map]
      exact congrArg _ (List.map_id rest)
    · have spelled : spellingIn name ((present, old) :: rest) = spellingIn name rest := by
        unfold spellingIn entryOf?
        rw [List.find?_cons_of_neg (by simpa using same)]
      rw [if_neg same, if_neg same, spelled, List.map_cons, ih]

namespace Table

omit [DecidableEq ν] in
theorem slots_eq (table : Table ν α) : table.store.slots = table.entries.map filedEntry := by
  unfold entries
  rw [List.map_map]
  refine (List.map_id _).symm.trans (List.map_congr_left ?_)
  intro slot member
  exact Prod.ext (table.filed slot member) rfl

omit [DecidableEq ν] in
theorem nodup_foldedKeys (table : Table ν α) : (foldedKeys table.entries).Nodup := by
  have distinct := table.store.distinct
  rw [slots_eq, List.map_map] at distinct
  exact distinct

theorem entry?_eq (table : Table ν α) (name : ν) : table.entry? name = entryOf? name table.entries := by
  unfold entry? Store.find?
  rw [slots_eq, List.find?_map, Option.map_map]
  exact congrFun Option.map_id _

theorem spelling_eq (table : Table ν α) (name : ν) : table.spelling name = spellingIn name table.entries := by
  unfold spelling spellingIn
  rw [entry?_eq]

theorem entries_insert (table : Table ν α) (name : ν) (value : α) :
    (table.insert name value).entries = insertEntry name value table.entries := by
  rw [← map_putSlot_filedEntry, ← slots_eq, ← spelling_eq]
  rfl

end Table

end AssemblyInfo.Folded

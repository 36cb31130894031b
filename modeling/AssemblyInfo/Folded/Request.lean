import AssemblyInfo.Folded.Table

/-!
# Requests

What can be asked of a folded table, one request after the other. A request that fails leaves the table
as it is, apart from an update, which stops at the first key that is no name.
-/

namespace AssemblyInfo.Folded

/-- A request to a table. -/
inductive Request (κ α : Type) where
  | set (key : κ) (value : α)
  | get (key : κ)
  | getOr (key : κ) (other : α)
  | delete (key : κ)
  | pop (key : κ)
  | popOr (key : κ) (other : α)
  | popFirst
  | getOrSet (key : κ) (value : α)
  | update (pairs : List (κ × α))
  | clear
  | contains (key : κ)

/-- The answer to a request. -/
inductive Reply (ν α : Type) where
  | done
  | value (value : α)
  | entry (name : ν) (value : α)
  | flag (holds : Bool)

/-- `settled state outcome` is the answer of `outcome` and the state after it, which is `state` if
`outcome` is a fault. -/
def settled {σ ρ : Type} (state : σ) (outcome : Except Fault (ρ × σ)) : Except Fault ρ × σ :=
  match outcome with
  | .ok (reply, next) => (.ok reply, next)
  | .error fault => (.error fault, state)

namespace Table

variable {κ ν α : Type} [DecidableEq ν] [Spelling ν] [Naming κ ν]

/-- `table.answer request` is the answer to `request`, and the table after it. -/
def answer (table : Table ν α) : Request κ α → Except Fault (Reply ν α) × Table ν α
  | .set key value => settled table ((table.put key value).map fun next => (.done, next))
  | .get key => ((table.fetch key).map .value, table)
  | .getOr key other => ((table.find key).map fun found => .value (found.getD other), table)
  | .delete key => settled table ((table.remove key).map fun next => (.done, next))
  | .pop key => settled table ((table.take key).map fun (value, next) => (.value value, next))
  | .popOr key other =>
    settled table ((table.takeOr key other).map fun (value, next) => (.value value, next))
  | .popFirst => settled table (table.takeFirst.map fun (entry, next) => (.entry entry.1 entry.2, next))
  | .getOrSet key value =>
    settled table ((table.fetchOrPut key value).map fun (present, next) => (.value present, next))
  | .update pairs =>
    let (outcome, next) := table.putAll pairs
    (outcome.map fun _ => .done, next)
  | .clear => (.ok .done, table.clear)
  | .contains key => ((table.hasKey key).map .flag, table)

end Table

end AssemblyInfo.Folded

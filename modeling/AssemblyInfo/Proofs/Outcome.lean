import AssemblyInfo.Fault

/-!
# Outcomes

Where the outcome of several steps comes from: the last one, if none of them fails, and else the first
that fails.
-/

namespace AssemblyInfo

variable {ε α β : Type} {fault : ε} {result : β}

theorem ok_bind (value : α) (next : α → Except ε β) : (Except.ok value >>= next) = next value := rfl

theorem bind_eq_ok {first : Except ε α} {next : α → Except ε β} :
    (first >>= next) = .ok result ↔ ∃ value, first = .ok value ∧ next value = .ok result := by
  cases first with
  | error fault => exact ⟨nofun, nofun⟩
  | ok value => exact ⟨fun same => ⟨value, rfl, same⟩, fun ⟨_, same, rest⟩ => Except.ok.inj same ▸ rest⟩

theorem bind_eq_error {first : Except ε α} {next : α → Except ε β} :
    (first >>= next) = .error fault ↔
      first = .error fault ∨ ∃ value, first = .ok value ∧ next value = .error fault := by
  cases first with
  | error other => exact ⟨Or.inl ∘ congrArg _ ∘ Except.error.inj, fun | .inl same => by rw [same]; rfl⟩
  | ok value =>
    exact ⟨fun same => Or.inr ⟨value, rfl, same⟩, fun | .inr ⟨_, same, rest⟩ => Except.ok.inj same ▸ rest⟩

theorem map_eq_ok {outcome : Except ε α} {f : α → β} :
    outcome.map f = .ok result ↔ ∃ value, outcome = .ok value ∧ f value = result := by
  cases outcome with
  | error fault => exact ⟨nofun, nofun⟩
  | ok value =>
    exact ⟨fun same => ⟨value, rfl, Except.ok.inj same⟩, fun ⟨_, same, rest⟩ =>
      congrArg _ (Except.ok.inj same ▸ rest)⟩

theorem map_eq_error {outcome : Except ε α} {f : α → β} :
    outcome.map f = .error fault ↔ outcome = .error fault := by
  cases outcome with
  | error other => exact ⟨congrArg _ ∘ Except.error.inj, congrArg _ ∘ Except.error.inj⟩
  | ok value => exact ⟨nofun, nofun⟩

theorem eq_ok_of_toOption {outcome : Except ε α} {value : α} (present : outcome.toOption = some value) :
    outcome = .ok value := by
  cases outcome with
  | error fault => cases present
  | ok other => exact congrArg _ (Option.some.inj present)

/-- `fault? outcome` is the fault that `outcome` is, if it is one. -/
def fault? : Except Fault α → Option Fault
  | .error fault => some fault
  | .ok _ => none

theorem eq_error_of_fault? {fault : Fault} {outcome : Except Fault α} (failed : fault? outcome = some fault) :
    outcome = .error fault := by
  cases outcome with
  | error other => exact congrArg _ (Option.some.inj failed)
  | ok value => cases failed

theorem exists_ok_of_fault? {outcome : Except Fault α} (passed : fault? outcome = none) :
    ∃ value, outcome = .ok value := by
  cases outcome with
  | error other => cases passed
  | ok value => exact ⟨value, rfl⟩

theorem exists_ok_of_any {outcome : Except ε α} {check : α → Bool}
    (passed : outcome.toOption.any check = true) : ∃ value, outcome = .ok value ∧ check value = true := by
  cases outcome with
  | error other => cases passed
  | ok value => exact ⟨value, rfl, passed⟩

/-- `endsIn check ran` says that `ran` is a result with a state, and that they pass `check`. -/
def endsIn (check : α → β → Bool) : Except ε α × β → Bool
  | (.ok value, after) => check value after
  | (.error _, _) => false

theorem exists_ok_of_endsIn {check : α → β → Bool} {ran : Except ε α × β} (ends : endsIn check ran = true) :
    ∃ value after, ran = (.ok value, after) ∧ check value after = true := by
  obtain ⟨outcome, after⟩ := ran
  cases outcome with
  | error other => cases ends
  | ok value => exact ⟨value, after, rfl, ends⟩

end AssemblyInfo

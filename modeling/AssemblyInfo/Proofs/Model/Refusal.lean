import AssemblyInfo.Proofs.Model.Operation
import AssemblyInfo.Proofs.Settings.Typed

/-!
# Refused calls

Calls that write an attribute, with arguments of any kind. A call that is refused leaves the model as it
was, unless it is refused for its name space: then the attribute has been written by then. A name space
that is a text or bytes, or null, is never refused.
-/

namespace AssemblyInfo
open Folded Spelling Naming

namespace Model

/-- A call that writes an attribute. -/
inductive Writing (α : Type) where
  | core (target : ModelTable) (name nameSpace : Value) (content : α)
  | wellKnown (name nameSpace value : Value)
  | custom (name nameSpace value : Value)
  | metadata (nameSpace key value : Value)

variable {ν α : Type} [DecidableEq ν] [Spelling ν] [Naming Value ν] [Content α]

namespace Writing

/-- `writing.perform` is the edit that `writing` makes. -/
def perform : Writing α → Edit ν α
  | core target name nameSpace content => put target name nameSpace content
  | wellKnown name nameSpace value => putAttribute name nameSpace value
  | custom name nameSpace value => putCustom name nameSpace value
  | metadata nameSpace key value => putMetadata nameSpace key value

omit [Content α]

def target : Writing α → ModelTable
  | core target .. => target
  | wellKnown .. => .attributes
  | custom .. => .customAttributes
  | metadata .. => .metadataAttributes

def nameSpace : Writing α → Value
  | core _ _ nameSpace _ | wellKnown _ nameSpace _ | custom _ nameSpace _ | metadata nameSpace _ _ => nameSpace

/-- `writing.unspaced` is `writing` with null as its name space. -/
def unspaced : Writing α → Writing α
  | core target name _ content => core target name .null content
  | wellKnown name _ value => wellKnown name .null value
  | custom name _ value => custom name .null value
  | metadata _ key value => metadata .null key value

theorem puts_perform [Content α] (writing : Writing α) :
    ∃ skipped named, Puts skipped (writing.perform : Edit ν α) writing.unspaced.perform writing.target named
      writing.nameSpace := by
  cases writing with
  | core target name nameSpace content => exact ⟨false, (· = name), puts_put rfl⟩
  | wellKnown name nameSpace value => exact ⟨_, _, puts_putAttribute name nameSpace value⟩
  | custom name nameSpace value => exact ⟨_, _, puts_putCustom name nameSpace value⟩
  | metadata nameSpace key value => exact ⟨_, _, puts_putMetadata nameSpace key value⟩

end Writing

/-- `Strayed writing fault before after` says that the name space of `writing` is wanted but refused because of
`fault`, and that `after` is what `writing` makes of `before` without its name space: one entry is written. -/
structure Strayed (writing : Writing α) (fault : Fault) (before after : Model ν α) : Prop where
  wanted : writing.nameSpace.isTruthy = true
  noName : (nameOf writing.nameSpace : Except Fault ν) = .error fault
  written : writing.unspaced.perform before = (.ok (), after)
  oneEntry : ∃ name content,
    after = before.setTable writing.target ((before.table writing.target).insert name content)

section Refused

variable {target : ModelTable} {nameSpace : Value} {fault : Fault} {model left : Model ν α}

omit [Content α] in
theorem require_of_refused (refused : require nameSpace model = (.error fault, left)) :
    left = model ∧ nameSpace.isTruthy = true ∧ (nameOf nameSpace : Except Fault ν) = .error fault := by
  unfold require at refused
  split at refused
  · rename_i wanted
    refine ⟨onSet_of_refused refused, wanted, ?_⟩
    unfold addTo onSet Set.put at refused
    cases named : (nameOf nameSpace : Except Fault ν) with
    | ok name =>
      rw [named] at refused
      cases refused
    | error other =>
      rw [named] at refused
      exact congrArg _ (Except.error.inj (Prod.mk.inj refused).1)
  · cases refused

omit [Content α] in
theorem exists_name_of_written {name : Value} {content : α} {next : Model ν α}
    (written : onTable target (fun table => table.put name content) model = (.ok (), next)) :
    ∃ key, next = model.setTable target ((model.table target).insert key content) := by
  unfold onTable Table.put at written
  cases named : (nameOf name : Except Fault ν) with
  | ok key =>
    rw [named] at written
    exact ⟨key, (Prod.mk.inj written).2.symm⟩
  | error other =>
    rw [named] at written
    cases written

omit [Content α] in
theorem put_of_refused {name : Value} {content : α}
    (refused : put target name nameSpace content model = (.error fault, left)) :
    left = model ∨ nameSpace.isTruthy = true ∧ (nameOf nameSpace : Except Fault ν) = .error fault ∧
      put target name .null content model = (.ok (), left) ∧
      ∃ key, left = model.setTable target ((model.table target).insert key content) := by
  rw [put, runAll] at refused
  split at refused
  · rename_i next written
    rw [runAll] at refused
    split at refused
    · cases refused
    · obtain ⟨rfl, wanted, noName⟩ := require_of_refused refused
      refine Or.inr ⟨wanted, noName, ?_, exists_name_of_written written⟩
      rw [put, runAll, written]
      rfl
  · exact Or.inl (onTable_of_refused refused)

theorem perform_of_refused {writing : Writing α} (refused : writing.perform model = (.error fault, left)) :
    left = model ∨ Strayed writing fault model left := by
  obtain ⟨skipped, named, ⟨-, same, -⟩ | ⟨-, ⟨other, same, -⟩ | ⟨name, content, -, same, bare⟩⟩⟩ :=
    @Writing.puts_perform ν α _ _ _ _ writing
  · rw [same] at refused
    cases refused
  · rw [same] at refused
    exact Or.inl (Prod.mk.inj refused).2.symm
  · rw [same] at refused
    rcases put_of_refused refused with unchanged | ⟨wanted, noName, written, key, oneEntry⟩
    · exact Or.inl unchanged
    · exact Or.inr ⟨wanted, noName, by rw [bare, written], key, content, oneEntry⟩

end Refused

/-! ### Runs of calls -/

/-- `model.written writings` is `model` after `writings`, whether they are refused or not. -/
def written (model : Model ν α) (writings : List (Writing α)) : Model ν α :=
  writings.foldl (fun state writing => (writing.perform state).2) model

/-- `model.accepted writings` is those of `writings` that are not refused when they are done one after the
other. -/
def accepted (model : Model ν α) : List (Writing α) → List (Writing α)
  | [] => []
  | writing :: rest =>
    match writing.perform model with
    | (.ok (), next) => writing :: next.accepted rest
    | (.error _, left) => left.accepted rest

/-! ### Names that are texts or bytes -/

end Model

end AssemblyInfo

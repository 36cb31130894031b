import AssemblyInfo.Model.Build
import AssemblyInfo.Proofs.Folded.Insertion

/-!
# Edits as insertions

The edits that build a model each come down to a list of insertions that cannot fail. Every collection
of the model then holds the insertions meant for it, in their order, whatever stands between them.
-/

namespace AssemblyInfo
open Folded

namespace Model

/-- An insertion into the collections of a model. -/
inductive Insertion where
  /-- An attribute and the name space that it needs. -/
  | entry (target : ModelTable) (name : String) (needed : Option String) (text : String)
  /-- A declaration that gives access to internals. -/
  | internals (fragment : String)
  /-- A name space. -/
  | required (name : String)
  deriving DecidableEq, Repr

namespace Insertion

/-- `insertion.pair? target` is the name and the text that go into the table `target`. -/
def pair? (target : ModelTable) : Insertion → Option (String × String)
  | .entry table name _ text => if table = target then some (name, text) else none
  | _ => none

/-- `insertion.fragment?` is what goes into the declarations that give access to internals. -/
def fragment? : Insertion → Option String
  | .internals fragment => some fragment
  | _ => none

/-- `insertion.nameSpace?` is the name space that is needed; an empty one is none. -/
def nameSpace? : Insertion → Option String
  | .entry _ _ needed _ => needed.filter (· != "")
  | .required name => some name
  | .internals _ => none

end Insertion

/-- `model.insert insertion` is `model` after `insertion`. -/
def insert (model : Model) : Insertion → Model
  | .entry target name needed text =>
    let filled := model.setTable target ((model.table target).insert name text)
    match needed.filter (· != "") with
    | some nameSpace => { filled with nameSpaces := filled.nameSpaces.insert nameSpace }
    | none => filled
  | .internals fragment =>
    { model with internalsVisibleTo := model.internalsVisibleTo.insert fragment }
  | .required name => { model with nameSpaces := model.nameSpaces.insert name }

/-- `model.insertAll insertions` is `model` after all `insertions`. -/
def insertAll (model : Model) (insertions : List Insertion) : Model :=
  insertions.foldl insert model

theorem insertAll_append (model : Model) (first second : List Insertion) :
    model.insertAll (first ++ second) = (model.insertAll first).insertAll second :=
  List.foldl_append

/-! ### What the collections hold -/

theorem table_setTable (model : Model) (target other : ModelTable) (table : Table String String) :
    (model.setTable target table).table other = if target = other then table else model.table other := by
  cases target <;> cases other <;> rfl

theorem entries_insert (model : Model) (insertion : Insertion) (target : ModelTable) :
    ((model.insert insertion).table target).entries =
      insertPairs (model.table target).entries (insertion.pair? target).toList := by
  cases insertion with
  | internals fragment => cases target <;> rfl
  | required name => cases target <;> rfl
  | entry table name needed text =>
    have filled : ∀ grown : Model, grown.table target =
        (model.setTable table ((model.table table).insert name text)).table target →
        (grown.table target).entries =
          insertPairs (model.table target).entries
            ((Insertion.entry table name needed text).pair? target).toList := by
      intro grown same
      rw [same, table_setTable, Insertion.pair?]
      split
      · rename_i here
        subst here
        exact Table.entries_insert _ name text
      · rfl
    apply filled
    rw [insert]
    split <;> cases target <;> rfl

theorem entries_insertAll (model : Model) (insertions : List Insertion) (target : ModelTable) :
    ((model.insertAll insertions).table target).entries =
      insertPairs (model.table target).entries (insertions.filterMap (Insertion.pair? target)) := by
  induction insertions generalizing model with
  | nil => rfl
  | cons insertion rest ih =>
    rw [insertAll, List.foldl_cons]
    refine (ih (model.insert insertion)).trans ?_
    rw [entries_insert, List.filterMap_cons]
    cases insertion.pair? target <;> rfl

theorem internalsVisibleTo_insert (model : Model) (insertion : Insertion) :
    (model.insert insertion).internalsVisibleTo =
      model.internalsVisibleTo.insertAll insertion.fragment?.toList := by
  cases insertion with
  | internals fragment => rfl
  | required name => rfl
  | entry target name needed text =>
    rw [insert]
    split <;> cases target <;> rfl

theorem internalsVisibleTo_insertAll (model : Model) (insertions : List Insertion) :
    (model.insertAll insertions).internalsVisibleTo =
      model.internalsVisibleTo.insertAll (insertions.filterMap Insertion.fragment?) := by
  induction insertions generalizing model with
  | nil => rfl
  | cons insertion rest ih =>
    rw [insertAll, List.foldl_cons]
    refine (ih (model.insert insertion)).trans ?_
    rw [internalsVisibleTo_insert, List.filterMap_cons]
    cases insertion.fragment? <;> rfl

theorem nameSpaces_insert (model : Model) (insertion : Insertion) :
    (model.insert insertion).nameSpaces =
      model.nameSpaces.insertAll insertion.nameSpace?.toList := by
  cases insertion with
  | internals fragment => rfl
  | required name => rfl
  | entry target name needed text =>
    rw [insert, Insertion.nameSpace?]
    cases needed.filter (· != "") <;> cases target <;> rfl

theorem nameSpaces_insertAll (model : Model) (insertions : List Insertion) :
    (model.insertAll insertions).nameSpaces =
      model.nameSpaces.insertAll (insertions.filterMap Insertion.nameSpace?) := by
  induction insertions generalizing model with
  | nil => rfl
  | cons insertion rest ih =>
    rw [insertAll, List.foldl_cons]
    refine (ih (model.insert insertion)).trans ?_
    rw [nameSpaces_insert, List.filterMap_cons]
    cases insertion.nameSpace? <;> rfl

/-! ### Edits that cannot fail -/

/-- `Inserts edit insertions` says that `edit` does `insertions` and cannot fail. -/
def Inserts (edit : Edit) (insertions : List Insertion) : Prop :=
  ∀ model, edit model = (.ok (), model.insertAll insertions)

theorem inserts_unchanged : Inserts unchanged [] := fun _ => rfl

theorem runAll_append {first second : List Edit} {model next : Model}
    (done : runAll first model = (.ok (), next)) :
    runAll (first ++ second) model = runAll second next := by
  induction first generalizing model with
  | nil => rw [(Prod.mk.inj done).2.symm, List.nil_append]
  | cons edit rest ih =>
    rw [runAll] at done
    rw [List.cons_append, runAll]
    split at done
    · exact ih done
    · rename_i other
      exact (other next done).elim

theorem runAll_append_of_failed {first second : List Edit} {model left : Model} {fault : Fault}
    (failed : runAll first model = (.error fault, left)) :
    runAll (first ++ second) model = (.error fault, left) := by
  induction first generalizing model with
  | nil => cases failed
  | cons edit rest ih =>
    rw [runAll] at failed
    rw [List.cons_append, runAll]
    split at failed
    · exact ih failed
    · exact failed

/-- Edits that all succeed split where their list does. -/
theorem runAll_append_eq_ok {first second : List Edit} {model final : Model}
    (done : runAll (first ++ second) model = (.ok (), final)) :
    ∃ middle, runAll first model = (.ok (), middle) ∧ runAll second middle = (.ok (), final) := by
  cases outcome : runAll first model with
  | mk answer middle =>
    cases answer with
    | ok =>
      rw [runAll_append outcome] at done
      exact ⟨middle, rfl, done⟩
    | error fault =>
      rw [runAll_append_of_failed outcome] at done
      cases done

theorem runAll_map {α : Type} {edit : α → Edit} {insertions : α → List Insertion} {items : List α}
    (each : ∀ item ∈ items, Inserts (edit item) (insertions item)) :
    Inserts (runAll (items.map edit)) (items.flatMap insertions) := by
  induction items with
  | nil => exact inserts_unchanged
  | cons item rest ih =>
    rw [List.forall_mem_cons] at each
    intro model
    rw [List.map_cons, runAll, each.1 model, List.flatMap_cons, insertAll_append]
    exact ih each.2 _

theorem inserts_require (nameSpace : Option String) :
    Inserts (require (.ofText? nameSpace))
      ((nameSpace.filter (· != "")).map Insertion.required).toList := by
  intro model
  cases nameSpace with
  | none => rfl
  | some name =>
    by_cases empty : name = ""
    · subst empty
      rfl
    · have kept : (some name).filter (· != "") = some name := by simp [empty]
      rw [kept, require, Value.ofText?, Value.isTruthy, if_pos (bne_iff_ne.2 empty)]
      rfl

/-- Writing an attribute cannot fail if its name is a text, and its name space a text or null. -/
theorem inserts_put (target : ModelTable) (name : String) (nameSpace : Option String) (text : String) :
    Inserts (put target (.text name) (.ofText? nameSpace) text)
      [.entry target name nameSpace text] := by
  intro model
  have written : onTable target (fun table => table.put (Value.text name) text) model =
      (.ok (), model.setTable target ((model.table target).insert name text)) := rfl
  rw [put, runAll, written]
  change runAll [require (.ofText? nameSpace)] (model.setTable target _) = _
  rw [runAll, inserts_require]
  refine congrArg (Prod.mk (Except.ok ())) ?_
  change _ = model.insert (.entry target name nameSpace text)
  rw [insert]
  cases nameSpace.filter (· != "") <;> rfl

end Model

end AssemblyInfo

import AssemblyInfo.Folded.Set
import AssemblyInfo.Folded.Table
import AssemblyInfo.Json.OfValue

/-!
# Attribute models

The attributes of an assembly, each once, and the name spaces that they need. Every insertion goes
through `put`, which writes an attribute first and then its name space; a fault in between leaves
the attribute written. Names and contents are texts unless others are given.
-/

namespace AssemblyInfo
open Folded

/-- What can be written of an attribute, texts in any case. -/
class Content (α : Type) where
  ofText : String → α

instance : Content String where
  ofText text := text

instance : Content Value where
  ofText := .text

/-- The attributes of an assembly. -/
structure Model (ν : Type := String) (α : Type := String) [Spelling ν] where
  attributes : Table ν α
  customAttributes : Table ν α
  metadataAttributes : Table ν α
  nameSpaces : Folded.Set ν
  internalsVisibleTo : Folded.Set ν

/-- One of the tables of a model. -/
inductive ModelTable where
  | attributes
  | customAttributes
  | metadataAttributes
  deriving DecidableEq, Repr

/-- One of the sets of a model. -/
inductive ModelSet where
  | nameSpaces
  | internalsVisibleTo
  deriving DecidableEq, Repr

/-! ### Arguments -/

/-- `quote text` is `text` between double quotes, as it is. -/
def quote (text : String) : String :=
  "\"" ++ text ++ "\""

/-- `stripQuotes chars` is `chars` without the double quotes at both ends. -/
def stripQuotes (chars : List Char) : List Char :=
  let rest := chars.dropWhile (· == '"')
  (rest.reverse.dropWhile (· == '"')).reverse

/-- `isWrapped chars` says that `chars` has two characters or more, a double quote at either end. -/
def isWrapped (chars : List Char) : Bool :=
  2 ≤ chars.length && chars.head? == some '"' && chars.getLast? == some '"'

/-- `unquote text` is `text` without the double quotes around it, if there are any at both ends. -/
def unquote (text : String) : String :=
  if isWrapped text.toList then String.ofList (stripQuotes text.toList) else text

/-- `unquoteValue value` is the text of `value` without the double quotes around it. Of other
values than texts only collections have a length, and those of one item or none have no ends to
look at. -/
def unquoteValue (value : Value) : Except Fault String :=
  let short := fun (length : Nat) (fault : Fault) =>
    if length < 2 then value.writtenText else .error fault
  match value.now with
  | .text s => .ok (unquote s)
  | .bytes data => short data.length .bytesNotQuotable
  | .list items | .tuple items | .set _ items => short items.length (.notQuotable value.kind)
  | .map entries => short entries.length (.notQuotable value.kind)
  | _ => .error (.noLength value.kind)

def flagText (flag : Bool) : String :=
  if flag then "true" else "false"

namespace Model

variable {ν α : Type} [DecidableEq ν] [Spelling ν]

/-- The model without attributes. -/
def empty : Model ν α := ⟨.empty, .empty, .empty, .empty, .empty⟩

instance : Inhabited (Model ν α) := ⟨empty⟩

def table (model : Model ν α) : ModelTable → Table ν α
  | .attributes => model.attributes
  | .customAttributes => model.customAttributes
  | .metadataAttributes => model.metadataAttributes

def setTable (model : Model ν α) (target : ModelTable) (table : Table ν α) : Model ν α :=
  match target with
  | .attributes => { model with attributes := table }
  | .customAttributes => { model with customAttributes := table }
  | .metadataAttributes => { model with metadataAttributes := table }

def set (model : Model ν α) : ModelSet → Folded.Set ν
  | .nameSpaces => model.nameSpaces
  | .internalsVisibleTo => model.internalsVisibleTo

def setSet (model : Model ν α) (target : ModelSet) (set : Folded.Set ν) : Model ν α :=
  match target with
  | .nameSpaces => { model with nameSpaces := set }
  | .internalsVisibleTo => { model with internalsVisibleTo := set }

/-- What an edit leaves: whether it failed, and the model in either case. -/
abbrev Outcome (ν : Type := String) (α : Type := String) [Spelling ν] := Except Fault Unit × Model ν α

/-- A change of a model. -/
abbrev Edit (ν : Type := String) (α : Type := String) [Spelling ν] := Model ν α → Outcome ν α

def unchanged : Edit ν α := fun model => (.ok (), model)

def refuse (fault : Fault) : Edit ν α := fun model => (.error fault, model)

/-- `runAll edits model` runs `edits` one after the other, up to the first that fails. -/
def runAll : List (Edit ν α) → Edit ν α
  | [], model => (.ok (), model)
  | edit :: rest, model =>
    match edit model with
    | (.ok (), next) => runAll rest next
    | failed => failed

def onSet (target : ModelSet) (change : Folded.Set ν → Except Fault (Folded.Set ν)) : Edit ν α :=
  fun model =>
    match change (model.set target) with
    | .ok set => (.ok (), model.setSet target set)
    | .error fault => (.error fault, model)

def onTable (target : ModelTable) (change : Table ν α → Except Fault (Table ν α)) : Edit ν α :=
  fun model =>
    match change (model.table target) with
    | .ok table => (.ok (), model.setTable target table)
    | .error fault => (.error fault, model)

variable [Naming Value ν]

def addTo (target : ModelSet) (value : Value) : Edit ν α :=
  onSet target fun set => set.put value

def discardFrom (target : ModelSet) (value : Value) : Edit ν α :=
  onSet target fun set => set.discard value

def removeFrom (target : ModelTable) (key : Value) : Edit ν α :=
  onTable target fun table => table.remove key

/-- `require nameSpace` adds `nameSpace`, unless it is null or empty. -/
def require (nameSpace : Value) : Edit ν α :=
  if nameSpace.isTruthy then addTo .nameSpaces nameSpace else unchanged

/-- `put target name nameSpace content` writes `content` under `name` and adds the name space. -/
def put (target : ModelTable) (name nameSpace : Value) (content : α) : Edit ν α :=
  runAll [onTable target fun table => table.put name content, require nameSpace]

variable [Content α]

/-- `putAttribute name nameSpace value` writes a well-known attribute, unless `value` is null. -/
def putAttribute (name nameSpace value : Value) : Edit ν α :=
  match value.now with
  | .null => unchanged
  | .bool flag => put .attributes name nameSpace (Content.ofText (flagText flag))
  | value =>
    match value.writtenText with
    | .ok text => put .attributes name nameSpace (Content.ofText (quote text))
    | .error fault => refuse fault

/-- `putCustom name nameSpace value` writes a custom attribute, unless `name` or `value` is null. -/
def putCustom (name nameSpace value : Value) : Edit ν α :=
  match name.now, value.now with
  | .null, _ => unchanged
  | _, .null => unchanged
  | name, .text s => put .customAttributes name nameSpace (Content.ofText (quote s))
  | name, value =>
    match value.serialise with
    | .ok text => put .customAttributes name nameSpace (Content.ofText text)
    | .error fault => refuse fault

/-- `putMetadata nameSpace key value` writes a metadata attribute, unless `key` or `value` is
null. -/
def putMetadata (nameSpace key value : Value) : Edit ν α :=
  match key.now, value.now with
  | .null, _ => unchanged
  | _, .null => unchanged
  | key, value =>
    match key.writtenText, value.writtenText with
    | .ok name, .ok text => put .metadataAttributes (.text (quote name)) nameSpace (Content.ofText (quote text))
    | .error fault, _ => refuse fault
    | _, .error fault => refuse fault

end Model

end AssemblyInfo

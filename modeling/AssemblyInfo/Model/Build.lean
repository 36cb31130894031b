import AssemblyInfo.Declaration
import AssemblyInfo.Log.Record
import AssemblyInfo.Model.Basic
import AssemblyInfo.Settings.Basic

/-!
# Models of settings

The attributes that settings ask for: well-known ones, access to internals, custom ones and
metadata, in this order.
-/

namespace AssemblyInfo
open Folded

/-- The name space of the attribute that gives access to internals. -/
def internalsNameSpace : String := "System.Runtime.CompilerServices"

def internalsFragment (name : String) : String :=
  internalsVisibleToName ++ "(" ++ quote name ++ ")"

/-- `value.iterated` is the items of `value`, whatever collection it is. -/
def Value.iterated (value : Value) : Except Fault (List Value) :=
  match value.now with
  | .text s => .ok (s.toList.map fun c => .text (String.ofList [c]))
  | .bytes data => .ok (data.map fun byte => .int byte.toNat)
  | .list items | .tuple items | .set _ items => .ok items
  | .map entries => .ok (entries.map Prod.fst)
  | value => .error (.notIterable value.kind)

namespace Model

section
variable {ν α : Type} [DecidableEq ν] [Spelling ν] [Naming Value ν]

/-- `allow item` gives the assembly `item` access to internals, unless it is null. -/
def allow (item : Value) : Edit ν α :=
  match item.now with
  | .null => unchanged
  | item =>
    match unquoteValue item with
    | .ok name => addTo .internalsVisibleTo (.text (internalsFragment name))
    | .error fault => refuse fault

/-- `requireInternals` adds the name space for access to internals, if any assembly has it. -/
def requireInternals : Edit ν α := fun model =>
  if model.internalsVisibleTo.items.isEmpty then unchanged model
  else addTo .nameSpaces (.text internalsNameSpace) model

/-- `internalsEdits value` gives access to internals to the items of `value`. -/
def internalsEdits (value : Value) : List (Edit ν α) :=
  match value.now with
  | .null => []
  | value =>
    match value.iterated with
    | .ok items => items.map allow ++ [requireInternals]
    | .error fault => [refuse fault]

variable [Content α]

def fieldEdit (settings : Settings) (field : Field) : Edit ν α :=
  putAttribute (.text field.attributeName) (.text field.nameSpace) (settings.value field)

def customEdit (custom : CustomAttribute) : Edit ν α :=
  putCustom (.ofText? custom.name) (.ofText? custom.nameSpace) custom.value

def metadataEdit (metadata : MetadataAttribute) : Edit ν α :=
  putMetadata (.ofText? metadata.nameSpace) (.ofText? metadata.key) (.ofText? metadata.value)

/-- `given items` is the items of an optional list of optional items. -/
def given {ι : Type} (items : Option (List (Option ι))) : List ι :=
  (items.getD []).filterMap id

/-- `edits settings` is everything that settings ask for. -/
def edits (settings : Settings) : List (Edit ν α) :=
  Field.all.map (fieldEdit settings) ++ internalsEdits settings.internalsVisibleTo ++
    (given settings.customAttributes).map customEdit ++
    (given settings.metadataAttributes).map metadataEdit

end

/-- `build settings` is the model of `settings`. -/
def build (settings : Settings) : Except Fault Model :=
  match runAll (edits settings) empty with
  | (.ok (), model) => .ok model
  | (.error fault, _) => .error fault

def record (model : Model) : Log.Record :=
  Log.debug "creator.data" ("Built attribute model: " ++ toString model.attributes.size ++
    " well-known, " ++ toString model.customAttributes.size ++ " custom, " ++
    toString model.metadataAttributes.size ++ " metadata, " ++
    toString model.nameSpaces.size ++ " namespace(s)")

end Model

end AssemblyInfo

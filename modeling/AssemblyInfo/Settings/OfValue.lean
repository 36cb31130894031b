import AssemblyInfo.Settings.Basic
import AssemblyInfo.Text.Blank
import AssemblyInfo.Text.LowerCase
import AssemblyInfo.Value.Key
import AssemblyInfo.Value.Text

/-!
# Settings from a mapping

A mapping gives settings: unknown keys are passed over, a scalar of another kind is turned into the
wanted one, and what cannot be turned is left out. Only an integer that is too long to be written
stands in the way, where its text is wanted.
-/

namespace AssemblyInfo
open Text

namespace Value

/-- `value.scalarText?` is the text of a text, number or flag. -/
def scalarText? : Value → Option String
  | .text s => some s
  | .int n => some (Value.int n).display
  | .float x => some (Value.float x).display
  | .notANumber label => some (Value.notANumber label).display
  | .bool flag => some (Value.bool flag).display
  | .later part => (part ()).scalarText?
  | _ => none

/-- The words for a flag that is set. -/
def trueWords : List String := ["true", "yes", "1"]

/-- The words for a flag that is not set. -/
def falseWords : List String := ["false", "no", "0"]

/-- `flagOfWord? s` is the flag that `s` is a word for, in any case and between blanks. -/
def flagOfWord? (s : String) : Option Bool :=
  let word := String.ofList (lowerChars (trim s.toList))
  if trueWords.contains word then some true
  else if falseWords.contains word then some false
  else none

def flag? : Value → Option Bool
  | .bool flag => some flag
  | .int n => some (n != 0)
  | .text s => flagOfWord? s
  | .later part => (part ()).flag?
  | _ => none

/-- `value.sequence` is the items of a sequence; a text counts as the sequence of itself. -/
def sequence (value : Value) : List Value :=
  match value.now with
  | .text s => [.text s]
  | .list items | .tuple items => items
  | .bytes data => data.map fun byte => .int byte.toNat
  | _ => []

def isLong : Value → Bool
  | .int n => Decimal.isLong n.natAbs
  | .later part => (part ()).isLong
  | _ => false

/-- `value.readText` is the text of `value`, if it is a scalar. -/
def readText (value : Value) : Except Fault (Option String) :=
  if value.isLong then .error .longInteger else .ok value.scalarText?

/-- `ofFlag? flag` is `flag` as a value, null if there is none. -/
def ofFlag? : Option Bool → Value
  | some flag => .bool flag
  | none => .null

end Value

/-- The entries of a mapping. -/
abbrev Entries := List (Value × Value)

/-- `entries.valueOf name` is the value under `name`, null if there is none. -/
def Entries.valueOf (entries : Entries) (name : String) : Value :=
  ((Value.lookup? name entries).getD .null).now

/-- `entries.readField field` is what `entries` give for `field`. -/
def Entries.readField (entries : Entries) (field : Field) : Except Fault Value := do
  let value := entries.valueOf field.key
  if field.isFlag then return .ofFlag? value.flag? else return .ofText? (← value.readText)

/-- `entries.readTexts name` is the list of the texts of the scalars under `name`, null if there is no
entry. -/
def Entries.readTexts (entries : Entries) (name : String) : Except Fault Value := do
  match Value.lookup? name entries with
  | some value =>
    let texts ← value.sequence.mapM Value.readText
    return .list ((texts.filterMap id).map .text)
  | none => return .null

def Entries.mappingsOf (entries : Entries) (name : String) : Option (List Entries) :=
  (entries.valueOf name).items?.map fun items => items.filterMap Value.entries?

/-- `entries.readEach name read` reads the mappings in the list under `name`, if there is a list. -/
def Entries.readEach {α : Type} (entries : Entries) (name : String) (read : Entries → Except Fault α) :
    Except Fault (Option (List (Option α))) := do
  match entries.mappingsOf name with
  | some mappings => return some ((← mappings.mapM read).map some)
  | none => return none

/-- `CustomAttribute.read entries` reads a custom attribute. -/
def CustomAttribute.read (entries : Entries) : Except Fault CustomAttribute := do
  let name ← (entries.valueOf "name").readText
  let nameSpace ← (entries.valueOf "namespace").readText
  return { name, nameSpace, value := entries.valueOf "value" }

/-- `entries.readTextOr name other` is the text of the scalar under `name`, and `other` if there is no
entry. -/
def Entries.readTextOr (entries : Entries) (name : String) (other : Option String) :
    Except Fault (Option String) :=
  match Value.lookup? name entries with
  | some value => value.readText
  | none => .ok other

/-- `MetadataAttribute.read entries` reads a metadata attribute. -/
def MetadataAttribute.read (entries : Entries) : Except Fault MetadataAttribute := do
  let key ← (entries.valueOf "key").readText
  let value ← (entries.valueOf "value").readText
  let name ← entries.readTextOr "name" ({} : MetadataAttribute).name
  let nameSpace ← entries.readTextOr "namespace" ({} : MetadataAttribute).nameSpace
  return { name, nameSpace, key, value }

namespace Settings

/-- `settings.set field value` is `settings` with `value` for `field`. -/
def set (settings : Settings) (field : Field) (value : Value) : Settings :=
  { settings with value := fun other => if other = field then value else settings.value other }

/-- `readFields entries` is the settings with the fields in `entries` only. -/
def readFields (entries : Entries) : Except Fault Settings :=
  Field.all.foldlM (fun settings field => set settings field <$> entries.readField field) {}

/-- `ofEntries entries` is the settings that a mapping stands for. -/
def ofEntries (entries : Entries) : Except Fault Settings := do
  let fields ← readFields entries
  let internalsVisibleTo ← entries.readTexts "internals_visible_to"
  let customAttributes ← entries.readEach "custom_attributes" CustomAttribute.read
  let metadataAttributes ← entries.readEach "metadata_attributes" MetadataAttribute.read
  return { fields with internalsVisibleTo, customAttributes, metadataAttributes }

end Settings

end AssemblyInfo

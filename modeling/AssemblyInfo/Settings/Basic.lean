import AssemblyInfo.Field
import AssemblyInfo.Value.Basic

/-!
# Settings

The wanted attributes of an assembly. A well-known attribute normally holds a text or a flag, but
any value may be given; null stands for an attribute that is not wanted.
-/

namespace AssemblyInfo

/-- An attribute that is not well known, written with its value as argument. -/
structure CustomAttribute where
  name : Option String := none
  nameSpace : Option String := none
  value : Value := .null

/-- An attribute with a key and a value. -/
structure MetadataAttribute where
  name : Option String := some "AssemblyMetadata"
  nameSpace : Option String := some "System.Reflection"
  key : Option String := none
  value : Option String := none
  deriving DecidableEq, Repr

/-- The wanted attributes of an assembly. -/
structure Settings where
  value : Field → Value := fun _ => .null
  internalsVisibleTo : Value := .null
  customAttributes : Option (List (Option CustomAttribute)) := none
  metadataAttributes : Option (List (Option MetadataAttribute)) := none

namespace Settings

/-- `settings.override field text` sets `field` to `text`, unless `text` is missing or empty. -/
def override (settings : Settings) (field : Field) (text : Option String) : Settings :=
  match text with
  | none => settings
  | some s =>
    if s = "" then settings
    else { settings with value := fun other => if other = field then .text s else settings.value other }

end Settings

end AssemblyInfo

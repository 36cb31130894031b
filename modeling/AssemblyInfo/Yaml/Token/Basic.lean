import AssemblyInfo.Yaml.Problem

/-!
# Tokens

The smallest parts of a YAML text. Where block collections start and end, and where a key starts, is
marked by tokens of their own.
-/

namespace AssemblyInfo.Yaml

/-- A line that says how to read a document. -/
inductive Directive where
  | version (major minor : Nat)
  | tagHandle (handle expansion : String)
  | other
  deriving DecidableEq, Repr

/-- The name of a tag: a handle that a document declares, and what follows it. -/
structure TagName where
  handle : Option String
  suffix : String
  deriving DecidableEq, Repr

/-- A token. -/
inductive Token where
  | directive (directive : Directive)
  | documentStart
  | documentEnd
  | blockSequenceStart
  | blockMappingStart
  | blockEnd
  | flowSequenceStart
  | flowSequenceEnd
  | flowMappingStart
  | flowMappingEnd
  | blockEntry
  | flowEntry
  | key
  | value
  | alias (name : String)
  | anchor (name : String)
  | tag (name : TagName)
  | scalar (text : String) (isPlain : Bool)
  /-- The text cannot be read any further. -/
  | stop (problem : Problem)
  deriving DecidableEq, Repr

end AssemblyInfo.Yaml

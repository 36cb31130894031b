import AssemblyInfo.Fault

/-!
# Problems of YAML texts

Why a text has no value. A malformed text is told apart from a well formed one with a scalar that is
out of range.
-/

namespace AssemblyInfo.Yaml

/-- Why a text is malformed. -/
inductive Cause where
  /-- The text holds a control character. -/
  | unprintable
  /-- No token starts with the next character. -/
  | badCharacter
  /-- A directive cannot be read. -/
  | badDirective
  /-- An anchor or alias has no name, or no end. -/
  | badAnchor
  /-- A tag cannot be read. -/
  | badTag
  /-- An escape cannot be read. -/
  | badEscape
  /-- A quoted scalar does not end. -/
  | unclosedScalar
  /-- The head of a block scalar cannot be read. -/
  | badBlockHead
  /-- A line has to be a key, and no colon follows. -/
  | missingColon
  /-- An indicator stands where a block collection cannot go on. -/
  | misplacedIndicator
  /-- A flow collection ends that has not started. -/
  | unopenedFlow
  /-- A token stands where it cannot. -/
  | unexpectedToken
  /-- A directive is given twice, or asks for another version. -/
  | refusedDirective
  /-- A tag uses a handle that is not declared. -/
  | undefinedHandle
  /-- An alias names no anchor. -/
  | undefinedAlias
  /-- Two nodes have one anchor. -/
  | duplicateAnchor
  /-- The text holds more than one document. -/
  | severalDocuments
  /-- No kind of value has the tag. -/
  | unknownTag
  /-- The node of a tag has another shape. -/
  | wrongShape
  /-- A key is a collection. -/
  | unhashableKey
  /-- A binary scalar is not in base 64. -/
  | badBinary
  deriving DecidableEq, Repr

/-- Why a text has no value. -/
inductive Problem where
  | malformed (cause : Cause)
  | fault (fault : Fault)
  deriving DecidableEq, Repr

end AssemblyInfo.Yaml

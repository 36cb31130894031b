import AssemblyInfo.Dialect
import AssemblyInfo.Field
import AssemblyInfo.Text.Blank
import AssemblyInfo.Text.Pattern
import AssemblyInfo.Text.Word

/-!
# Declarations in a source text

A declaration is the opening of the dialect, a name, and the argument between parentheses, which
ends with the last closing on its line. What follows it on the line is passed over, and so is a
declaration with a blank argument.
-/

namespace AssemblyInfo
open Text

/-- How the argument of a declaration is written. -/
inductive ArgumentForm where
  | quoted
  | bare
  deriving DecidableEq, Repr

namespace ArgumentForm

def opening : ArgumentForm → List Char
  | .quoted => ['(', '"']
  | .bare => ['(']

def closing : ArgumentForm → List Char
  | .quoted => ['"', ')']
  | .bare => [')']

end ArgumentForm

/-- The ending that the name of an attribute may have. -/
def attributeEnding : List Char := "Attribute".toList

/-- The name space that the name of a well-known attribute may have. -/
def reflectionPath : List Char := "System.Reflection.".toList

/-- `notNewline c` holds of all characters but the line feed. -/
def notNewline (c : Char) : Bool :=
  c != '\n'

/-- `declarationPattern dialect form name` is a declaration of `name` after blanks, line breaks
included. -/
def declarationPattern (dialect : Dialect) (form : ArgumentForm) (name : List Char) : Pattern :=
  [.run isBlank, .literal dialect.opening.toList, .optional reflectionPath, .literal name,
    .optional attributeEnding, .optional [' '], .literal form.opening, .group notNewline,
    .literal form.closing]

/-- `argumentOf? kept` is the argument of a declaration that keeps `kept`, unless it is blank. -/
def argumentOf? (kept : List (List Char)) : Option String :=
  match kept with
  | [argument] => if allBlank argument then none else some (String.ofList argument)
  | _ => none

/-- `declaredAll dialect form name text` is the arguments of all declarations of `name`. -/
def declaredAll (dialect : Dialect) (form : ArgumentForm) (name : String) (text : List Char) :
    List String :=
  ((declarationPattern dialect form name.toList).findAll text).filterMap argumentOf?

/-- The attribute that names the assemblies with access to internals. -/
def internalsVisibleToName : String := "InternalsVisibleTo"

/-- The names of all well-known attributes. -/
def knownNames : List String :=
  Field.all.map Field.attributeName ++ [internalsVisibleToName]

/-- `baseName name` is `name` without its ending, unless nothing else is left. -/
def baseName (name : List Char) : List Char :=
  if attributeEnding.length < name.length && attributeEnding.isSuffixOf name then
    name.take (name.length - attributeEnding.length)
  else name

/-- `isKnown name` says that `name` names a well-known attribute. -/
def isKnown (name : List Char) : Bool :=
  knownNames.contains (String.ofList (baseName name))

/-- A declaration of an attribute that is not well known. -/
structure CustomDeclaration where
  name : String
  argument : String
  deriving DecidableEq, Repr

/-- The pattern of a declaration of any attribute, with square brackets at the start of a line. -/
def customPattern : Pattern :=
  [.literal Dialect.csharp.opening.toList, .group isWord, .optional attributeEnding,
    .optional [' '], .literal ArgumentForm.bare.opening, .group notNewline,
    .literal ArgumentForm.bare.closing]

/-- `customOf? kept` is the declaration that keeps `kept`, unless its name is well known or its
argument blank. -/
def customOf? (kept : List (List Char)) : Option CustomDeclaration :=
  match kept with
  | [name, argument] =>
    if isKnown name || allBlank argument then none
    else some ⟨String.ofList name, String.ofList argument⟩
  | _ => none

/-- `customAll text` is all declarations of attributes that are not well known. They start with the
line and have square brackets. -/
def customAll (text : List Char) : List CustomDeclaration :=
  (customPattern.findAll text).filterMap customOf?

end AssemblyInfo

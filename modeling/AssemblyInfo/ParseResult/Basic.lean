import AssemblyInfo.Declaration
import AssemblyInfo.Json.Basic
import AssemblyInfo.Log.Record

/-!
# Parse results

What a source text declares for its assembly. Of several declarations of a well-known attribute the
first one counts, and a version that is not declared has a default.
-/

namespace AssemblyInfo
open Text

/-- The version of an assembly that declares none. -/
def defaultVersion : String := "1.0.0.0"

/-- What a source text declares. -/
structure ParseResult where
  value : Field → Option String
  internalsVisibleTo : List String
  customAttributes : List CustomDeclaration

def Field.form (field : Field) : ArgumentForm :=
  if field.isFlag then .bare else .quoted

/-- `field.default` is the value of `field` if it is not declared. -/
def Field.default (field : Field) : Option String :=
  if field.isVersion then some defaultVersion else none

def Field.declarations (field : Field) (dialect : Dialect) (text : List Char) : List String :=
  declaredAll dialect field.form field.attributeName text

namespace ParseResult

/-- `ofChars dialect text` is what `text` declares. -/
def ofChars (dialect : Dialect) (text : List Char) : ParseResult where
  value field := (field.declarations dialect text).head?.or field.default
  internalsVisibleTo := declaredAll dialect .quoted internalsVisibleToName text
  customAttributes := customAll text

/-- `ofText dialect text` is what `text` declares. -/
def ofText (dialect : Dialect) (text : String) : ParseResult :=
  ofChars dialect text.toList

/-- `isTrue literal` says that `literal` is the word for true, in any case and between blanks. -/
def isTrue : Option String → Bool
  | some literal => lowerChars (trim literal.toList) = "true".toList
  | none => false

def isComVisible (result : ParseResult) : Bool :=
  isTrue (result.value .comVisible)

def isClsCompliant (result : ParseResult) : Bool :=
  isTrue (result.value .clsCompliant)

/-- `result.toJson` is `result` as a JSON object. -/
def toJson (result : ParseResult) : Json :=
  let single := fun (field : Field) =>
    (field.key, match result.value field with | some s => Json.text s | none => Json.null)
  let custom := fun (declaration : CustomDeclaration) =>
    Json.object [("name", .text declaration.name), ("value", .text declaration.argument)]
  .object (Field.all.map single ++
    [("internals_visible_to", .array (result.internalsVisibleTo.map .text)),
      ("custom_attributes", .array (result.customAttributes.map custom))])

def repeated (field : Field) (count : Nat) : Log.Record :=
  Log.debug "parser" ("Attribute " ++ field.attributeName ++ " declared " ++ toString count ++
    " times; using the first declaration")

def records (dialect : Dialect) (text : List Char) : List Log.Record :=
  let found := Log.debug "parser"
    ("Found " ++ toString (customAll text).length ++ " custom attribute(s)")
  found :: Field.readingOrder.filterMap fun field =>
    let count := (field.declarations dialect text).length
    if 1 < count then some (repeated field count) else none

end ParseResult

end AssemblyInfo

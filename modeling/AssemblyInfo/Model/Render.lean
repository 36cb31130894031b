import AssemblyInfo.Dialect
import AssemblyInfo.Model.Build

/-!
# Source text of models

A comment, the name spaces in order, a blank line, and a declaration a line.
-/

namespace AssemblyInfo

namespace Dialect

def commentMark : Dialect → String
  | .csharp => "//"
  | .visualBasic => "'"

def importLine (dialect : Dialect) (nameSpace : String) : String :=
  match dialect with
  | .csharp => "using " ++ nameSpace ++ ";"
  | .visualBasic => "Imports " ++ nameSpace

def declaration (dialect : Dialect) (content : String) : String :=
  dialect.opening ++ content ++ dialect.closing

def headerLines (dialect : Dialect) : List String :=
  ["------------------------------------------------------------------------------",
    " <auto-generated>",
    "     This code was generated by asminfo.",
    "",
    "     Changes to this file may cause incorrect behavior and will be lost if",
    "     the code is regenerated.",
    " </auto-generated>",
    "------------------------------------------------------------------------------"].map
    (dialect.commentMark ++ ·)

end Dialect

def invocation (name argument : String) : String :=
  name ++ "(" ++ argument ++ ")"

def endWithNewline (chars : List Char) : List Char :=
  (chars.reverse.dropWhile (· == '\n')).reverse ++ ['\n']

namespace Model

def sortedNameSpaces (model : Model) : List String :=
  model.nameSpaces.items.mergeSort fun a b => decide (a ≤ b)

/-- `model.contents` is what `model` declares, each on a line of its own. -/
def contents (model : Model) : List String :=
  model.attributes.entries.map (fun entry => invocation entry.1 entry.2) ++
    model.internalsVisibleTo.items ++
    model.customAttributes.entries.map (fun entry => invocation entry.1 entry.2) ++
    model.metadataAttributes.entries.map fun entry =>
      invocation "AssemblyMetadata" (entry.1 ++ ", " ++ entry.2)

def lines (model : Model) (dialect : Dialect) : List String :=
  dialect.headerLines ++ model.sortedNameSpaces.map dialect.importLine ++ [""] ++
    model.contents.map dialect.declaration

/-- `model.render dialect` is the source text of `model`. -/
def render (model : Model) (dialect : Dialect) : String :=
  String.ofList (endWithNewline ((model.lines dialect).flatMap fun line => line.toList ++ ['\n']))

end Model

/-- `render settings dialect` is the source text that declares what `settings` ask for. -/
def render (settings : Settings) (dialect : Dialect) : Except Fault String :=
  (Model.build settings).map fun model => model.render dialect

end AssemblyInfo

import AssemblyInfo.FilePath

/-!
# Dialects

The two ways to write a declaration for an assembly.
-/

namespace AssemblyInfo

/-- A way to write declarations. -/
inductive Dialect where
  | csharp
  | visualBasic
  deriving DecidableEq, Repr

namespace Dialect

def name : Dialect → String
  | .csharp => "csharp"
  | .visualBasic => "vb"

def suffix : Dialect → String
  | .csharp => ".cs"
  | .visualBasic => ".vb"

def opening : Dialect → String
  | .csharp => "[assembly: "
  | .visualBasic => "<Assembly: "

def closing : Dialect → String
  | .csharp => "]"
  | .visualBasic => ">"

/-- `ofPath path` is the dialect of the file `path`: angle brackets for the suffix of Visual Basic
in any case, square brackets otherwise. -/
def ofPath (path : FilePath) : Dialect :=
  if Text.lower path.suffix = visualBasic.suffix then .visualBasic else .csharp

end Dialect

end AssemblyInfo

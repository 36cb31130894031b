import AssemblyInfo.Encoding.SourceText
import AssemblyInfo.ParseResult.Basic
import AssemblyInfo.Session

/-!
# Parse results of files

A source file is read in the dialect that its name tells.
-/

namespace AssemblyInfo

namespace ParseResult

def opening (path : FilePath) (dialect : Dialect) : Log.Record :=
  Log.debug "parser" ("Parsing " ++ path.toString ++ " using " ++ dialect.name ++ " patterns")

/-- `ofBytes dialect data` is what the source file with the bytes `data` declares. -/
def ofBytes (dialect : Dialect) (data : List UInt8) : ParseResult :=
  ofChars dialect (Encoding.decodeSource data)

/-- `loadAt path` is what the source file under the absolute path `path` declares. -/
def loadAt (path : FilePath) : Action ParseResult := do
  if !(← Action.ofFiles fun files => files.isFile path) then throw (.noSource path.toString)
  let dialect := Dialect.ofPath path
  Action.emit (opening path dialect)
  let text := Encoding.decodeSource (← Action.ofFiles fun files => files.read path)
  (records dialect text).forM Action.emit
  return ofChars dialect text

/-- `load base? path?` is what a source file declares; `path?` starts from `base?` or else from the
current directory. -/
def load (base? path? : Option FilePath) : Action ParseResult := do
  match path? with
  | none => throw .noPath
  | some path => loadAt ((← get).placed base? path)

end ParseResult

end AssemblyInfo

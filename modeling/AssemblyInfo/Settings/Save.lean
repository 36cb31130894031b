import AssemblyInfo.Model.Render
import AssemblyInfo.Session

/-!
# Writing source files

Settings are written in the dialect that the name of the file tells. Nothing is written unless the
text has been rendered.
-/

namespace AssemblyInfo.Settings

def closing (path : FilePath) (dialect : Dialect) : Log.Record :=
  Log.debug "creator.renderer"
    ("Wrote " ++ dialect.name ++ " assembly info to " ++ path.toString)

/-- `saveAt path settings` writes `settings` to the source file under the absolute path `path`. -/
def saveAt (path : FilePath) (settings : Settings) : Action Unit := do
  let dialect := Dialect.ofPath path
  let model ← Action.ofExcept (Model.build settings)
  Action.emit model.record
  Action.changeFiles fun files => files.ensureDirectories path.parent
  Action.writeFile path (Encoding.Utf8.encode (model.render dialect).toList)
  Action.emit (closing path dialect)

/-- `save base? path settings` writes `settings` to a source file and returns its absolute path;
`path` starts from `base?` or else from the current directory. -/
def save (base? : Option FilePath) (path : FilePath) (settings : Settings) : Action FilePath := do
  let full := (← get).placed base? path
  saveAt full settings
  return full

end AssemblyInfo.Settings

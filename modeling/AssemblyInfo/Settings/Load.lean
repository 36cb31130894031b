import AssemblyInfo.Session
import AssemblyInfo.Settings.OfValue
import AssemblyInfo.Text.Line
import AssemblyInfo.Yaml.Document

/-!
# Settings files

A settings file is a YAML document with a mapping at its root. A document without content, and one
whose root counts as nothing, gives settings that want no attribute.
-/

namespace AssemblyInfo

/-- `session.homeOf? user` is the home directory of `user`, or the own one if no user is named. -/
def Session.homeOf? (session : Session) (user : String) : Option FilePath :=
  if user = "" then some session.home else session.users.lookup user

/-- `session.expanded path` is `path` with a home directory in the place of a tilde, and of a tilde
with the name of a user, at its start. -/
def Session.expanded (session : Session) (path : FilePath) : Except Fault FilePath :=
  match path.root, path.parts.map String.toList with
  | .here, ('~' :: user) :: _ =>
    if user.contains '\x00' then .error .nullInPath
    else
      match session.homeOf? (String.ofList user) with
      | some home => .ok (home.join { path with parts := path.parts.tail })
      | none => .error .noHome
  | _, _ => .ok path

def Session.resolved (session : Session) (path : FilePath) : Except Fault FilePath := do
  let full := session.absolute (← session.expanded path)
  if full.hasNull then .error .nullInPath
  else return { full.normalized with root := .root }

namespace Settings

/-- `documentOf yaml name text` is the value of the settings file `name` with the content `text`, read
by `yaml`. -/
def documentOf (yaml : Yaml.Reader) (name : String) (text : List Char) : Except Fault Value :=
  if Text.allBlank text then .ok (.map [])
  else
    match yaml text with
    | .ok value => .ok (if value.isTruthy then value else .map [])
    | .error (.malformed _) => .error (.malformedSettings name)
    | .error (.fault fault) => .error fault

def ofRoot (name : String) (value : Value) : Except Fault Settings :=
  match value.entries? with
  | some entries => ofEntries entries
  | none => .error (.settingsNotMapping name)

/-- `ofBytes yaml name data` is the settings in the file `name` with the bytes `data`, read by `yaml`. -/
def ofBytes (yaml : Yaml.Reader) (name : String) (data : List UInt8) : Except Fault Settings :=
  match Encoding.Utf8.decode data with
  | .error stretch => .error (.illFormedText stretch)
  | .ok text => do ofRoot name (← documentOf yaml name (Text.unifyBreaks text))

/-- `load session path` is the settings in the file under `path`. -/
def load (session : Session) (path : FilePath) : Except Fault Settings := do
  let full ← session.resolved path
  if ← session.files.isFile full then ofBytes session.yaml full.name (← session.files.read full)
  else .error (.noSettings full.toString)

end Settings

end AssemblyInfo

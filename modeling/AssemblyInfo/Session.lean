import AssemblyInfo.Host
import AssemblyInfo.Log.Logger
import AssemblyInfo.Yaml.Document

/-!
# Sessions

What a command works on: the files, the directories that paths start from, the logger and what has
been written to the console. An action that fails keeps what it has done so far.
-/

namespace AssemblyInfo

namespace Settings

/-- The levels of a settings file above the values that settings keep: the root, its lists and their
mappings. -/
def outerLevels : Nat := 3

end Settings

/-- What a command works on. -/
structure Session where
  files : FileSystem := {}
  /-- The current directory. -/
  directory : FilePath
  /-- The directory that a tilde stands for. -/
  home : FilePath
  /-- The directories of users by name. -/
  users : List (String × FilePath) := []
  logger : Log.Logger := {}
  /-- What the logger has written to the console. -/
  console : String := ""
  /-- What the logger writes to the console about a record that a log file does not take. -/
  report : Log.Record → String := fun _ => "--- Logging error ---\n"
  /-- The time that log files show. -/
  clock : String := ""
  /-- The reader of settings files. -/
  yaml : Yaml.Reader := Yaml.load Settings.outerLevels

/-- A piece of work in a session on a host. -/
abbrev Action := ReaderT Host (ExceptT Fault (StateM Session))

namespace Session

def absolute (session : Session) (path : FilePath) : FilePath :=
  session.directory.join path

/-- `session.placed base? path` is the absolute path of `path`, seen from `base?` or else from the
current directory. -/
def placed (session : Session) (base? : Option FilePath) (path : FilePath) : FilePath :=
  (session.absolute (base?.getD { root := .here, parts := [] })).join path

/-- `session.handle record handler` writes `record` to the place of `handler`. -/
def handle (session : Session) (record : Log.Record) : Log.Handler → Session
  | .console => { session with console := session.console ++ record.consoleLine }
  | .file location =>
    match (record.fileLine session.clock).text? with
    | some line =>
      { session with files := session.files.append location (Encoding.Utf8.encode line.toList) }
    | none => { session with console := session.console ++ session.report record }

/-- `session.emit record` writes `record` to all places that it goes to. -/
def emit (session : Session) (record : Log.Record) : Session :=
  if !session.logger.admits record.level then session
  else if session.logger.handlers.isEmpty then
    { session with console := session.console ++ record.bareLine }
  else session.logger.handlers.foldl (fun state handler => state.handle record handler) session

end Session

namespace Action

/-- `run action session host` does `action` and returns how it ended, and the session after it. -/
def run {α : Type} (action : Action α) (session : Session) (host : Host := .reliable) :
    Except Fault α × Session :=
  StateT.run (ExceptT.run (ReaderT.run action host)) session

/-- `emit record` logs `record`. -/
def emit (record : Log.Record) : Action Unit :=
  modify fun session => session.emit record

def ofExcept {α : Type} (outcome : Except Fault α) : Action α :=
  match outcome with
  | .ok answer => return answer
  | .error fault => throw fault

def ofFiles {α : Type} (query : FileSystem → Except Fault α) : Action α := do
  ofExcept (query (← get).files)

def changeFiles (change : FileSystem → FileSystem.Change) : Action Unit := do
  let (outcome, files) := change (← get).files
  modify fun session => { session with files }
  ofExcept outcome

def writeFile (path : FilePath) (data : List UInt8) : Action Unit := do
  let host ← read
  changeFiles fun files => files.write host.stop? path data

def absolute (path : FilePath) : Action FilePath := do
  return (← get).absolute path

/-- `openLog path` logs to the file under `path` as well; what it holds stays. -/
def openLog (path : FilePath) : Action Unit := do
  let full := (← absolute path).normalized
  let location ← ofFiles fun files => files.target full
  modify fun session =>
    { session with
      files := session.files.append location []
      logger := session.logger.add (.file location) }

/-- `configureLog verbose file?` sets the logger up anew: for the console, and for a file if one is
given. -/
def configureLog (verbose : Bool) (file? : Option FilePath) : Action Unit := do
  modify fun session => { session with logger := session.logger.reset (Log.levelFor verbose) }
  match file? with
  | some path => openLog path
  | none => return

end Action

end AssemblyInfo

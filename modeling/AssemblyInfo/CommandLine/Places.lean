import AssemblyInfo.CommandLine.Run

/-!
# Places of an invocation

The locations that an invocation can look at: those on the way of the paths that it names.
-/

namespace AssemblyInfo.CommandLine

def visited : Location → List String → List Location
  | _, [] => []
  | location, part :: rest =>
    let next := if part = ".." then location.dropLast else location ++ [part]
    next :: visited next rest

/-- `task.paths` is the paths that `task` names, apart from settings files. -/
def Task.paths : Task → List FilePath
  | .parse path => [.ofString path]
  | .create output _ _ _ _ => [.ofString output]

def Task.settingsPaths : Task → List FilePath
  | .parse _ => []
  | .create _ config _ _ _ => [.ofString config]

def Invocation.fullPaths (invocation : Invocation) (session : Session) : List FilePath :=
  let logs := invocation.logFile.toList.map fun text =>
    (session.absolute (.ofString text)).normalized
  let settings := invocation.task.settingsPaths.filterMap fun path =>
    (session.resolved path).toOption
  logs ++ settings ++ invocation.task.paths.map session.absolute

def places (session : Session) (texts : List String) : List Location :=
  match Invocation.ofTexts texts with
  | .error _ => []
  | .ok invocation =>
    ((invocation.fullPaths session).flatMap fun path => visited [] path.parts).eraseDups

end AssemblyInfo.CommandLine

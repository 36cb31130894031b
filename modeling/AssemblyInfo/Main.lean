import AssemblyInfo.CommandLine.Places
import Std.Time.DateTime
import Std.Time.Format

/-!
# The program

Reads the files that the command line can look at, runs it, and writes what has changed.
-/

namespace AssemblyInfo.Program

def textAt (location : Location) : String :=
  "/" ++ "/".intercalate location

def timeNow : IO String := do
  try
    return (← Std.Time.PlainDateTime.now).format "uuuu-MM-dd HH:mm:ss,SSS"
  catch _ => return ""

/-- `emptySession` is the session at the start of the program, without files. -/
def emptySession : IO Session := do
  let directory := FilePath.ofString (← IO.currentDir).toString
  let home := FilePath.ofString ((← IO.getEnv "HOME").getD "/")
  return { directory, home, users := [("root", .ofString "/root")], clock := ← timeNow }

def entryAt? (location : Location) : IO (Option Entry) := do
  let place := (← IO.currentDir) / textAt location
  if ← place.isDir then return some .directory
  else if ← place.pathExists then return some (.file (← IO.FS.readBinFile place).toList)
  else return none

def snapshot (locations : List Location) : IO FileSystem :=
  locations.foldlM (fun files location => do
    match ← entryAt? location with
    | some entry => return files.put location entry
    | none => return files) {}

/-- `store before after` writes what differs between `before` and `after` to the disk. -/
def store (before after : FileSystem) : IO Unit := do
  let changed := after.entries.reverse.filter fun change => before.at? change.1 != some change.2
  for (location, entry) in changed do
    match entry with
    | .directory => IO.FS.createDirAll (textAt location)
    | .file data => IO.FS.writeBinFile (textAt location) (ByteArray.mk data.toArray)

end AssemblyInfo.Program

open AssemblyInfo

def main (texts : List String) : IO UInt32 := do
  let empty ← Program.emptySession
  let files ← Program.snapshot (CommandLine.places empty texts)
  let (outcome, after) := CommandLine.run texts { empty with files }
  Program.store files after.files
  match outcome with
  | .ok outcome =>
    IO.print outcome.out
    IO.eprint outcome.err
    return outcome.exit.toUInt32
  | .error fault =>
    IO.eprint (after.console ++ fault.message ++ "\n")
    return 1

import AssemblyInfo.FilePath
import AssemblyInfo.Fault

/-!
# File systems

The directories and files below the root directory. A path is followed one component after the
other: each one but the last has to lead to a directory, and a pair of dots leads back.
-/

namespace AssemblyInfo

/-- What stands at a location. -/
inductive Entry where
  | directory
  | file (data : List UInt8)
  deriving DecidableEq, Repr

/-- The names that lead from the root directory to a place. -/
abbrev Location := List String

/-- The directories and files below the root directory. -/
structure FileSystem where
  entries : List (Location × Entry) := []
  /-- Where nothing may be made or written. -/
  barred : Location → Bool := fun _ => false

namespace FileSystem

/-- `files.at? location` is what stands at `location`. -/
def at? (files : FileSystem) (location : Location) : Option Entry :=
  if location.isEmpty then some .directory else files.entries.lookup location

/-- `files.put location entry` puts `entry` at `location`, in the place of what stood there. -/
def put (files : FileSystem) (location : Location) (entry : Entry) : FileSystem :=
  { files with entries := (location, entry) :: files.entries.filter fun other => other.1 != location }

/-- The number of bytes that a name must not exceed. -/
def nameLimit : Nat := 255

/-- The number of bytes below which a path has to stay. -/
def pathLimit : Nat := 4096

/-- `files.requireDirectory location` fails unless `location` is a directory. -/
def requireDirectory (files : FileSystem) (location : Location) : Except PathCause Unit :=
  match files.at? location with
  | some .directory => .ok ()
  | some (.file _) => .error .notDirectory
  | none => .error .missing

/-- `files.follow location parts` is where `parts` lead to from `location`. Nothing has to stand
there. -/
def follow (files : FileSystem) : Location → List String → Except PathCause Location
  | location, [] => .ok location
  | location, part :: rest => do
    files.requireDirectory location
    if part = ".." then files.follow location.dropLast rest
    else if nameLimit < part.utf8ByteSize then .error .nameTooLong
    else files.follow (location ++ [part]) rest

/-- `files.locate path` is where the absolute path `path` leads to. -/
def locate (files : FileSystem) (path : FilePath) : Except PathCause Location :=
  if path.toString.utf8ByteSize < pathLimit then files.follow [] path.parts
  else .error .nameTooLong

def refuse (path : FilePath) (cause : PathCause) : Fault :=
  .refused cause path.toString

/-- `files.find? path` is what stands where `path` leads to. A path that leads nowhere finds
nothing; one that is too long is refused. -/
def find? (files : FileSystem) (path : FilePath) : Except Fault (Option Entry) :=
  if path.hasNull then .ok none
  else
    match files.locate path with
    | .ok location => .ok (files.at? location)
    | .error .nameTooLong => .error (refuse path .nameTooLong)
    | .error _ => .ok none

def isFile (files : FileSystem) (path : FilePath) : Except Fault Bool := do
  match ← files.find? path with
  | some (.file _) => return true
  | _ => return false

def read (files : FileSystem) (path : FilePath) : Except Fault (List UInt8) :=
  if path.hasNull then .error .nullInPath
  else
    match files.locate path with
    | .error cause => .error (refuse path cause)
    | .ok location =>
      match files.at? location with
      | some (.file data) => .ok data
      | some .directory => .error (refuse path .isDirectory)
      | none => .error (refuse path .missing)

end FileSystem

end AssemblyInfo

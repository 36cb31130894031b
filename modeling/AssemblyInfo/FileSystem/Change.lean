import AssemblyInfo.FileSystem.Basic

/-!
# Changes of file systems

Files are written anew or at their end, and directories are made with those above them. What has
been made before a change fails stays.
-/

namespace AssemblyInfo.FileSystem

def target (files : FileSystem) (path : FilePath) : Except Fault Location :=
  if path.hasNull then .error .nullInPath
  else
    match files.locate path with
    | .error cause => .error (refuse path cause)
    | .ok location =>
      match files.at? location with
      | some .directory => .error (refuse path .isDirectory)
      | _ => if files.barred location then .error (refuse path .denied) else .ok location

/-- How a change ends, and the files after it. -/
abbrev Change := Except Fault Unit × FileSystem

def append (files : FileSystem) (location : Location) (data : List UInt8) : FileSystem :=
  match files.at? location with
  | some (.file before) => files.put location (.file (before ++ data))
  | _ => files.put location (.file data)

/-- How writing may stop: `stop? location data` tells after how many bytes of `data` the file at
`location` takes no more, and why. -/
abbrev Stops := Location → List UInt8 → Option (Nat × Fault)

/-- `files.write stop? path data` writes `data` to the file under `path`, which is emptied first. -/
def write (files : FileSystem) (stop? : Stops) (path : FilePath) (data : List UInt8) : Change :=
  match files.target path with
  | .error fault => (.error fault, files)
  | .ok location =>
    let emptied := files.put location (.file [])
    match stop? location data with
    | none => (.ok (), emptied.append location data)
    | some (count, fault) => (.error fault, emptied.append location (data.take count))

/-- `files.makeDirectory path` makes a directory under `path`, where nothing may stand yet. -/
def makeDirectory (files : FileSystem) (path : FilePath) : Except PathCause FileSystem := do
  let location ← files.locate path
  match files.at? location with
  | some _ => .error .occupied
  | none => if files.barred location then .error .denied else return files.put location .directory

/-- `files.keepDirectory path cause` accepts that no directory could be made under `path` if there
is one. -/
def keepDirectory (files : FileSystem) (path : FilePath) (cause : PathCause) : Except Fault Unit := do
  match ← files.find? path with
  | some .directory => return ()
  | _ => .error (refuse path cause)

/-- `files.ensureDirectory path` makes a directory under `path`, unless there is one. -/
def ensureDirectory (files : FileSystem) (path : FilePath) : Change :=
  match files.makeDirectory path with
  | .ok grown => (.ok (), grown)
  | .error cause => (files.keepDirectory path cause, files)

/-- `files.ensureWithin depth path` makes a directory under `path`, unless there is one, with at most
`depth` missing ones above it. -/
def ensureWithin : Nat → FileSystem → FilePath → Change
  | 0, files, path => files.ensureDirectory path
  | depth + 1, files, path =>
    match files.makeDirectory path with
    | .error .missing =>
      match ensureWithin depth files path.parent with
      | (.ok (), grown) => grown.ensureDirectory path
      | failed => failed
    | _ => files.ensureDirectory path

/-- `files.ensureDirectories path` makes a directory under `path`, unless there is one, and all those
above it that are missing. -/
def ensureDirectories (files : FileSystem) (path : FilePath) : Change :=
  if path.hasNull then (.error .nullInPath, files)
  else files.ensureWithin path.parts.length path

end AssemblyInfo.FileSystem

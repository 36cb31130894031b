import AssemblyInfo.Text.LowerCase

/-!
# File paths

A path is a root and a list of components. Empty components and single dots are dropped when a path
is read; two dots stay.
-/

namespace AssemblyInfo

/-- Where a path starts. -/
inductive PathRoot where
  /-- At the current directory. -/
  | here
  /-- At the root directory. -/
  | root
  /-- At the root directory, written with two slashes. -/
  | doubleRoot
  deriving DecidableEq, Repr

/-- A path. -/
structure FilePath where
  root : PathRoot
  parts : List String
  deriving DecidableEq, Repr

namespace FilePath

def splitSlashes : List Char → List (List Char)
  | [] => [[]]
  | c :: rest =>
    if c = '/' then [] :: splitSlashes rest
    else
      match splitSlashes rest with
      | [] => [[c]]
      | part :: parts => (c :: part) :: parts

/-- `rootOf chars` is the root of the path `chars`; three slashes and more count as one. -/
def rootOf : List Char → PathRoot
  | '/' :: '/' :: '/' :: _ => .root
  | '/' :: '/' :: _ => .doubleRoot
  | '/' :: _ => .root
  | _ => .here

def isPart (part : String) : Bool :=
  part != "" && part != "."

/-- `ofString text` is the path written as `text`. -/
def ofString (text : String) : FilePath :=
  { root := rootOf text.toList
    parts := ((splitSlashes text.toList).map String.ofList).filter isPart }

def rootText : PathRoot → String
  | .here => ""
  | .root => "/"
  | .doubleRoot => "//"

/-- `path.toString` is `path` as it is written; the current directory is a dot. -/
def toString (path : FilePath) : String :=
  if path.root = .here && path.parts.isEmpty then "."
  else rootText path.root ++ "/".intercalate path.parts

def isAbsolute (path : FilePath) : Bool :=
  path.root != .here

/-- `base.join path` is `path` seen from `base`. -/
def join (base path : FilePath) : FilePath :=
  if path.isAbsolute then path else { base with parts := base.parts ++ path.parts }

/-- `path.parent` is `path` without its last component. -/
def parent (path : FilePath) : FilePath :=
  { path with parts := path.parts.dropLast }

/-- `path.name` is the last component of `path`, or nothing. -/
def name (path : FilePath) : String :=
  path.parts.getLast?.getD ""

/-- `lastDot? chars` is what stands before the last dot of `chars`, and the rest from it on. -/
def lastDot? : List Char → Option (List Char × List Char)
  | [] => none
  | c :: rest =>
    match lastDot? rest with
    | some (stem, ending) => some (c :: stem, ending)
    | none => if c = '.' then some ([], c :: rest) else none

/-- `suffixOf name` is the ending of `name` from its last dot on, if there is something on either
side of that dot. -/
def suffixOf (name : List Char) : List Char :=
  match lastDot? name with
  | some (_ :: _, dot :: c :: rest) => dot :: c :: rest
  | _ => []

def suffix (path : FilePath) : String :=
  String.ofList (suffixOf path.name.toList)

/-- `collapse before parts` is `parts` after `before`, given last component first, where each pair
of dots takes away the component before it. -/
def collapse (before : List String) : List String → List String
  | [] => before.reverse
  | part :: rest => if part = ".." then collapse before.tail rest else collapse (part :: before) rest

/-- `path.normalized` is the absolute path `path` without pairs of dots. -/
def normalized (path : FilePath) : FilePath :=
  { path with parts := collapse [] path.parts }

/-- `path.relativeTo? base` is the path from `base` to `path`, if `path` starts with `base`. -/
def relativeTo? (path base : FilePath) : Option FilePath :=
  if path.root = base.root && base.parts.isPrefixOf path.parts then
    some { root := .here, parts := path.parts.drop base.parts.length }
  else none

def hasNull (path : FilePath) : Bool :=
  path.parts.any fun part => part.toList.contains '\x00'

end FilePath

end AssemblyInfo

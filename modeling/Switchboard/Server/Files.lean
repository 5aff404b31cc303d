/-!
# Paths in a small file system

Some of what a server is given are paths: of its socket and of the files for secure connections. A
path is followed part by part, from a working directory whose contents are known. Every part before
the last must be a directory, and so must the last if a slash follows it. Paths may lead above the
working directory or begin at the root with a slash, but what else is there is not known, so it
counts as nothing.

A place is named by the pieces of the shortest path to it: the root or all steps upwards first, then
names.
-/

namespace Switchboard

/-- What a path leads to. -/
inductive Files.Found
  | directory
  | file
  /-- Nothing, but it could be created there. -/
  | vacant
  /-- Nothing, and the way there does not exist, either. -/
  | missing
  deriving DecidableEq, Repr

/-- What there is around a working directory. -/
structure Files where
  directories : List (List String)
  /-- Everything else. -/
  files : List (List String)
  deriving DecidableEq, Repr

namespace Files

def empty : Files := ⟨[], []⟩

instance : Inhabited Files := ⟨empty⟩

/-- The root. No name between slashes is like that. -/
def root : String := "/"

/-- The pieces of a path between its slashes, behind the root if a slash comes first. -/
def pieces (path : String) : List String :=
  (if path.startsWith "/" then [root] else []) ++
    (path.splitOn "/").filter fun piece => piece != "" && piece != "."

/-- The path ends with a slash, or with a dot behind one, so it can only mean a directory. -/
def wantsDirectory (path : String) : Bool :=
  match (path.splitOn "/").reverse with
  | last :: _ :: _ => last == "" || last == "."
  | _ => false

/-- The place is the root, or the working directory or a directory above it. -/
def isAbove (place : List String) : Bool :=
  place = [root] || place.all (· == "..")

/-- The place to which one piece of a path leads from a directory. Nothing is above the root. -/
def step (place : List String) (piece : String) : List String :=
  if piece = ".." then
    if place = [root] then place
    else if isAbove place then place ++ [piece]
    else place.dropLast
  else place ++ [piece]

/-- The place to which pieces of a path lead from the working directory. -/
def placeOf (pieces : List String) : List String :=
  pieces.foldl step []

def at? (files : Files) (place : List String) : Option Found :=
  if isAbove place || files.directories.contains place then some .directory
  else if files.files.contains place then some .file
  else none

/-- Follows the pieces of a path from a directory. -/
def follow (files : Files) (place : List String) : List String → Found
  | [] => .directory
  | piece :: rest =>
      match files.at? (step place piece), rest with
      | some .directory, rest => files.follow (step place piece) rest
      | some found, [] => found
      | none, [] => .vacant
      | _, _ :: _ => .missing

def find (files : Files) (path : String) : Found :=
  if path = "" then .missing
  else
    match files.follow [] (pieces path) with
    | .directory => .directory
    | found => if wantsDirectory path then .missing else found

def isFile (files : Files) (path : String) : Bool :=
  files.find path == .file

/-- All directories on the way that pieces of a path lead. -/
def parents (pieces : List String) : List (List String) :=
  (List.range pieces.length).map fun count => placeOf (pieces.take count)

/-- The files with another directory, and all directories on the way to it. -/
def addDirectory (files : Files) (path : String) : Files :=
  { files with
    directories := placeOf (pieces path) :: parents (pieces path) ++ files.directories }

/-- The files with another file, and all directories on the way to it. -/
def addFile (files : Files) (path : String) : Files :=
  { directories := parents (pieces path) ++ files.directories
    files := placeOf (pieces path) :: files.files }

def removeFile (files : Files) (path : String) : Files :=
  { files with files := files.files.filter (· != placeOf (pieces path)) }

end Files

end Switchboard

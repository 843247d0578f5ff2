import LibraryPaths.FileSystem.Basic

/-!
# Changing a file system

Directories are made together with their missing parents, files and links too.  A step that the disk
would refuse (a directory where a file is, a link over an existing name) changes nothing.
-/

set_option autoImplicit false

namespace LibraryPaths.FileSystem

/-- The file system whose tree from the root is another one. -/
def withRoot (fs : FileSystem) (root : Node) : FileSystem := { fs with members := root.members }

/-- Puts a node at a location, in place of the one that was there. -/
def put (fs : FileSystem) (location : Location) (node : Node) : FileSystem :=
  fs.withRoot (node.put location fs.root)

/-- Goes into a directory by one text between slashes, making the directory if its name is new.  No
location means that an earlier step failed. -/
def enter (state : FileSystem × Option Location) (piece : Name) : FileSystem × Option Location :=
  match state with
  | (fs, none) => (fs, none)
  | (fs, some here) =>
    match fs.walk maxLinks here [piece] with
    | .ok (.found location) =>
      (fs, if fs.entry? location = some .directory then some location else none)
    | .ok (.missing directory name) =>
      if directory = here ∧ name = piece then
        (fs.put (here ++ [piece]) (.directory []), some (here ++ [piece]))
      else (fs, none)
    | .error _ => (fs, none)

/-- Makes a directory with its parents and gives its location. -/
def makeLocation (fs : FileSystem) (p : Path) : FileSystem × Option Location :=
  p.pieces.foldl enter (fs, some (if p.isAbsolute then [] else fs.workingDirectory))

/-- Makes a directory with its parents. -/
def makeDirectory (fs : FileSystem) (p : Path) : FileSystem :=
  (fs.makeLocation p).1

/-- Makes the parent of a path and gives its location and the last name. -/
def makeParent (fs : FileSystem) (p : Path) : FileSystem × Option (Location × Name) :=
  match p.parent?, p.fileName? with
  | some parent, some name =>
    let (fs, location) := fs.makeLocation parent
    (fs, location.map (·, name))
  | _, _ => (fs, none)

/-- Writes a file, through symbolic links, and makes its parents. -/
def writeFile (fs : FileSystem) (p : Path) (content : List UInt8) : FileSystem :=
  match fs.makeParent p with
  | (fs, some (directory, name)) =>
    match fs.walk maxLinks directory [name] with
    | .ok (.found location) =>
      if fs.entry? location = some .directory then fs else fs.put location (.file content)
    | .ok (.missing directory name) => fs.put (directory ++ [name]) (.file content)
    | .error _ => fs
  | (fs, none) => fs

/-- Makes a symbolic link and its parents. -/
def makeLink (fs : FileSystem) (p target : Path) : FileSystem :=
  match fs.makeParent p with
  | (fs, some (directory, name)) =>
    if (fs.entry? (directory ++ [name])).isSome then fs
    else fs.put (directory ++ [name]) (.link target)
  | (fs, none) => fs

/-- Removes an entry and, if it is a directory, everything below it.  A link is removed, not its
target. -/
def remove (fs : FileSystem) (p : Path) : FileSystem :=
  match p.parent?, p.fileName? with
  | some parent, some name =>
    match fs.locate (if parent.bytes = [] then ⟨[dot]⟩ else parent) with
    | .ok directory => fs.withRoot (fs.root.erase (directory ++ [name]))
    | .error _ => fs
  | _, _ => fs

end LibraryPaths.FileSystem

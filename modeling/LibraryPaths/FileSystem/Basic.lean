import LibraryPaths.FileSystem.Node

/-!
# File systems

A file system is a tree of files together with the directory from which relative paths are read.

A walk follows a path.  `walkBy` is defined by recursion on the number of symbolic links that may still be
followed and, for each of them, on the texts between the slashes of what is left of the path.  How it reads
an entry is a parameter:

* `inPlace` reads it from the directory that was reached.  That is how the operating system follows a path;
  `stat`, `read` and `children` hand the path over as a whole and refuse one that is too long.
* `byPath` reads it by its own path from the root, which may be too long.  That is how `canonical` follows a
  path, name by name; the path that it is given may have any length.
-/

set_option autoImplicit false

namespace LibraryPaths

/-- Why a path could not be used. -/
inductive IoError where
  | notFound
  | notDirectory
  | isDirectory
  | tooManyLinks
  | nameTooLong
  | nulInPath
  | notText
  deriving DecidableEq, Repr

/-- The wording of an error. -/
def IoError.message : IoError → String
  | .notFound => "No such file or directory (os error 2)"
  | .notDirectory => "Not a directory (os error 20)"
  | .isDirectory => "Is a directory (os error 21)"
  | .tooManyLinks => "Too many levels of symbolic links (os error 40)"
  | .nameTooLong => "File name too long (os error 36)"
  | .nulInPath => "file name contained an unexpected NUL byte"
  | .notText => "stream did not contain valid UTF-8"

/-- A tree of files and the directory relative paths start from. -/
structure FileSystem where
  /-- The members of the root directory. -/
  members : List (Name × Node)
  workingDirectory : Location
  deriving Repr

/-- Where a path leads: to an entry that is no link, or to a name that its directory does not hold. -/
inductive Landing where
  | found (location : Location)
  | missing (directory : Location) (name : Name)
  deriving DecidableEq, Repr

/-- The location of an entry that was found. -/
def Landing.location : Landing → Except IoError Location
  | .found location => .ok location
  | .missing _ _ => .error .notFound

namespace FileSystem

/-- The file system that holds the root alone. -/
def empty : FileSystem := ⟨[], []⟩

/-- The tree from the root. -/
def root (fs : FileSystem) : Node := .directory fs.members

/-- The entry at a location. -/
def entry? (fs : FileSystem) (location : Location) : Option Entry :=
  (fs.root.find? location).map Node.entry

/-- The greatest number of octets in a name. -/
def maxName : Nat := 255

/-- The greatest number of octets in a path. -/
def maxPath : Nat := 4095

/-- The greatest number of symbolic links followed on one path. -/
def maxLinks : Nat := 40

/-- How a walk reads the entry at a location, given the texts that follow it. -/
abbrev Reading := Location → List Name → Except IoError (Option Entry)

/-- Follows the texts between the slashes of a path from a directory.  At a symbolic link, `follow` goes
on with the target's texts in front of the remaining ones. -/
def descendBy (read : Reading) (follow : Location → List Name → Except IoError Landing) :
    Location → List Name → Except IoError Landing
  | here, [] => .ok (.found here)
  | here, piece :: rest =>
    if piece = [] ∨ piece = [dot] then descendBy read follow here rest
    else if piece = [dot, dot] then descendBy read follow here.dropLast rest
    else if maxName < piece.length then .error .nameTooLong
    else
      match read (here ++ [piece]) rest with
      | .error fault => .error fault
      | .ok none => if rest = [] then .ok (.missing here piece) else .error .notFound
      | .ok (some .directory) => descendBy read follow (here ++ [piece]) rest
      | .ok (some (.file _)) =>
        if rest = [] then .ok (.found (here ++ [piece])) else .error .notDirectory
      | .ok (some (.link target)) =>
        follow (if target.isAbsolute then [] else here) (target.pieces ++ rest)

/-- Follows the texts between the slashes of a path through at most so many symbolic links. -/
def walkBy (read : Reading) : Nat → Location → List Name → Except IoError Landing
  | 0 => descendBy read fun _ _ => .error .tooManyLinks
  | links + 1 => descendBy read (walkBy read links)

/-- Where a path of any length leads. -/
def followBy (fs : FileSystem) (read : Reading) (p : Path) : Except IoError Landing :=
  if 0 ∈ p.bytes then .error .nulInPath
  else if p.bytes = [] then .error .notFound
  else walkBy read maxLinks (if p.isAbsolute then [] else fs.workingDirectory) p.pieces

/-! ## Following a path in the directories it reaches -/

/-- Reads an entry from its directory. -/
def inPlace (fs : FileSystem) : Reading := fun location _ => .ok (fs.entry? location)

/-- Follows texts from a directory, reading every entry in place. -/
def descend (fs : FileSystem) (follow : Location → List Name → Except IoError Landing) :
    Location → List Name → Except IoError Landing :=
  descendBy fs.inPlace follow

@[simp] theorem descend_nil (fs : FileSystem) (follow : Location → List Name → Except IoError Landing)
    (here : Location) : fs.descend follow here [] = .ok (.found here) := rfl

theorem descend_cons (fs : FileSystem) (follow : Location → List Name → Except IoError Landing)
    (here : Location) (piece : Name) (rest : List Name) :
    fs.descend follow here (piece :: rest) =
      if piece = [] ∨ piece = [dot] then fs.descend follow here rest
      else if piece = [dot, dot] then fs.descend follow here.dropLast rest
      else if maxName < piece.length then .error .nameTooLong
      else
        match fs.entry? (here ++ [piece]) with
        | none => if rest = [] then .ok (.missing here piece) else .error .notFound
        | some .directory => fs.descend follow (here ++ [piece]) rest
        | some (.file _) =>
          if rest = [] then .ok (.found (here ++ [piece])) else .error .notDirectory
        | some (.link target) =>
          follow (if target.isAbsolute then [] else here) (target.pieces ++ rest) := by
  unfold descend
  rw [descendBy, inPlace]
  cases fs.entry? (here ++ [piece]) with
  | none => rfl
  | some entry => cases entry <;> rfl

/-- Follows texts through at most so many symbolic links, reading every entry in place. -/
def walk (fs : FileSystem) : Nat → Location → List Name → Except IoError Landing :=
  walkBy fs.inPlace

/-- Where a path of any length leads. -/
def follow (fs : FileSystem) (p : Path) : Except IoError Landing :=
  fs.followBy fs.inPlace p

/-- Where a path that is handed over as a whole leads. -/
def land (fs : FileSystem) (p : Path) : Except IoError Landing :=
  if p.bytes.length ≤ maxPath ∨ 0 ∈ p.bytes then fs.follow p else .error .nameTooLong

/-- The location of an existing path, with every symbolic link followed. -/
def locate (fs : FileSystem) (p : Path) : Except IoError Location :=
  fs.land p >>= Landing.location

/-- The entry at an existing path, with every symbolic link followed. -/
def stat (fs : FileSystem) (p : Path) : Except IoError Entry := do
  let location ← fs.locate p
  match fs.entry? location with
  | some entry => .ok entry
  | none => .error .notFound

/-- Whether a path exists. -/
def exists? (fs : FileSystem) (p : Path) : Bool :=
  (fs.stat p).isOk

/-- Whether a path leads to a directory. -/
def isDirectory (fs : FileSystem) (p : Path) : Bool :=
  match fs.stat p with
  | .ok .directory => true
  | _ => false

/-- Whether a path leads to a regular file. -/
def isFile (fs : FileSystem) (p : Path) : Bool :=
  match fs.stat p with
  | .ok (.file _) => true
  | _ => false

/-- The content of a file. -/
def read (fs : FileSystem) (p : Path) : Except IoError (List UInt8) := do
  match ← fs.stat p with
  | .file content => .ok content
  | _ => .error .isDirectory

/-- The content of a file that holds UTF-8 text. -/
def readText (fs : FileSystem) (p : Path) : Except IoError String := do
  match Utf8.decode? (← fs.read p) with
  | some text => .ok (String.ofList text)
  | none => .error .notText

/-- The members of the directory at a location. -/
def membersAt (fs : FileSystem) (directory : Location) : List (Name × Node) :=
  match fs.root.find? directory with
  | some node => node.members
  | none => []

/-- The names in a directory, in no particular order; a path that leads to no directory has none. -/
def children (fs : FileSystem) (p : Path) : List Name :=
  match fs.locate p with
  | .ok location => (fs.membersAt location).map (·.1)
  | .error _ => []

/-! ## Following a path by paths -/

/-- How many octets are read behind the path of an entry before the texts that follow are gone on with.  A
slash asks whether it is a directory, and in what is there a name is looked up; behind a link nothing is
read. -/
def octetsBehind (entry : Option Entry) (rest : List Name) : Nat :=
  match entry, rest.find? (!Path.isFiller ·) with
  | some (.link _), _ => 0
  | _, none => if rest = [] then 0 else 1
  | none, some next => if next = [dot, dot] then 1 else 0
  | some _, some next => if next = [dot, dot] then 1 else 1 + next.length

/-- Reads an entry by the path of its location. -/
def byPath (fs : FileSystem) : Reading := fun location rest =>
  if maxPath < (Path.ofNames location).bytes.length + octetsBehind (fs.entry? location) rest then
    .error .nameTooLong
  else .ok (fs.entry? location)

/-- The path of an existing entry without symbolic links and superfluous segments.  It can be had only if no
entry on the way has a path that is too long, those included that a later `..` leaves again. -/
def canonical (fs : FileSystem) (p : Path) : Except IoError Path := do
  let location ← fs.followBy fs.byPath p >>= Landing.location
  return .ofNames location

end FileSystem

end LibraryPaths

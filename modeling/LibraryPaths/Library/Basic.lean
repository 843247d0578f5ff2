import LibraryPaths.FileSystem.Normal

/-!
# Libraries

A library is a list of paths in the order in which they came.  Paths are stored in normal form, and a path
that is the same as a stored one, as spelled or in normal form, is not stored again.  Nothing is ever
removed.

* `Library.grows` tells whether adding a path would store it;
* `Library.add` stores it then.
-/

set_option autoImplicit false

namespace LibraryPaths

/-- An ordered list of library paths. -/
structure Library where
  paths : List Path
  deriving DecidableEq, Repr, Inhabited

/-- Whether a list holds a path, compared by components. -/
def holdsPath (paths : List Path) (p : Path) : Bool :=
  paths.any (·.same p)

/-- The list without the paths that are the same as an earlier one. -/
def distinctPaths (paths : List Path) : List Path :=
  paths.foldl (fun kept p => if holdsPath kept p then kept else kept ++ [p]) []

namespace Library

/-- The library without paths. -/
def empty : Library := ⟨[]⟩

/-- Whether the library holds a path as it is spelled. -/
def holds (library : Library) (p : Path) : Bool :=
  holdsPath library.paths p

/-- Whether the library holds the normal form of a path. -/
def contains (fs : FileSystem) (library : Library) (p : Path) : Bool :=
  library.holds (fs.normalize p)

/-- Whether adding a path makes the library longer.  A path that is held as spelled is recognised without
a look at the disk. -/
def grows (fs : FileSystem) (library : Library) (p : Path) : Bool :=
  !library.holds p && !library.holds (fs.normalize p)

/-- The library with a path added in normal form. -/
def add (fs : FileSystem) (library : Library) (p : Path) : Library :=
  if library.grows fs p then ⟨library.paths ++ [fs.normalize p]⟩ else library

/-- The library with paths added one after the other. -/
def addAll (fs : FileSystem) (library : Library) (ps : List Path) : Library :=
  ps.foldl (·.add fs) library

end Library

end LibraryPaths

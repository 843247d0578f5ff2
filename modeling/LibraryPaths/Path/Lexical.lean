import LibraryPaths.Path.Basic

/-!
# Cleaning a path without looking at the disk

The components of a path are followed from a starting directory: `.` stays, `..` goes back by one name and
stays at the root, a name goes down.  What is left is a list of names, whose spelling is absolute and has
neither `.` nor `..` nor superfluous slashes.
-/

set_option autoImplicit false

namespace LibraryPaths.Path

/-- One component followed from a directory given by its names. -/
def stepNames (names : List Name) : Component → List Name
  | .root => []
  | .here => names
  | .up => names.dropLast
  | .name n => names ++ [n]

/-- The names a path leads to from a directory, by its spelling alone. -/
def namesFrom (start : List Name) (p : Path) : List Name :=
  p.components.foldl stepNames start

/-- The clean spelling of a path, made absolute from a directory.  The empty path stays empty. -/
def clean (start : List Name) (p : Path) : Path :=
  if p.bytes = [] then p else ofNames (p.namesFrom start)

end LibraryPaths.Path

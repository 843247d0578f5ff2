import LibraryPaths.Path.Basic

/-!
# The library root of a module file

A module file belongs to the library that ends with the first source directory on its path.  A file that
lies below none belongs to the directory that contains it.
-/

set_option autoImplicit false

namespace LibraryPaths

/-- The components up to the first one that is the source directory and has something below it. -/
def rootComponents? (sourceDir : Name) : List Component → Option (List Component)
  | [] => none
  | [_] => none
  | c :: rest =>
    if c = .name sourceDir then some [c] else (rootComponents? sourceDir rest).map (c :: ·)

/-- The library root of a module file. -/
def libraryRoot (sourceDir : String) (file : Path) : Path :=
  match rootComponents? (Utf8.encode sourceDir.toList) file.components with
  | some cs => .ofComponents cs
  | none => file.parent?.getD file

end LibraryPaths

import LibraryPaths.FileSystem.Basic
import LibraryPaths.Path.Lexical

/-!
# The normal form of a path

An existing path is brought into its canonical form.  A missing one cannot be, so it is made absolute and
cleaned by its spelling; symbolic links in it stay.  Different spellings of one directory thus get one
normal form, whether it exists or not.
-/

set_option autoImplicit false

namespace LibraryPaths.FileSystem

/-- The normal form of a path. -/
def normalize (fs : FileSystem) (p : Path) : Path :=
  match fs.canonical p with
  | .ok canonical => canonical
  | .error _ => p.clean fs.workingDirectory

end LibraryPaths.FileSystem

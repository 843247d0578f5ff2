import LibraryPaths.FileSystem.Basic

/-!
# Marker files

A project root that holds one of the marker files manages its libraries by hand and is left alone.
-/

set_option autoImplicit false

namespace LibraryPaths

/-- Whether no marker exists in a root. -/
def rootEnabled (fs : FileSystem) (markers : List String) (root : Path) : Bool :=
  !markers.any fun marker => fs.exists? (root.joinText marker)

end LibraryPaths

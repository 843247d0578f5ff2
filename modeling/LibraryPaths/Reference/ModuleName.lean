/-!
# Module names

A module name consists of segments separated by `.` or `/`.  Only names whose segments are all non-empty
are looked for: such a name can neither be absolute nor climb above the directory it is looked for in.
-/

set_option autoImplicit false

namespace LibraryPaths.ModuleName

/-- Whether a character separates the segments of a name. -/
def isSeparator (c : Char) : Bool :=
  c == '.' || c == '/'

/-- The segments of a name. -/
def segments (name : String) : List (List Char) :=
  name.toList.splitOnP isSeparator

/-- Whether every segment of a name is non-empty. -/
def isSearchable (name : String) : Bool :=
  (segments name).all (!·.isEmpty)

/-- The first segment of a name. -/
def topSegment (name : String) : List Char :=
  name.toList.takeWhile (!isSeparator ·)

/-- The name written as a relative path: every separator becomes a slash. -/
def relativePath (name : String) : List Char :=
  name.toList.map fun c => if c == '.' then '/' else c

end LibraryPaths.ModuleName

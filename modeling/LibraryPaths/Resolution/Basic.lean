import LibraryPaths.FileSystem.Normal
import LibraryPaths.Packages.Basic
import LibraryPaths.Resolution.Root

/-!
# Resolving module names

A module name is resolved once: to the file that defines it and the library root of that file, or to
nothing.  A module the host has already loaded is taken from where it was loaded; otherwise the files it
could be in are tried below each candidate plugin.  The answer is kept for the rest of the session.

Beside the answers, `Resolutions` keeps the names put to the host's list of loaded modules and the names
searched for in the packages, so that "asked once" can be said.
-/

set_option autoImplicit false

namespace LibraryPaths

/-- Where modules are looked for. -/
structure Places where
  files : FileSystem
  /-- The modules the host has loaded, and their files. -/
  loaded : List (String × Path)
  packages : Packages
  /-- The directory of a plugin below which its modules lie. -/
  sourceDir : String

/-- What is known about a module name. -/
inductive Resolution where
  | found (file root : Path)
  | missing
  deriving DecidableEq, Repr

namespace Resolution

/-- The file of a resolved module. -/
def file? : Resolution → Option Path
  | .found file _ => some file
  | .missing => none

/-- The library root of a resolved module. -/
def root? : Resolution → Option Path
  | .found _ root => some root
  | .missing => none

end Resolution

namespace Places

/-- The files a module may be in below one plugin, in the order in which they are tried. -/
def probes (sourceDir : String) (name : String) (plugin : Path) : List Path :=
  let source := plugin.joinText sourceDir
  let relative := ModuleName.relativePath name
  [source.join (.ofChars (relative ++ ".lua".toList)),
   (source.join (.ofChars relative)).joinText "init.lua"]

/-- The first existing file among those a module may be in. -/
def search (fs : FileSystem) (sourceDir : String) (plugins : List Path) (name : String) :
    Option Path :=
  (plugins.flatMap (probes sourceDir name)).find? fs.isFile

/-- The resolution of a module whose file is known. -/
def resolutionOf (places : Places) : Option Path → Resolution
  | some file => .found file (places.files.normalize (libraryRoot places.sourceDir file))
  | none => .missing

end Places

/-- The answers given so far and the questions they took. -/
structure Resolutions where
  known : List (String × Resolution)
  /-- The names put to the list of loaded modules. -/
  asked : List String
  /-- The names searched for in the packages. -/
  searched : List String
  deriving DecidableEq, Repr, Inhabited

namespace Resolutions

/-- Nothing has been asked. -/
def empty : Resolutions := ⟨[], [], []⟩

/-- What is known about a name. -/
def find? (resolutions : Resolutions) (name : String) : Option Resolution :=
  resolutions.known.lookup name

/-- Looks a name up that nothing is known about, and keeps the answer. -/
def lookUp (places : Places) (resolutions : Resolutions) (name : String) :
    Resolutions × Resolution :=
  if !ModuleName.isSearchable name then
    ({ resolutions with known := resolutions.known ++ [(name, .missing)] }, .missing)
  else
    match places.loaded.lookup name with
    | some file =>
      let answer := places.resolutionOf (some file)
      ({ resolutions with
          known := resolutions.known ++ [(name, answer)]
          asked := resolutions.asked ++ [name] }, answer)
    | none =>
      let plugins := places.packages.candidates places.files places.sourceDir name
      let answer := places.resolutionOf (Places.search places.files places.sourceDir plugins name)
      ({ known := resolutions.known ++ [(name, answer)]
         asked := resolutions.asked ++ [name]
         searched := resolutions.searched ++ [name] }, answer)

/-- The resolution of a name: the known one, or a new one that is kept. -/
def resolve (places : Places) (resolutions : Resolutions) (name : String) :
    Resolutions × Resolution :=
  match resolutions.find? name with
  | some answer => (resolutions, answer)
  | none => resolutions.lookUp places name

end Resolutions

end LibraryPaths

import LibraryPaths.FileSystem.Basic
import LibraryPaths.Reference.ModuleName

/-!
# Packages

A package root holds one directory per plugin; the modules of a plugin lie below its source directory.

* `Packages.pluginDirectories` lists the plugins of every root, sorted within a root;
* `Packages.candidates` keeps those that ship the top-level name of a module;
* `Packages.plugin?` finds a plugin by its name.

A host that knows its plugins without looking at the disk gives a fixed answer to a search, or names
plugins itself.
-/

set_option autoImplicit false

namespace LibraryPaths

/-- Where plugins are found. -/
structure Packages where
  /-- The directories that hold plugins. -/
  roots : List Path
  /-- The answer to every search, where it does not come from the disk. -/
  fixed : Option (List Path)
  /-- Plugins known by name. -/
  named : List (String × Path)
  deriving DecidableEq, Repr, Inhabited

namespace Packages

/-- The packages below some roots. -/
def ofRoots (roots : List Path) : Packages := ⟨roots, none, []⟩

/-- The plugin directories of one root, in the order of paths. -/
def pluginsOf (fs : FileSystem) (root : Path) : List Path :=
  (((fs.children root).map fun name => root.join ⟨name⟩).filter fs.isDirectory).mergeSort Path.le

/-- The plugin directories of every root. -/
def pluginDirectories (fs : FileSystem) (packages : Packages) : List Path :=
  packages.roots.flatMap (pluginsOf fs)

/-- Whether a plugin ships the top-level name of a module, as a directory or as a file. -/
def provides (fs : FileSystem) (sourceDir : String) (module : String) (plugin : Path) : Bool :=
  let top := ModuleName.topSegment module
  let source := plugin.joinText sourceDir
  !top.isEmpty &&
    (fs.isDirectory (source.join (.ofChars top)) ||
      fs.isFile (source.join (.ofChars (top ++ ".lua".toList))))

/-- The plugins in which a module is looked for. -/
def candidates (fs : FileSystem) (sourceDir : String) (packages : Packages) (module : String) :
    List Path :=
  match packages.fixed with
  | some answer => answer
  | none => (packages.pluginDirectories fs).filter (provides fs sourceDir module)

/-- The directory of a plugin, by its name. -/
def plugin? (fs : FileSystem) (packages : Packages) (name : String) : Option Path :=
  match packages.named.lookup name with
  | some directory => some directory
  | none => (packages.roots.map (·.joinText name)).find? fs.isDirectory

end Packages

end LibraryPaths

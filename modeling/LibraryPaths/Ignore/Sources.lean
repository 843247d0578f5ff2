import LibraryPaths.Ignore.Level

/-!
# The source files of a directory tree

Below a root every regular file with the extension of the language counts whose name and whose directories
are shown.  A name is shown if an ignore file says so; otherwise it must not be hidden by one, nor begin
with a dot.  The root itself is always shown, and symbolic links are not followed.  The tree is walked from
the root downwards, so the ignore files of each directory are read once.
-/

set_option autoImplicit false

namespace LibraryPaths

/-- The extension of source files. -/
def sourceExtension : Name := Utf8.encode "lua".toList

/-- Whether an entry is shown by the levels of the directories around it. -/
def isShown (levels : List IgnoreLevel) (directory : Location) (name : Name) (isDirectory : Bool) : Bool :=
  match IgnoreLevel.verdict? levels (directory ++ [name]) isDirectory with
  | some .hide => false
  | some .show => true
  | none => name.head? != some dot

namespace Node

/-- Whether a node is a directory. -/
def isDirectory (node : Node) : Bool := node.entry == .directory

mutual
/-- The source files of the tree at a location that is shown, given the levels around it. -/
def sources (fs : FileSystem) (levels : List IgnoreLevel) (location : Location) : Node → List Path
  | .file _ =>
    let p := Path.ofNames location
    if p.extension? == some sourceExtension then [p] else []
  | .link _ => []
  | .directory members =>
    sourcesOfMembers fs (IgnoreLevel.enter fs levels location members) location members

/-- The source files of those members of a directory that are shown. -/
def sourcesOfMembers (fs : FileSystem) (levels : List IgnoreLevel) (directory : Location) :
    List (Name × Node) → List Path
  | [] => []
  | (name, node) :: rest =>
    (if isShown levels directory name node.isDirectory
      then sources fs levels (directory ++ [name]) node else []) ++
      sourcesOfMembers fs levels directory rest
end

end Node

/-- The source files below a root, in the order of paths. -/
def FileSystem.sourceFiles (fs : FileSystem) (root : Location) : List Path :=
  match fs.root.find? root with
  | some node => (node.sources fs (IgnoreLevel.around fs root) root).mergeSort Path.le
  | none => []

end LibraryPaths

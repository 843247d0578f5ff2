import LibraryPaths.FileSystem.Edit
import LibraryPaths.Text.Lines
import LibraryPaths.Uri.Percent

/-!
# Manifests of file systems

A manifest describes the files a command may use, one step a line, with tabs between the fields of a step.
Octets that cannot stand in a field are percent-encoded.

    dir   PATH             a directory and its parents
    file  PATH  CONTENT    a file
    link  PATH  TARGET     a symbolic link
    cwd   PATH             a directory that relative paths start from, made if it is missing
-/

set_option autoImplicit false

namespace LibraryPaths.Manifest

/-- A line of a manifest. -/
inductive Step where
  | directory (path : Path)
  | file (path : Path) (content : List UInt8)
  | link (path target : Path)
  | working (path : Path)
  deriving DecidableEq, Repr

/-- Reads the fields of a line. -/
def stepOfFields? : List (List UInt8) → Option Step
  | [kind, path] =>
    if kind = Utf8.encode "dir".toList then some (.directory ⟨path⟩)
    else if kind = Utf8.encode "cwd".toList then some (.working ⟨path⟩)
    else none
  | [kind, path, more] =>
    if kind = Utf8.encode "file".toList then some (.file ⟨path⟩ more)
    else if kind = Utf8.encode "link".toList then some (.link ⟨path⟩ ⟨more⟩)
    else none
  | _ => none

/-- Reads a line. -/
def step? (line : List Char) : Option Step :=
  stepOfFields? ((line.splitOn '\t').map Percent.decode)

/-- The file system after a step. -/
def apply (fs : FileSystem) : Step → FileSystem
  | .directory p => fs.makeDirectory p
  | .file p content => fs.writeFile p content
  | .link p target => fs.makeLink p target
  | .working p =>
    match fs.makeLocation p with
    | (fs, some location) => { fs with workingDirectory := location }
    | (fs, none) => fs

/-- The file system a manifest describes. -/
def read? (text : String) : Option FileSystem :=
  ((charLines text.toList).mapM step?).map (·.foldl apply .empty)

end LibraryPaths.Manifest

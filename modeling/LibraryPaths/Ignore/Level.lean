import LibraryPaths.FileSystem.Basic
import LibraryPaths.Ignore.Rules

/-!
# Ignore files of a directory

A directory may hold an ignore file of its own and those of a repository: `.gitignore`, and the exclude
file in the directory with the repository's data.  Where `.git` is a file, it names a directory whose
`commondir` leads to that data.
-/

set_option autoImplicit false

namespace LibraryPaths

/-- The rules that come from the ignore files of one directory. -/
structure IgnoreLevel where
  directory : Location
  /-- The rules of the general ignore file. -/
  own : List IgnoreRule
  /-- The rules that the repository's members share. -/
  shared : List IgnoreRule
  /-- The rules of the repository's exclude file. -/
  excluded : List IgnoreRule
  /-- Whether a repository begins here. -/
  isRepository : Bool
  deriving DecidableEq, Repr

namespace IgnoreLevel

/-- The rules in a file; a file that cannot be read has none. -/
def rulesIn (fs : FileSystem) (p : Path) : List IgnoreRule :=
  match fs.read p with
  | .ok content => IgnoreRule.ofFile content
  | .error _ => []

/-- The first line of a text file. -/
def firstLine? (fs : FileSystem) (p : Path) : Option (List Char) :=
  match fs.read p with
  | .ok content => (IgnoreRule.fileLines content).head?
  | .error _ => none

/-- The directory with a repository's data that a `.git` file leads to. -/
def linkedData? (fs : FileSystem) (gitFile : Path) : Option Path := do
  let line ← firstLine? fs gitFile
  let mark := "gitdir: ".toList
  if mark.isPrefixOf line then
    let directory := Path.ofChars (line.drop mark.length)
    let common ← firstLine? fs (directory.joinText "commondir")
    if common.head? = some '.' then some (directory.join (.ofChars common))
    else some (.ofChars common)
  else none

/-- The directory with the data of a repository that begins in a directory. -/
def repositoryData? (fs : FileSystem) (directory : Path) : Option Path :=
  let git := directory.joinText ".git"
  if fs.isFile git then linkedData? fs git else some git

/-- The rules of a directory. -/
def ofDirectory (fs : FileSystem) (directory : Location) : IgnoreLevel :=
  let p := Path.ofNames directory
  { directory
    own := rulesIn fs (p.joinText ".ignore")
    shared := rulesIn fs (p.joinText ".gitignore")
    excluded :=
      match repositoryData? fs p with
      | some data => rulesIn fs (data.joinText "info/exclude")
      | none => []
    isRepository := fs.exists? (p.joinText ".git") || fs.exists? (p.joinText ".jj") }

/-- The names that give the directory they stand in a say. -/
def names : List Name :=
  [".ignore", ".gitignore", ".git", ".jj"].map fun name => Utf8.encode name.toList

/-- The levels of a directory with some members from the inside, given those of the directories around it.
A directory that has no say is left out. -/
def enter (fs : FileSystem) (levels : List IgnoreLevel) (directory : Location)
    (members : List (Name × Node)) : List IgnoreLevel :=
  if members.any fun (name, _) => names.contains name then ofDirectory fs directory :: levels else levels

/-- The levels of the directories around an entry, from the inside. -/
def around (fs : FileSystem) (location : Location) : List IgnoreLevel :=
  ((List.range location.length).map location.take).foldl
    (fun levels directory => enter fs levels directory (fs.membersAt directory)) []

/-- The levels that belong to the innermost repository; none if there is no repository. -/
def inRepository (levels : List IgnoreLevel) : List IgnoreLevel :=
  match levels.dropWhile (!·.isRepository) with
  | [] => []
  | repository :: _ => levels.takeWhile (!·.isRepository) ++ [repository]

/-- The path of an entry from the directory of a level. -/
def relativePath (level : IgnoreLevel) (location : Location) : List UInt8 :=
  [slash].intercalate (location.drop level.directory.length)

/-- The verdict of the innermost level whose rules have one. -/
def verdictBy? (rules : IgnoreLevel → List IgnoreRule) (levels : List IgnoreLevel)
    (location : Location) (isDirectory : Bool) : Option Verdict :=
  levels.findSome? fun level =>
    IgnoreRule.verdict? (rules level) (level.relativePath location) isDirectory

/-- The verdict of some levels on an entry.  General ignore files come before shared
rules, and these before the exclude file, at whatever level they are. -/
def verdict? (levels : List IgnoreLevel) (location : Location) (isDirectory : Bool) :
    Option Verdict :=
  let repository := inRepository levels
  (verdictBy? own levels location isDirectory).or
    ((verdictBy? shared repository location isDirectory).or
      (verdictBy? excluded repository location isDirectory))

end IgnoreLevel

end LibraryPaths

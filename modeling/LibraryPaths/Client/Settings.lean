import LibraryPaths.Library.Basic
import LibraryPaths.Uri.Basic

/-!
# Settings sent to clients

A client is sent the library lists of its folders.  It sees them as a settings object

    { section: { "workspace": { "library": [ … ] } } }

with the list of the folder it asks about, or, where it does not ask, with the lists of all folders merged
in order, each path once.  Paths become text; what is not UTF-8 in them is replaced.
-/

set_option autoImplicit false

namespace LibraryPaths

/-- A workspace folder of a client. -/
structure Folder where
  name : String
  uri : Uri
  deriving DecidableEq, Repr, Inhabited

/-- A folder and the list its client is sent for it. -/
structure FolderUpdate where
  folder : Folder
  library : List Path
  deriving DecidableEq, Repr, Inhabited

/-- Everything a client is sent at once. -/
structure Update where
  /-- The section of the settings the lists are written under. -/
  sectionName : String
  folders : List FolderUpdate
  deriving DecidableEq, Repr, Inhabited

/-- A settings object: the section it has, and the library list in it. -/
structure Settings where
  sectionName : String
  library : List String
  deriving DecidableEq, Repr

namespace Update

/-- The settings object of a list. -/
def settings (update : Update) (paths : List Path) : Settings :=
  ⟨update.sectionName, paths.map Path.toText⟩

/-- The list of the first folder with a name. -/
def library? (update : Update) (name : String) : Option (List Path) :=
  (update.folders.find? (·.folder.name == name)).map (·.library)

/-- The settings of the first folder with an address. -/
def scoped? (update : Update) (uri : Uri) : Option Settings :=
  (update.folders.find? (·.folder.uri == uri)).map fun f => update.settings f.library

/-- The paths of all folders in order, each once. -/
def mergedPaths (update : Update) : List Path :=
  distinctPaths (update.folders.flatMap (·.library))

/-- The settings of all folders together. -/
def merged (update : Update) : Settings :=
  update.settings update.mergedPaths

end Update

end LibraryPaths

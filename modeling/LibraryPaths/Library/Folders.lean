import LibraryPaths.Library.Basic

/-!
# The libraries of a session

There is one global library, and one library for each workspace folder of each client, made when it is
first used.  A folder is offered the global paths followed by its own, each once.  Beside its own paths a
folder's record keeps the list its client received last; an update is *due* when the offered list is
another one.
-/

set_option autoImplicit false

namespace LibraryPaths

/-- A workspace folder of a client, by name. -/
structure FolderKey where
  client : Nat
  folder : String
  deriving DecidableEq, Repr

/-- The library a buffer feeds. -/
inductive Scope where
  | global
  | folder (key : FolderKey)
  deriving DecidableEq, Repr

/-- The paths a folder's own buffers need, and the list its client received last. -/
structure FolderLibrary where
  own : Library
  delivered : List Path
  deriving DecidableEq, Repr, Inhabited

/-- The global library and the folders' libraries, in the order in which they were made. -/
structure Libraries where
  global : Library
  folders : List (FolderKey × FolderLibrary)
  deriving DecidableEq, Repr, Inhabited

/-- A folder's record before anything is known about it. -/
def FolderLibrary.empty : FolderLibrary := ⟨.empty, []⟩

namespace Libraries

/-- No paths at all. -/
def empty : Libraries := ⟨.empty, []⟩

/-- The record of a folder, if it has been made. -/
def find? (libraries : Libraries) (key : FolderKey) : Option FolderLibrary :=
  libraries.folders.lookup key

/-- The record of a folder, empty if it has not been made. -/
def get (libraries : Libraries) (key : FolderKey) : FolderLibrary :=
  (libraries.find? key).getD .empty

/-- The libraries with a record for a folder, which is made empty if it is missing. -/
def ensure (libraries : Libraries) (key : FolderKey) : Libraries :=
  if (libraries.find? key).isSome then libraries
  else { libraries with folders := libraries.folders ++ [(key, .empty)] }

/-- The libraries with the record of a folder replaced; a missing record is made first. -/
def set (libraries : Libraries) (key : FolderKey) (record : FolderLibrary) : Libraries :=
  let made := libraries.ensure key
  { made with
    folders := made.folders.map fun (k, r) => if k = key then (k, record) else (k, r) }

/-- The library of a scope, if it has been made. -/
def library? (libraries : Libraries) : Scope → Option Library
  | .global => some libraries.global
  | .folder key => (libraries.find? key).map (·.own)

/-- The library of a scope, empty if it has not been made. -/
def library (libraries : Libraries) (scope : Scope) : Library :=
  (libraries.library? scope).getD .empty

/-- The libraries with that of a scope replaced. -/
def setLibrary (libraries : Libraries) (scope : Scope) (library : Library) : Libraries :=
  match scope with
  | .global => { libraries with global := library }
  | .folder key => libraries.set key { libraries.get key with own := library }

/-- The libraries with a path added to that of a scope. -/
def add (fs : FileSystem) (libraries : Libraries) (scope : Scope) (p : Path) : Libraries :=
  libraries.setLibrary scope ((libraries.library scope).add fs p)

/-- What a folder is offered: the global paths, then its own, each once. -/
def offered (libraries : Libraries) (key : FolderKey) : List Path :=
  distinctPaths (libraries.global.paths ++ (libraries.get key).own.paths)

/-- What a folder is offered, if its client received something else last. -/
def due? (libraries : Libraries) (key : FolderKey) : Option (List Path) :=
  let offered := libraries.offered key
  if Path.sameList (libraries.get key).delivered offered then none else some offered

/-- The libraries after a client has received a list for a folder. -/
def markDelivered (libraries : Libraries) (key : FolderKey) (paths : List Path) : Libraries :=
  libraries.set key { libraries.get key with delivered := paths }

end Libraries

end LibraryPaths

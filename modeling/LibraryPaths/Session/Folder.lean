import LibraryPaths.Client.Clients
import LibraryPaths.Library.Folders

/-!
# The folder a file belongs to

A file belongs to the workspace folder with the deepest root that contains it; of equally deep ones the
last listed counts.  A file outside every folder feeds the global library, and its directory takes the
place of the root.
-/

set_option autoImplicit false

namespace LibraryPaths

namespace Folder

/-- The folder with its root, if its address leads to a path that contains a file. -/
def containing? (file : Path) (folder : Folder) : Option (Folder × Path) :=
  match folder.uri.toPath? with
  | some root => if file.startsWith root then some (folder, root) else none
  | none => none

/-- Of two folders with their roots, the one with the deeper root, and the later one if none is deeper. -/
def deeper (best : Option (Folder × Path)) (next : Folder × Path) : Option (Folder × Path) :=
  match best with
  | none => some next
  | some b => if b.2.components.length ≤ next.2.components.length then some next else some b

/-- The deepest of some folders with their roots. -/
def deepest? (folders : List (Folder × Path)) : Option (Folder × Path) :=
  folders.foldl deeper none

end Folder

namespace Client

/-- The folders of a client that contain a file, with their roots. -/
def foldersContaining (client : Client) (file : Path) : List (Folder × Path) :=
  (client.folders.getD []).filterMap (Folder.containing? file)

/-- What a file of a client feeds, and the root that marker files are looked for in. -/
def scope? (client : Client) (file : Path) : Option (Scope × Path) :=
  match Folder.deepest? (client.foldersContaining file) with
  | some (folder, root) => some (.folder ⟨client.id, folder.name⟩, root)
  | none => file.parent?.map fun directory => (.global, directory)

end Client

end LibraryPaths

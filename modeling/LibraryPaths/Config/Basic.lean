import LibraryPaths.Path.Basic

/-!
# Configuration

The settings of the tracker with their defaults, and the directory its own data lies in.
-/

set_option autoImplicit false

namespace LibraryPaths

/-- The configuration of the tracker. -/
structure Config where
  /-- The quiet window before changes are sent, in milliseconds. -/
  window : Nat := 100
  /-- The name of the clients that are served. -/
  clientName : String := "lua_ls"
  /-- The directory of a plugin below which its modules lie. -/
  sourceDir : String := "lua"
  /-- The section of the settings the lists are written under. -/
  sectionName : String := "Lua"
  /-- The language server's own library, offered to every folder. -/
  runtime : Option Path := none
  /-- Further libraries: absolute paths, or a plugin with a path below it. -/
  library : List String := []
  /-- A root that holds one of these files is left alone. -/
  markers : List String := [".luarc.json"]
  /-- Modules that manage libraries too. -/
  conflicts : List String := ["neodev"]
  deriving DecidableEq, Repr, Inhabited

namespace Config

/-- The name of the data directory. -/
def dataName : String := "lsp-libsync"

/-- The data directory, given the two environment variables it depends on: the directory for user data,
which counts only if it is text, and the home directory. -/
def dataDirectory (userData home : Option Path) : Path :=
  let base :=
    match userData.filter (·.toText?.isSome), home with
    | some directory, _ => directory
    | none, some home => home.joinText ".local/share"
    | none, none => .ofString "."
  base.joinText dataName

/-- The log file. -/
def logFile (userData home : Option Path) : Path :=
  (dataDirectory userData home).joinText "lsp-libsync.log"

end Config

end LibraryPaths

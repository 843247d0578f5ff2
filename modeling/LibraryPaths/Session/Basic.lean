import LibraryPaths.Attachments
import LibraryPaths.Client.Buffers
import LibraryPaths.Client.Clients
import LibraryPaths.Config.Basic
import LibraryPaths.FileSystem.Markers
import LibraryPaths.QuietTimer
import LibraryPaths.Resolution.Scan

/-!
# Sessions

A session is an environment and a tracker.  The environment is what the outside world changes: files,
loaded modules, plugins, buffers and clients.  The tracker is what is remembered between events: the
resolutions, the libraries, the attached buffers and the quiet timer.

A new session starts with the global library filled from the configuration (`Session.start`).
-/

set_option autoImplicit false

namespace LibraryPaths

/-- What the outside world changes. -/
structure Environment where
  files : FileSystem
  /-- The modules the host has loaded, and their files. -/
  loaded : List (String × Path)
  packages : Packages
  buffers : Buffers
  clients : Clients

/-- What is remembered between events. -/
structure Tracker where
  config : Config
  resolutions : Resolutions
  libraries : Libraries
  attachments : Attachments
  timer : QuietTimer
  /-- The number of reconcile passes. -/
  passes : Nat
  /-- Whether a conflicting module has been seen. -/
  conflictSeen : Bool
  /-- The names put to the list of loaded modules in search of a conflict. -/
  conflictsAsked : List String

/-- An environment and the tracker working in it. -/
structure Session where
  env : Environment
  tracker : Tracker

namespace Environment

/-- The path a configured library entry stands for: an absolute path itself, otherwise a plugin and a path
below it, divided by the first slash. -/
def libraryEntry? (env : Environment) (entry : String) : Option Path :=
  if (Path.ofString entry).isAbsolute then some (.ofString entry)
  else
    let text := entry.toList
    let plugin := text.takeWhile (· != '/')
    let below := (text.drop plugin.length).drop 1
    (env.packages.plugin? env.files (String.ofList plugin)).map fun directory =>
      if below.isEmpty then directory else directory.join (.ofChars below)

/-- The paths the configuration puts into the global library: the runtime, then the entries that stand for
a path. -/
def seeds (env : Environment) (config : Config) : List Path :=
  config.runtime.toList ++ config.library.filterMap env.libraryEntry?

end Environment

namespace Tracker

/-- A tracker that knows some libraries and nothing else. -/
def ofLibraries (config : Config) (libraries : Libraries) : Tracker :=
  { config
    resolutions := .empty
    libraries
    attachments := .empty
    timer := .ofWindow config.window
    passes := 0
    conflictSeen := false
    conflictsAsked := [] }

/-- How often a name was put to the list of loaded modules. -/
def lookups (tracker : Tracker) : Nat :=
  tracker.resolutions.asked.length + tracker.conflictsAsked.length

/-- How often a name was searched for in the packages. -/
def searches (tracker : Tracker) : Nat := tracker.resolutions.searched.length

end Tracker

namespace Session

/-- A session that starts with some libraries, to which the configured ones are added. -/
def startWith (config : Config) (env : Environment) (libraries : Libraries) : Session :=
  let global := libraries.global.addAll env.files (env.seeds config)
  ⟨env, .ofLibraries config { libraries with global }⟩

/-- A fresh session. -/
def start (config : Config) (env : Environment) : Session :=
  startWith config env .empty

/-- Where the session looks for modules. -/
def places (session : Session) : Places :=
  { files := session.env.files
    loaded := session.env.loaded
    packages := session.env.packages
    sourceDir := session.tracker.config.sourceDir }

/-- Whether a root is not switched off by a marker. -/
def isEnabled (session : Session) (root : Path) : Bool :=
  rootEnabled session.env.files session.tracker.config.markers root

/-- The session with the quiet window begun anew. -/
def signal (now : Nat) (session : Session) : Session :=
  { session with
    tracker := { session.tracker with timer := session.tracker.timer.arm now } }

/-- Adds a path to the global library and begins the quiet window anew if it was new. -/
def addLibrary (now : Nat) (session : Session) (p : Path) : Session :=
  let libraries := session.tracker.libraries
  let next :=
    { session with
      tracker :=
        { session.tracker with
          libraries := { libraries with global := libraries.global.add session.env.files p } } }
  if libraries.global.grows session.env.files p then next.signal now else next

end Session

end LibraryPaths

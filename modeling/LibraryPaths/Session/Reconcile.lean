import LibraryPaths.Session.Basic

/-!
# Reconcile passes

A pass goes through the clients in order.  A client that has an enabled folder with a due update is sent
the lists of all its enabled folders, since what it is sent replaces what it had.  After a successful push
the due lists count as delivered; after a failed one everything stays due.

A pass ends the quiet window.  The first pass that finds a conflicting module loaded takes note of it, and
no later pass looks again.
-/

set_option autoImplicit false

namespace LibraryPaths.Session

/-- The names of a list up to and with the first one that is loaded. -/
def askedUntilLoaded (loaded : List (String × Path)) : List String → List String
  | [] => []
  | name :: names =>
    if (loaded.lookup name).isSome then [name] else name :: askedUntilLoaded loaded names

/-- Looks for a loaded module that conflicts, unless one has been seen. -/
def noteConflicts (session : Session) : Session :=
  let tracker := session.tracker
  if tracker.conflictSeen then session
  else
    let loaded := session.env.loaded
    let names := tracker.config.conflicts
    { session with
      tracker :=
        { tracker with
          conflictSeen := names.any fun name => (loaded.lookup name).isSome
          conflictsAsked := tracker.conflictsAsked ++ askedUntilLoaded loaded names } }

/-- The folders of a client whose addresses lead to a path and which are not switched off. -/
def enabledFolders (session : Session) (folders : List Folder) : List Folder :=
  folders.filter fun folder =>
    match folder.uri.toPath? with
    | some root => session.isEnabled root
    | none => false

/-- The key of a client's folder. -/
def keyOf (client : Client) (folder : Folder) : FolderKey := ⟨client.id, folder.name⟩

/-- What a client is sent for some folders. -/
def updateFor (session : Session) (client : Client) (folders : List Folder) : Update :=
  { sectionName := session.tracker.config.sectionName
    folders := folders.map fun folder =>
      ⟨folder, session.tracker.libraries.offered (keyOf client folder)⟩ }

/-- The folders with a due update, by key, and what is due. -/
def dueUpdates (session : Session) (client : Client) (folders : List Folder) :
    List (FolderKey × List Path) :=
  folders.filterMap fun folder =>
    let key := keyOf client folder
    (session.tracker.libraries.due? key).map fun paths => (key, paths)

/-- The session with other libraries. -/
def withLibraries (session : Session) (libraries : Libraries) : Session :=
  { session with tracker := { session.tracker with libraries } }

/-- The part of a pass that concerns one client, and whether the client was sent something. -/
def reconcileClient (now : Nat) (session : Session) (client : Client) : Session × Bool :=
  match client.folders with
  | none => (session, false)
  | some all =>
    let folders := session.enabledFolders all
    let made :=
      session.withLibraries
        (folders.foldl (fun l folder => l.ensure (keyOf client folder)) session.tracker.libraries)
    let due := made.dueUpdates client folders
    if due.isEmpty then (made, false)
    else
      let (clients, answer) :=
        made.env.clients.push now client.id (made.updateFor client folders)
      let pushed := { made with env := { made.env with clients } }
      match answer with
      | .error _ => (pushed, false)
      | .ok () =>
        (pushed.withLibraries
          (due.foldl (fun l (key, paths) => l.markDelivered key paths) pushed.tracker.libraries),
         true)

/-- One client after the others of a pass; counts the clients that were sent something. -/
def reconcileNext (now : Nat) (state : Session × Nat) (client : Client) : Session × Nat :=
  let (session, pushed) := state.1.reconcileClient now client
  (session, if pushed then state.2 + 1 else state.2)

/-- The beginning of a pass: the timer is disarmed, the pass counted, conflicts are looked for. -/
def beginPass (session : Session) : Session :=
  let tracker := session.tracker
  noteConflicts
    { session with
      tracker := { tracker with timer := tracker.timer.disarm, passes := tracker.passes + 1 } }

/-- A reconcile pass, and the number of clients that were sent something. -/
def reconcile (now : Nat) (session : Session) : Session × Nat :=
  let begun := session.beginPass
  (begun.env.clients.named begun.tracker.config.clientName).foldl (reconcileNext now) (begun, 0)

end LibraryPaths.Session

import LibraryPaths.Session.Attach
import LibraryPaths.Session.Reconcile

/-!
# Events

What the editor reports to a session.  Reports about buffers that are not attached are ignored.
-/

set_option autoImplicit false

namespace LibraryPaths

/-- A report from the editor. -/
inductive Event where
  /-- A client now serves a buffer. -/
  | attached (client : Client) (buffer : Nat)
  /-- The lines of a range changed. -/
  | changed (buffer first last : Nat)
  /-- The buffer was read anew. -/
  | reloaded (buffer : Nat)
  /-- The buffer was closed, or its client left it. -/
  | detached (buffer : Nat)
  /-- A path for the global library. -/
  | library (path : Path)
  /-- A reconcile pass is wanted. -/
  | reconcile
  deriving DecidableEq, Repr

namespace Session

/-- Does something with the scope of an attached buffer. -/
def onAttached (session : Session) (buffer : Nat) (act : Scope → Session) : Session :=
  match session.tracker.attachments.find? buffer with
  | some attachment => act attachment.scope
  | none => session

/-- The session after an event at a time. -/
def handle (now : Nat) (session : Session) : Event → Session
  | .attached client buffer => (session.attach now client buffer).1
  | .changed buffer first last =>
    session.onAttached buffer fun scope => session.scanRange now scope buffer first last
  | .reloaded buffer => session.onAttached buffer fun scope => session.scanAll now scope buffer
  | .detached buffer => session.detach buffer
  | .library path => session.addLibrary now path
  | .reconcile => session.signal now

end Session

end LibraryPaths

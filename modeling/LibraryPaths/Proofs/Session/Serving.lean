import LibraryPaths.Proofs.Session.Runs

/-!
# Which folder an attached buffer serves

A buffer that was attached for a client serves the folder it was attached to, or no folder, until it is
detached (`Serves`).  The attachments keep only the scope; what a run tells beyond that is that the folder is
one the client has and a pass looks at.

* `Serves.find?`: a buffer that serves a folder is attached with its scope;
* `scope_after_of_reads`: an event makes the session read for the scope its buffer is attached with;
* `find?_of_after`: a buffer that an event attaches is read as a whole.

The session covers a buffer's text if every name in it is tracked for that scope (`Session.CoversText`).
-/

set_option autoImplicit false

namespace LibraryPaths

namespace Attachments

variable {attachments : Attachments} {buffer b : Nat} {attachment : Attachment}

theorem find?_attach (attachments : Attachments) (buffer b : Nat) (attachment : Attachment) :
    (attachments.attach buffer attachment).find? b =
      if b = buffer then some ((attachments.find? buffer).getD attachment) else attachments.find? b := by
  unfold attach isAttached
  cases h : attachments.find? buffer with
  | some old =>
    by_cases hb : b = buffer
    · subst hb; simp [h]
    · simp [hb]
  | none => exact Association.lookup_concat attachments.entries buffer b attachment h

theorem find?_detach (h : b ≠ buffer) :
    (attachments.detach buffer).find? b = attachments.find? b :=
  Association.lookup_filter_of_ne attachments.entries h

theorem find?_detach_self (attachments : Attachments) (buffer : Nat) :
    (attachments.detach buffer).find? buffer = none :=
  Association.lookup_filter_self attachments.entries buffer

end Attachments

/-- The buffer an event makes the session read. -/
def Event.buffer? : Event → Option Nat
  | .attached _ buffer => some buffer
  | .changed buffer _ _ => some buffer
  | .reloaded buffer => some buffer
  | _ => none

/-- The folder of a client that a file belongs to. -/
def Client.folderOf? (client : Client) (file : Path) : Option Folder :=
  (Folder.deepest? (client.foldersContaining file)).map Prod.fst

/-- The scope a buffer feeds that serves a folder of a client, or no folder. -/
def Client.scopeOf (client : Client) : Option Folder → Scope
  | some folder => .folder (Session.keyOf client folder)
  | none => .global

namespace Folder

variable {folder : Folder} {root : Path} {folders : List (Folder × Path)}

theorem mem_of_foldl_deeper (best : Option (Folder × Path)) (folders : List (Folder × Path))
    {found : Folder × Path} (h : folders.foldl deeper best = some found) :
    best = some found ∨ found ∈ folders := by
  induction folders generalizing best with
  | nil => exact .inl h
  | cons next folders ih =>
    rcases ih _ h with hbest | hmem
    · unfold deeper at hbest
      split at hbest
      · exact .inr (List.mem_cons.2 (.inl (Option.some.inj hbest).symm))
      · split at hbest
        · exact .inr (List.mem_cons.2 (.inl (Option.some.inj hbest).symm))
        · exact .inl hbest
    · exact .inr (List.mem_cons_of_mem _ hmem)

theorem mem_of_deepest? {found : Folder × Path} (h : deepest? folders = some found) :
    found ∈ folders := by
  rcases mem_of_foldl_deeper none folders h with hnone | hmem
  · cases hnone
  · exact hmem

end Folder

namespace Picture

variable {picture : Picture} {event : Event} {buffer : Nat} {scope : Scope} {lines : List String}

/-- Only attaching and detaching a buffer changes its attachment. -/
theorem attachments_after (picture : Picture) (event : Event) :
    (picture.after event).attachments = (picture.place event).attachments := by
  unfold after
  split <;> rfl

/-- An attachment that makes the session read is one of a buffer that was free, with the scope it was
admitted for. -/
theorem admits?_of_reads {client : Client}
    (hreads : picture.reads? (.attached client buffer) = some (scope, lines)) :
    picture.admits? client buffer = some scope ∧
      ∃ subscription, (picture.after (.attached client buffer)).attachments.find? buffer =
        some ⟨scope, subscription⟩ := by
  rw [attachments_after]
  simp only [reads?] at hreads
  simp only [place]
  cases hadmits : picture.admits? client buffer with
  | none => simp [hadmits] at hreads
  | some s =>
    cases hsubscribe : picture.buffers.subscribe buffer with
    | mk buffers answer =>
      cases answer with
      | error fault => simp [hadmits, hsubscribe] at hreads
      | ok subscription =>
        obtain ⟨rfl, -⟩ : s = scope ∧ _ := by simpa [hadmits, hsubscribe] using hreads
        have hfree : picture.attachments.find? buffer = none := by
          unfold admits? Attachments.isAttached at hadmits
          cases hfind : picture.attachments.find? buffer with
          | none => rfl
          | some old => simp [hfind] at hadmits
        exact ⟨rfl, subscription, by simp [Attachments.find?_attach, hfree]⟩

/-- **An event makes the session read for the scope its buffer is attached with.** -/
theorem scope_after_of_reads (hbuffer : event.buffer? = some buffer)
    (hreads : picture.reads? event = some (scope, lines)) :
    ((picture.after event).attachments.find? buffer).map (·.scope) = some scope := by
  cases event with
  | attached client b =>
    obtain rfl : b = buffer := Option.some.inj hbuffer
    obtain ⟨-, subscription, hfind⟩ := admits?_of_reads hreads
    rw [hfind]
    rfl
  | changed b first last =>
    obtain rfl : b = buffer := Option.some.inj hbuffer
    rw [attachments_after]
    simp only [reads?] at hreads
    cases hfind : picture.attachments.find? b with
    | none => simp [hfind] at hreads
    | some attachment => simp_all [place]
  | reloaded b =>
    obtain rfl : b = buffer := Option.some.inj hbuffer
    rw [attachments_after]
    simp only [reads?] at hreads
    cases hfind : picture.attachments.find? b with
    | none => simp [hfind] at hreads
    | some attachment => simp_all [place]
  | detached b => cases hbuffer
  | library p => cases hbuffer
  | reconcile => cases hbuffer

/-- An attachment stays until its buffer is detached. -/
theorem find?_after_of_some {attachment : Attachment}
    (hfind : picture.attachments.find? buffer = some attachment) (hevent : event ≠ .detached buffer) :
    (picture.after event).attachments.find? buffer = some attachment := by
  rw [attachments_after]
  cases event with
  | attached client b =>
    unfold place
    simp only
    split
    · exact hfind
    · split
      · exact hfind
      · show (picture.attachments.attach b _).find? buffer = some attachment
        rw [Attachments.find?_attach]
        split
        · rename_i hb
          subst hb
          simp [hfind]
        · exact hfind
  | detached b =>
    have hb : buffer ≠ b := fun h => hevent (h ▸ rfl)
    unfold place
    simp only
    split
    · exact hfind
    · exact (Attachments.find?_detach hb).trans hfind
  | _ => exact hfind

/-- A buffer that is attached after an event was so before, or the event has attached it and read it all. -/
theorem find?_of_after {attachment : Attachment}
    (hfind : (picture.after event).attachments.find? buffer = some attachment) :
    picture.attachments.find? buffer = some attachment ∨
      picture.reads? event = some (attachment.scope, picture.buffers.text buffer) := by
  rw [attachments_after] at hfind
  cases event with
  | attached client b =>
    simp only [place] at hfind
    cases hadmits : picture.admits? client b with
    | none => exact .inl (by simpa [hadmits] using hfind)
    | some scope =>
      cases hsubscribe : picture.buffers.subscribe b with
      | mk buffers answer =>
        cases answer with
        | error fault => exact .inl (by simpa [hadmits, hsubscribe] using hfind)
        | ok subscription =>
          have hattach : (picture.attachments.attach b ⟨scope, subscription⟩).find? buffer =
              some attachment := by simpa [hadmits, hsubscribe] using hfind
          rw [Attachments.find?_attach] at hattach
          split at hattach
          · rename_i hb
            subst hb
            cases hold : picture.attachments.find? buffer with
            | some old => exact .inl (by simpa [hold] using hattach)
            | none =>
              obtain rfl : ⟨scope, subscription⟩ = attachment := by simpa [hold] using hattach
              exact .inr (by simp [reads?, hadmits, hsubscribe])
          · exact .inl hattach
  | detached b =>
    simp only [place] at hfind
    cases hattached : picture.attachments.find? b with
    | none => exact .inl (by simpa [hattached] using hfind)
    | some old =>
      have hdetach : (picture.attachments.detach b).find? buffer = some attachment := by
        simpa [hattached] using hfind
      by_cases hb : buffer = b
      · rw [hb, Attachments.find?_detach_self] at hdetach
        cases hdetach
      · exact .inl ((Attachments.find?_detach hb).symm.trans hdetach)
  | _ => exact .inl hfind

end Picture

namespace Session

variable {start : Session} {acts : List Act} {buffer : Nat} {client : Client} {folder : Option Folder}

/-- A name is tracked for the scope a buffer is attached to. -/
def Covers (session : Session) (buffer : Nat) (name : String) : Prop :=
  ∃ attachment, session.tracker.attachments.find? buffer = some attachment ∧
    session.picture.Tracks attachment.scope name

/-- Every name is that the buffer's lines refer to. -/
def CoversText (session : Session) (buffer : Nat) : Prop :=
  ∀ name ∈ Reference.namesInLines (session.env.buffers.text buffer), session.Covers buffer name

theorem covers_iff {session : Session} {attachment : Attachment} {name : String}
    (h : session.tracker.attachments.find? buffer = some attachment) :
    session.Covers buffer name ↔ session.picture.Tracks attachment.scope name := by
  constructor
  · rintro ⟨other, hother, htracks⟩
    obtain rfl : attachment = other := Option.some.inj (h.symm.trans hother)
    exact htracks
  · exact fun htracks => ⟨attachment, h, htracks⟩

/-- After some acts a buffer is attached for a client, to a folder or to none. -/
inductive Serves (start : Session) : List Act → Nat → Client → Option Folder → Prop
  | attach {acts : List Act} {now buffer : Nat} {client : Client} {file : Path}
      (hattach : ((start.run acts).attach now client buffer).2 = true)
      (hfile : (start.run acts).env.buffers.path? buffer = some file) :
      Serves start (acts ++ [.event now (.attached client buffer)]) buffer client
        (client.folderOf? file)
  | keep {acts : List Act} {a : Act} {buffer : Nat} {client : Client} {folder : Option Folder}
      (h : Serves start acts buffer client folder)
      (ha : ∀ now, a ≠ .event now (.detached buffer)) :
      Serves start (acts ++ [a]) buffer client folder

/-- A buffer is attached for somebody who asked for it. -/
theorem Serves.exists_mem (h : Serves start acts buffer client folder) :
    ∃ now, Act.event now (.attached client buffer) ∈ acts := by
  induction h with
  | attach hattach hfile => exact ⟨_, List.mem_append_right _ List.mem_cons_self⟩
  | keep h ha ih =>
    obtain ⟨now, hmem⟩ := ih
    exact ⟨now, List.mem_append_left _ hmem⟩

/-- An attempt to attach a buffer succeeds iff it makes the session read. -/
theorem snd_attach (now : Nat) (session : Session) (client : Client) (buffer : Nat) :
    (session.attach now client buffer).2 = (session.picture.reads? (.attached client buffer)).isSome := by
  unfold attach
  simp only [Picture.reads?, picture_admits?, picture_buffers]
  cases session.admits? client buffer with
  | none => rfl
  | some scope =>
    cases session.env.buffers.subscribe buffer with
    | mk buffers answer => cases answer <;> rfl

/-- The folder a file belongs to is enabled if its root is. -/
theorem mem_enabled {session : Session} {file : Path} {found : Folder × Path}
    (hfound : Folder.deepest? (client.foldersContaining file) = some found)
    (henabled : session.isEnabled found.2 = true) : found.1 ∈ session.enabled client := by
  obtain ⟨f, hmem, hcontaining⟩ := List.mem_filterMap.1 (Folder.mem_of_deepest? hfound)
  unfold Folder.containing? at hcontaining
  cases hroot : f.uri.toPath? with
  | none => simp [hroot] at hcontaining
  | some root =>
    obtain ⟨-, rfl⟩ : _ ∧ (f, root) = found := by simpa [hroot] using hcontaining
    refine List.mem_filter.2 ⟨hmem, ?_⟩
    simpa [hroot] using henabled

/-- A buffer is admitted for the folder its file belongs to, if that folder is enabled. -/
theorem enabled_of_admits? {session : Session} {scope : Scope} {file : Path}
    (hadmits : session.admits? client buffer = some scope)
    (hfile : session.env.buffers.path? buffer = some file) :
    client.name = session.tracker.config.clientName ∧
      scope = client.scopeOf (client.folderOf? file) ∧
      ∀ f, client.folderOf? file = some f → f ∈ session.enabled client := by
  unfold admits? at hadmits
  split at hadmits
  · cases hadmits
  rename_i hname
  split at hadmits
  · cases hadmits
  have hname' : client.name = session.tracker.config.clientName := by simpa using hname
  rw [hfile] at hadmits
  unfold Client.folderOf?
  cases hfound : Folder.deepest? (client.foldersContaining file) with
  | none =>
    have hscope : client.scope? file = file.parent?.map fun directory => (.global, directory) := by
      simp [Client.scope?, hfound]
    cases hparent : file.parent? with
    | none => simp [hscope, hparent] at hadmits
    | some directory =>
      obtain ⟨-, rfl⟩ : _ ∧ Scope.global = scope := by simpa [hscope, hparent] using hadmits
      exact ⟨hname', rfl, by simp⟩
  | some found =>
    have hscope : client.scope? file = some (.folder ⟨client.id, found.1.name⟩, found.2) := by
      simp [Client.scope?, hfound]
    obtain ⟨henabled, rfl⟩ : session.isEnabled found.2 = true ∧
        Scope.folder ⟨client.id, found.1.name⟩ = scope := by simpa [hscope] using hadmits
    refine ⟨hname', rfl, ?_⟩
    intro f hf
    obtain rfl : found.1 = f := by simpa using hf
    exact mem_enabled hfound henabled

/-- **A buffer that serves a folder is attached with its scope**, for a client of the configured name, and
the folder is one a pass looks at. -/
theorem Serves.find? (h : Serves start acts buffer client folder)
    (hacts : ∀ a ∈ acts, a.EditsBuffers) :
    client.name = start.tracker.config.clientName ∧
      (∃ subscription, (start.run acts).tracker.attachments.find? buffer =
        some ⟨client.scopeOf folder, subscription⟩) ∧
      ∀ f, folder = some f → f ∈ start.enabled client := by
  induction h with
  | @attach acts now buffer client file hattach hfile =>
    have hbefore : ∀ a ∈ acts, a.EditsBuffers := fun a ha => hacts a (List.mem_append_left _ ha)
    rw [snd_attach, Option.isSome_iff_exists] at hattach
    obtain ⟨⟨scope, lines⟩, hreads⟩ := hattach
    obtain ⟨hadmits, subscription, hfind⟩ := Picture.admits?_of_reads hreads
    obtain ⟨hname, hscope, henabled⟩ := enabled_of_admits? hadmits hfile
    rw [config_run] at hname
    refine ⟨hname, ⟨subscription, ?_⟩, ?_⟩
    · have hpicture := picture_handle now (start.run acts) (.attached client buffer)
      rw [run_append, ← hscope, ← hfind, ← hpicture]
      rfl
    · intro f hf
      rw [← enabled_run start hbefore]
      exact henabled f hf
  | @keep acts a buffer client folder h ha ih =>
    have hbefore : ∀ a ∈ acts, a.EditsBuffers := fun b hb => hacts b (List.mem_append_left _ hb)
    obtain ⟨hname, ⟨subscription, hfind⟩, henabled⟩ := ih hbefore
    refine ⟨hname, ⟨subscription, ?_⟩, henabled⟩
    rw [run_append]
    cases a with
    | event now event =>
      have hpicture := picture_handle now (start.run acts) event
      have hevent : event ≠ .detached buffer := fun he => ha now (he ▸ rfl)
      rw [← picture_attachments] at hfind
      have hafter := Picture.find?_after_of_some hfind hevent
      rw [← hpicture] at hafter
      exact hafter
    | pass now =>
      have hpicture := congrArg Picture.attachments (picture_reconcile now (start.run acts))
      show ((start.run acts).reconcile now).1.picture.attachments.find? buffer = _
      rw [hpicture]
      exact hfind
    | edit change => exact hfind

end Session

end LibraryPaths

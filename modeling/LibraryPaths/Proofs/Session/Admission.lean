import LibraryPaths.Proofs.Session.Subscribed

/-!
# Attaching a buffer, or nothing

An attempt to attach a buffer reads the client's name, the attachments, the buffer's file, the client's
folders and the policy before it asks for a subscription, and it changes the session only after the
subscription was granted.  So it succeeds iff all of them agree (`Session.Attachable`), and an attempt that
fails leaves no trace but that the editor was asked, however far it came.

* `admits?_eq_some_iff`: what is looked at before the subscription is asked for;
* `attach_eq_of_attachable`, `attach_eq_of_not_attachable`: the two ends of an attempt;
* `snd_attach_eq_true_iff`: which one it comes to;
* `attach_all_or_nothing`: what a success changes, and that a failure changes nothing.
-/

set_option autoImplicit false

namespace LibraryPaths

namespace Buffers

/-- A request for a subscription that is refused is counted, and nothing else. -/
theorem subscribe_of_error {buffers : Buffers} {buffer : Nat} {fault : EditorError}
    (h : (buffers.subscribe buffer).2 = .error fault) :
    (buffers.subscribe buffer).1 = { buffers with attempts := buffers.attempts + 1 } := by
  unfold subscribe at h ⊢
  simp only at h ⊢
  split at h
  · rename_i hrefused
    rw [if_pos hrefused]
  · rename_i hrefused
    rw [if_neg hrefused]
    split at h
    · rename_i hclosed
      rw [if_pos hclosed]
    · cases h

end Buffers

namespace Session

variable {session : Session} {now : Nat} {client : Client} {buffer number : Nat} {scope : Scope}

/-- All that it takes to attach a buffer for a client, with the scope it will feed and the number of its
subscription. -/
structure Attachable (session : Session) (client : Client) (buffer : Nat) (scope : Scope) (number : Nat) :
    Prop where
  named : client.name = session.tracker.config.clientName
  free : session.tracker.attachments.find? buffer = none
  rooted : ∃ file root, session.env.buffers.path? buffer = some file ∧
    client.scope? file = some (scope, root) ∧ session.isEnabled root = true
  granted : (session.env.buffers.subscribe buffer).2 = .ok number

/-- What is looked at before a subscription is asked for. -/
theorem admits?_eq_some_iff :
    session.admits? client buffer = some scope ↔
      client.name = session.tracker.config.clientName ∧
      session.tracker.attachments.find? buffer = none ∧
      ∃ file root, session.env.buffers.path? buffer = some file ∧
        client.scope? file = some (scope, root) ∧ session.isEnabled root = true := by
  unfold admits? Attachments.isAttached
  by_cases hname : client.name = session.tracker.config.clientName
  · cases hfind : session.tracker.attachments.find? buffer with
    | some attachment => simp [hname]
    | none => simp [hname, Option.bind_eq_some_iff]
  · simp [hname]

/-! ## The two ends of an attempt -/

/-- The session in which a buffer has been attached and not yet been scanned. -/
def attached (session : Session) (buffer : Nat) (scope : Scope) (number : Nat) : Session :=
  { env := { session.env with buffers := (session.env.buffers.subscribe buffer).1 }
    tracker :=
      { session.tracker with
        attachments := session.tracker.attachments.attach buffer ⟨scope, number⟩ } }

/-- Where nothing stands against it the buffer is attached, scanned as a whole and signalled. -/
theorem attach_eq_of_attachable (h : session.Attachable client buffer scope number) :
    session.attach now client buffer =
      (((session.attached buffer scope number).scanAll now scope buffer).signal now, true) := by
  have hadmits := admits?_eq_some_iff.2 ⟨h.named, h.free, h.rooted⟩
  unfold attach attached
  rw [hadmits]
  simp only [h.granted]

/-- Where anything stands against it the attempt fails, and at most the editor was asked. -/
theorem attach_eq_of_not_attachable (now : Nat)
    (h : ∀ scope number, ¬ session.Attachable client buffer scope number) :
    ∃ attempts, session.attach now client buffer =
      ({ session with
          env := { session.env with buffers := { session.env.buffers with attempts } } }, false) := by
  unfold attach
  cases hadmits : session.admits? client buffer with
  | none => exact ⟨session.env.buffers.attempts, rfl⟩
  | some scope =>
    cases hanswer : (session.env.buffers.subscribe buffer).2 with
    | error fault =>
      refine ⟨session.env.buffers.attempts + 1, ?_⟩
      rw [← Buffers.subscribe_of_error hanswer]
      simp only [hanswer]
    | ok number =>
      obtain ⟨hname, hfree, hrooted⟩ := admits?_eq_some_iff.1 hadmits
      exact absurd ⟨hname, hfree, hrooted, hanswer⟩ (h scope number)

/-- **An attempt succeeds iff nothing stands against it.** -/
theorem snd_attach_eq_true_iff :
    (session.attach now client buffer).2 = true ↔
      ∃ scope number, session.Attachable client buffer scope number := by
  constructor
  · intro hattach
    by_contra hnone
    obtain ⟨attempts, hfailed⟩ := attach_eq_of_not_attachable now
      fun scope number h => hnone ⟨scope, number, h⟩
    rw [hfailed] at hattach
    cases hattach
  · rintro ⟨scope, number, h⟩
    rw [attach_eq_of_attachable h]

/-- The editor has one more subscription, the next number. -/
theorem Attachable.subscriptions (h : session.Attachable client buffer scope number) :
    (session.env.buffers.subscribe buffer).1.subscriptions =
      session.env.buffers.subscriptions ++ [(number, buffer)] := by
  rcases Buffers.subscribe_cases session.env.buffers buffer with
    ⟨⟨fault, hrefused⟩, -, -⟩ | ⟨hgranted, hadded, -⟩
  · have hanswer := h.granted
    rw [hrefused] at hanswer
    cases hanswer
  · have hanswer := h.granted
    rw [hgranted] at hanswer
    rw [hadded, Except.ok.inj hanswer]

/-! ## All or nothing -/

/-- **Attaching is all or nothing.**  In every session an attempt to attach a buffer for a client succeeds iff
the client has the configured name, the buffer is not attached and has a file, the file has a scope and a root
for the client, the policy enables the root, and the editor grants a subscription.  If it fails, the session
remembers what it remembered: the attachments, every library and what of it counts as delivered, which folders
have a record at all, the resolutions, the deadline and the number of passes; and outside nothing has changed,
the subscriptions included, except that the editor counts the requests made to it.  If it succeeds, the buffer
is attached with that scope and that subscription and every other buffer is as it was, the subscription is live
behind the others, the buffer has been scanned as a whole for its scope, and the quiet window begins anew. -/
theorem attach_all_or_nothing (session : Session) (now : Nat) (client : Client) (buffer : Nat) :
    ((session.attach now client buffer).2 = true ↔
      ∃ scope number, session.Attachable client buffer scope number) ∧
    ((session.attach now client buffer).2 = false →
      (session.attach now client buffer).1.tracker = session.tracker ∧
      ∃ attempts, (session.attach now client buffer).1.env =
        { session.env with buffers := { session.env.buffers with attempts } }) ∧
    ∀ scope number, session.Attachable client buffer scope number →
      (∀ b, (session.attach now client buffer).1.tracker.attachments.find? b =
        if b = buffer then some ⟨scope, number⟩ else session.tracker.attachments.find? b) ∧
      (session.attach now client buffer).1.env.buffers.subscriptions =
        session.env.buffers.subscriptions ++ [(number, buffer)] ∧
      (∀ s, (session.attach now client buffer).1.tracker.libraries.library s =
        if s = scope then (session.picture.scan scope (session.env.buffers.text buffer)).library
        else session.tracker.libraries.library s) ∧
      (session.attach now client buffer).1.tracker.timer.deadline =
        some (now + session.tracker.timer.window) := by
  refine ⟨snd_attach_eq_true_iff, ?_, ?_⟩
  · intro hfailed
    have hnone : ∀ scope number, ¬ session.Attachable client buffer scope number := by
      intro scope number h
      rw [attach_eq_of_attachable h] at hfailed
      cases hfailed
    obtain ⟨attempts, heq⟩ := attach_eq_of_not_attachable now hnone
    rw [heq]
    exact ⟨rfl, attempts, rfl⟩
  · intro scope number h
    have htext : (session.attached buffer scope number).env.buffers.text buffer =
        session.env.buffers.text buffer := Buffers.text_congr (Buffers.find?_subscribe _ buffer buffer)
    have hpicture : (session.attach now client buffer).1.picture =
        (session.attached buffer scope number).picture.fill scope (session.env.buffers.text buffer) := by
      rw [attach_eq_of_attachable h, ← htext, ← picture_scanAll now]
      rfl
    refine ⟨fun b => ?_, ?_, fun s => ?_, ?_⟩
    · have hattachments : (session.attach now client buffer).1.tracker.attachments =
          session.tracker.attachments.attach buffer ⟨scope, number⟩ :=
        congrArg Picture.attachments hpicture
      rw [hattachments, Attachments.find?_attach, h.free]
      rfl
    · have hbuffers : (session.attach now client buffer).1.env.buffers =
          (session.env.buffers.subscribe buffer).1 := congrArg Picture.buffers hpicture
      rw [hbuffers, h.subscriptions]
    · have hlibrary : (session.attach now client buffer).1.tracker.libraries.library s = _ :=
        congrFun (congrArg Picture.library hpicture) s
      rw [hlibrary, Picture.library_fill]
      rfl
    · have hsignals : session.picture.signals (.attached client buffer) = true :=
        (snd_attach now session client buffer).symm.trans (snd_attach_eq_true_iff.2 ⟨scope, number, h⟩)
      rw [timer_attach, if_pos hsignals]
      rfl

/-- The small session in front of an editor that refuses the next subscription. -/
def unsubscribable (text : String) : Session :=
  { small 0 text with
    env := { (small 0 text).env with buffers := (small 0 text).env.buffers.refuseNext 1 } }

/-- Everything agrees but the editor, which refuses; with its consent the buffer is attached. -/
theorem attach_all_or_nothing_small :
    ((unsubscribable "").attach 0 smallClient 1).1.tracker = (unsubscribable "").tracker ∧
    ((small 0 "").attach 0 smallClient 1).2 = true ∧
    ((small 0 "").attach 0 smallClient 1).1.env.buffers.subscriptions = [(1, 1)] ∧
    ((small 0 "").attach 0 smallClient 1).1.tracker.timer.deadline = some 100 := by
  have hattachable : (small 0 "").Attachable smallClient 1 (.folder ⟨1, "app"⟩) 1 :=
    ⟨rfl, rfl, ⟨.ofString "/work/app/a.lua", .ofString "/work/app", by decide +kernel, by decide +kernel,
      by decide +kernel⟩, rfl⟩
  obtain ⟨-, hnothing, -⟩ := attach_all_or_nothing (unsubscribable "") 0 smallClient 1
  obtain ⟨hiff, -, hall⟩ := attach_all_or_nothing (small 0 "") 0 smallClient 1
  obtain ⟨-, hsubscriptions, -, hdeadline⟩ := hall _ _ hattachable
  exact ⟨(hnothing (by decide +kernel)).1, hiff.2 ⟨_, _, hattachable⟩, hsubscriptions, hdeadline⟩

end Session

end LibraryPaths

import LibraryPaths.Proofs.Session.Serving

/-!
# Attachments and subscriptions

The editor keeps the live subscriptions, the session the attachments with the numbers of theirs.  Each side
changes without the other: closing a buffer ends its subscriptions and leaves its attachment, and the buffer
may be opened again under its old number.  Still the two are in step (`Buffers.InStep`), because a number is
never given twice.

* `InStep.subscriptionCount_eq`: a buffer has one live subscription, the one it is attached with, or none;
* `InStep.filter_eq`: ending the subscription a buffer is attached with ends no other;
* `InStep.move`: whatever the session or the editor does, they stay in step;
* `subscriptions_moves`: what holds after every run; a buffer that was attached keeps its subscription until
  the editor closes it.
-/

set_option autoImplicit false

namespace LibraryPaths

namespace Buffers

/-- What an editor does to its buffers. -/
inductive Change where
  /-- A buffer is opened with a text, in place of what it held. -/
  | load (buffer : Nat) (path : Option Path) (text : String)
  /-- The lines of a range are replaced. -/
  | setLines (buffer first last : Nat) (replacement : List String)
  /-- A buffer is closed. -/
  | close (buffer : Nat)

/-- Whether a change closes a buffer. -/
def Change.closes : Change → Nat → Bool
  | .close buffer, b => b == buffer
  | _, _ => false

/-- The buffers after a change.  Lines of a buffer that is not open are not replaced. -/
def change (buffers : Buffers) : Change → Buffers
  | .load buffer path text => buffers.load buffer path text
  | .setLines buffer first last replacement =>
    match buffers.setLines buffer first last replacement with
    | .ok (next, _) => next
    | .error _ => buffers
  | .close buffer => buffers.close buffer

variable {buffers next : Buffers} {attachments : Attachments} {attachment : Attachment} {buffer b : Nat}
  {scope : Scope}

theorem subscriptions_put (buffers : Buffers) (buffer : Nat) (content : Buffer) :
    (buffers.put buffer content).subscriptions = buffers.subscriptions ∧
      (buffers.put buffer content).issued = buffers.issued := by
  unfold put
  split <;> exact ⟨rfl, rfl⟩

/-- A change ends the subscriptions of the buffer it closes, and gives no number. -/
theorem subscriptions_change (buffers : Buffers) (c : Change) :
    (buffers.change c).subscriptions = buffers.subscriptions.filter (fun s => !c.closes s.2) ∧
      (buffers.change c).issued = buffers.issued := by
  have hkept : buffers.subscriptions.filter (fun _ => !false) = buffers.subscriptions :=
    List.filter_true _
  cases c with
  | load buffer path text =>
    obtain ⟨hsubscriptions, hissued⟩ := subscriptions_put buffers buffer ⟨path, textLines text⟩
    exact ⟨hsubscriptions.trans hkept.symm, hissued⟩
  | setLines buffer first last replacement =>
    simp only [change, setLines]
    cases buffers.find? buffer with
    | none => exact ⟨hkept.symm, rfl⟩
    | some content =>
      obtain ⟨hsubscriptions, hissued⟩ := subscriptions_put buffers buffer _
      exact ⟨hsubscriptions.trans hkept.symm, hissued⟩
  | close buffer => exact ⟨rfl, rfl⟩

/-- A request for a subscription is refused, or it is granted with the next number. -/
theorem subscribe_cases (buffers : Buffers) (buffer : Nat) :
    ((∃ fault, (buffers.subscribe buffer).2 = .error fault) ∧
      (buffers.subscribe buffer).1.subscriptions = buffers.subscriptions ∧
      (buffers.subscribe buffer).1.issued = buffers.issued) ∨
    ((buffers.subscribe buffer).2 = .ok (buffers.issued + 1) ∧
      (buffers.subscribe buffer).1.subscriptions =
        buffers.subscriptions ++ [(buffers.issued + 1, buffer)] ∧
      (buffers.subscribe buffer).1.issued = buffers.issued + 1) := by
  unfold subscribe
  simp only
  split
  · exact .inl ⟨⟨_, rfl⟩, rfl, rfl⟩
  · split
    · exact .inl ⟨⟨_, rfl⟩, rfl, rfl⟩
    · exact .inr ⟨rfl, rfl, rfl⟩

/-! ## In step -/

/-- Every live subscription is the one its buffer is attached with, and no two buffers are attached with one
number. -/
structure InStep (buffers : Buffers) (attachments : Attachments) : Prop where
  held : ∀ number buffer, (number, buffer) ∈ buffers.subscriptions →
    ∃ scope, attachments.find? buffer = some ⟨scope, number⟩
  nodup : buffers.subscriptions.Nodup
  issued : ∀ buffer attachment, attachments.find? buffer = some attachment →
    attachment.subscription ≤ buffers.issued
  distinct : ∀ b c attachment other, attachments.find? b = some attachment →
    attachments.find? c = some other → attachment.subscription = other.subscription → b = c

namespace InStep

/-- A buffer that is not attached has no live subscription. -/
theorem subscriptionCount_eq_zero (h : buffers.InStep attachments)
    (hfree : attachments.find? buffer = none) : buffers.subscriptionCount buffer = 0 := by
  unfold subscriptionCount
  rw [List.countP_eq_zero]
  rintro ⟨number, b⟩ hmem hb
  obtain rfl : b = buffer := by simpa using hb
  obtain ⟨scope, hfind⟩ := h.held number b hmem
  rw [hfree] at hfind
  cases hfind

/-- **An attached buffer has one live subscription, the one it is attached with, or none.** -/
theorem subscriptionCount_eq (h : buffers.InStep attachments)
    (hfind : attachments.find? buffer = some attachment) :
    buffers.subscriptionCount buffer =
      if (attachment.subscription, buffer) ∈ buffers.subscriptions then 1 else 0 := by
  have hsame : ∀ s ∈ buffers.subscriptions,
      ((s.2 == buffer) = true ↔ (s == (attachment.subscription, buffer)) = true) := by
    rintro ⟨number, b⟩ hmem
    obtain ⟨scope, hb⟩ := h.held number b hmem
    constructor
    · intro heq
      obtain rfl : b = buffer := by simpa using heq
      obtain rfl : ⟨scope, number⟩ = attachment := Option.some.inj (hb.symm.trans hfind)
      exact beq_self_eq_true _
    · intro heq
      rw [eq_of_beq heq]
      exact beq_self_eq_true _
  unfold subscriptionCount
  rw [List.countP_congr hsame]
  exact h.nodup.count

/-- **Ending the subscription a buffer is attached with ends no other.** -/
theorem filter_eq (h : buffers.InStep attachments)
    (hfind : attachments.find? buffer = some attachment) :
    (buffers.unsubscribe attachment.subscription).subscriptions =
      buffers.subscriptions.filter (·.2 != buffer) := by
  refine List.filter_congr ?_
  rintro ⟨number, b⟩ hmem
  obtain ⟨scope, hb⟩ := h.held number b hmem
  rw [Bool.eq_iff_iff, bne_iff_ne, bne_iff_ne, not_iff_not]
  constructor
  · exact fun hnumber => h.distinct b buffer _ _ hb hfind hnumber
  · intro hbuffer
    change b = buffer at hbuffer
    rw [← hbuffer, hb] at hfind
    rw [← Option.some.inj hfind]

/-- Numbers that were given before are not the next one. -/
theorem ne_next (h : buffers.InStep attachments) (hfind : attachments.find? buffer = some attachment) :
    attachment.subscription ≠ buffers.issued + 1 := by
  have hle := h.issued buffer attachment hfind
  omega

/-- Attaching a free buffer under the next number. -/
theorem attach (h : buffers.InStep attachments) (hfree : attachments.find? buffer = none)
    (hsubscriptions : next.subscriptions = buffers.subscriptions ++ [(buffers.issued + 1, buffer)])
    (hissued : next.issued = buffers.issued + 1) :
    next.InStep (attachments.attach buffer ⟨scope, buffers.issued + 1⟩) := by
  have hfind : ∀ b, (attachments.attach buffer ⟨scope, buffers.issued + 1⟩).find? b =
      if b = buffer then some ⟨scope, buffers.issued + 1⟩ else attachments.find? b := by
    intro b
    rw [Attachments.find?_attach, hfree]
    rfl
  refine ⟨?_, ?_, ?_, ?_⟩
  · intro number b hmem
    rw [hsubscriptions] at hmem
    rw [hfind]
    rcases List.mem_append.1 hmem with hmem | hmem
    · obtain ⟨s, hb⟩ := h.held number b hmem
      have hne : b ≠ buffer := by
        intro heq
        rw [heq, hfree] at hb
        cases hb
      rw [if_neg hne]
      exact ⟨s, hb⟩
    · obtain ⟨rfl, rfl⟩ := Prod.mk.inj (List.mem_singleton.1 hmem)
      rw [if_pos rfl]
      exact ⟨scope, rfl⟩
  · rw [hsubscriptions]
    refine List.nodup_append.2 ⟨h.nodup, by simp, ?_⟩
    rintro ⟨number, b⟩ hmem s hs rfl
    obtain ⟨rfl, rfl⟩ := Prod.mk.inj (List.mem_singleton.1 hs)
    obtain ⟨s, hb⟩ := h.held _ _ hmem
    rw [hfree] at hb
    cases hb
  · intro b attachment hb
    rw [hfind] at hb
    rw [hissued]
    split at hb
    · rw [← Option.some.inj hb]
    · exact Nat.le_succ_of_le (h.issued b attachment hb)
  · intro b c attachment other hb hc hnumber
    rw [hfind] at hb hc
    split at hb
    · rename_i hbuffer
      rw [← Option.some.inj hb] at hnumber
      split at hc
      · rename_i hbuffer'
        rw [hbuffer, hbuffer']
      · exact absurd hnumber.symm (h.ne_next hc)
    · split at hc
      · rw [← Option.some.inj hc] at hnumber
        exact absurd hnumber (h.ne_next hb)
      · exact h.distinct b c attachment other hb hc hnumber

/-- Detaching a buffer and ending its subscription. -/
theorem detach (h : buffers.InStep attachments) (hfind : attachments.find? buffer = some attachment) :
    (buffers.unsubscribe attachment.subscription).InStep (attachments.detach buffer) := by
  have hkept : ∀ b found, (attachments.detach buffer).find? b = some found →
      attachments.find? b = some found := by
    intro b found hb
    by_cases hne : b = buffer
    · rw [hne, Attachments.find?_detach_self] at hb
      cases hb
    · rw [← Attachments.find?_detach hne]
      exact hb
  refine ⟨?_, ?_, ?_, ?_⟩
  · intro number b hmem
    rw [h.filter_eq hfind] at hmem
    obtain ⟨hmem, hne⟩ := List.mem_filter.1 hmem
    rw [Attachments.find?_detach (bne_iff_ne.1 hne)]
    exact h.held number b hmem
  · rw [h.filter_eq hfind]
    exact h.nodup.filter _
  · exact fun b found hb => h.issued b found (hkept b found hb)
  · exact fun b c found other hb hc => h.distinct b c found other (hkept b found hb) (hkept c other hc)

/-- Subscriptions may end behind the attachments. -/
theorem of_subset (h : buffers.InStep attachments) (p : Nat × Nat → Bool)
    (hsubscriptions : next.subscriptions = buffers.subscriptions.filter p)
    (hissued : next.issued = buffers.issued) : next.InStep attachments := by
  refine ⟨?_, ?_, ?_, h.distinct⟩
  · intro number b hmem
    rw [hsubscriptions] at hmem
    exact h.held number b (List.mem_filter.1 hmem).1
  · rw [hsubscriptions]
    exact h.nodup.filter p
  · rw [hissued]
    exact h.issued

end InStep

end Buffers

/-! ## What an event can do -/

namespace Picture

variable {picture : Picture} {event : Event} {buffer : Nat}

theorem buffers_after (picture : Picture) (event : Event) :
    (picture.after event).buffers = (picture.place event).buffers := by
  unfold after
  split <;> rfl

/-- **The three ways an event can end**: subscriptions and attachments stay, a free buffer is attached under
the next number, an attached buffer is detached and its subscription ended. -/
theorem subscriptions_after_cases (picture : Picture) (event : Event) :
    ((∀ client buffer, event = .attached client buffer → picture.reads? event = none) ∧
      (picture.after event).buffers.subscriptions = picture.buffers.subscriptions ∧
      (picture.after event).buffers.issued = picture.buffers.issued ∧
      (picture.after event).attachments = picture.attachments) ∨
    (∃ client buffer scope, event = .attached client buffer ∧ (picture.reads? event).isSome ∧
      picture.attachments.find? buffer = none ∧
      (picture.after event).buffers.subscriptions =
        picture.buffers.subscriptions ++ [(picture.buffers.issued + 1, buffer)] ∧
      (picture.after event).buffers.issued = picture.buffers.issued + 1 ∧
      (picture.after event).attachments =
        picture.attachments.attach buffer ⟨scope, picture.buffers.issued + 1⟩) ∨
    ∃ buffer attachment, event = .detached buffer ∧
      picture.attachments.find? buffer = some attachment ∧
      (picture.after event).buffers = picture.buffers.unsubscribe attachment.subscription ∧
      (picture.after event).attachments = picture.attachments.detach buffer := by
  rw [buffers_after, attachments_after]
  cases event with
  | attached client buffer =>
    simp only [place, reads?]
    cases hadmits : picture.admits? client buffer with
    | none => exact .inl ⟨fun _ _ _ => rfl, rfl, rfl, rfl⟩
    | some scope =>
      have hfree : picture.attachments.find? buffer = none := by
        unfold admits? Attachments.isAttached at hadmits
        cases hfind : picture.attachments.find? buffer with
        | none => rfl
        | some old => simp [hfind] at hadmits
      rcases picture.buffers.subscribe_cases buffer with
        ⟨⟨fault, hanswer⟩, hsubscriptions, hissued⟩ | ⟨hanswer, hsubscriptions, hissued⟩
      · rw [hanswer]
        exact .inl ⟨fun _ _ _ => rfl, hsubscriptions, hissued, rfl⟩
      · rw [hanswer]
        exact .inr (.inl ⟨client, buffer, scope, rfl, rfl, hfree, hsubscriptions, hissued, rfl⟩)
  | detached buffer =>
    simp only [place]
    cases hfind : picture.attachments.find? buffer with
    | none => exact .inl ⟨by simp, rfl, rfl, rfl⟩
    | some attachment => exact .inr (.inr ⟨buffer, attachment, rfl, hfind, rfl, rfl⟩)
  | changed buffer first last => exact .inl ⟨by simp, rfl, rfl, rfl⟩
  | reloaded buffer => exact .inl ⟨by simp, rfl, rfl, rfl⟩
  | library path => exact .inl ⟨by simp, rfl, rfl, rfl⟩
  | reconcile => exact .inl ⟨by simp, rfl, rfl, rfl⟩

theorem find?_after_detached (picture : Picture) (buffer : Nat) :
    (picture.after (.detached buffer)).attachments.find? buffer = none := by
  rw [attachments_after]
  simp only [place]
  cases hfind : picture.attachments.find? buffer with
  | none => exact hfind
  | some attachment => exact Attachments.find?_detach_self _ _

end Picture

/-! ## Runs -/

namespace Session

/-- Something that may happen to a session and its editor. -/
inductive Move where
  /-- An event is handled at a time. -/
  | event (now : Nat) (event : Event)
  /-- A reconcile pass runs at a time. -/
  | pass (now : Nat)
  /-- The editor changes its buffers. -/
  | change (c : Buffers.Change)
  /-- The rest of the outside world changes. -/
  | world (change : Environment → Environment)

/-- What a move is to the session. -/
def Move.act : Move → Act
  | .event now e => .event now e
  | .pass now => .pass now
  | .change c => .edit fun env => { env with buffers := env.buffers.change c }
  | .world edit => .edit fun env => { edit env with buffers := env.buffers }

/-- Whether the editor closes a buffer. -/
def Move.closes : Move → Nat → Bool
  | .change c, buffer => c.closes buffer
  | _, _ => false

/-- The session after some moves. -/
def moves (session : Session) (ms : List Move) : Session := session.run (ms.map Move.act)

/-- The number a move gives to the buffer that it attaches. -/
def granted? (session : Session) : Move → Option Nat
  | .event now (.attached client buffer) =>
    let (next, attached) := session.attach now client buffer
    if attached then (next.tracker.attachments.find? buffer).map (·.subscription) else none
  | _ => none

/-- The numbers that some moves give, in order. -/
def granted (session : Session) : List Move → List Nat
  | [] => []
  | m :: ms => (session.granted? m).toList ++ (session.act m.act).granted ms

/-- The editor's subscriptions and the session's attachments are in step. -/
def InStep (session : Session) : Prop := session.env.buffers.InStep session.tracker.attachments

/-- The subscription a buffer is attached with is live. -/
def Live (session : Session) (buffer : Nat) (attachment : Attachment) : Prop :=
  (attachment.subscription, buffer) ∈ session.env.buffers.subscriptions

variable {start session : Session} {ms : List Move} {m : Move} {buffer : Nat} {attachment : Attachment}

theorem moves_concat (session : Session) (ms : List Move) (m : Move) :
    session.moves (ms ++ [m]) = (session.moves ms).act m.act := by
  unfold moves
  rw [List.map_append, run_append]
  rfl

/-- Nothing happens to attachments; only the subscriptions of a closed buffer end. -/
structure Quiet (session : Session) (m : Move) : Prop where
  subscriptions : (session.act m.act).env.buffers.subscriptions =
    session.env.buffers.subscriptions.filter fun s => !m.closes s.2
  issued : (session.act m.act).env.buffers.issued = session.env.buffers.issued
  attachments : (session.act m.act).tracker.attachments = session.tracker.attachments
  granted : session.granted? m = none

/-- A free buffer is attached under the next number. -/
structure Attaches (session : Session) (m : Move) (now : Nat) (client : Client) (buffer : Nat)
    (scope : Scope) : Prop where
  move : m = .event now (.attached client buffer)
  succeeds : (session.attach now client buffer).2 = true
  free : session.tracker.attachments.find? buffer = none
  subscriptions : (session.act m.act).env.buffers.subscriptions =
    session.env.buffers.subscriptions ++ [(session.env.buffers.issued + 1, buffer)]
  issued : (session.act m.act).env.buffers.issued = session.env.buffers.issued + 1
  attachments : (session.act m.act).tracker.attachments =
    session.tracker.attachments.attach buffer ⟨scope, session.env.buffers.issued + 1⟩

/-- An attached buffer is detached and its subscription ended. -/
structure Detaches (session : Session) (m : Move) (now : Nat) (buffer : Nat) (attachment : Attachment) :
    Prop where
  move : m = .event now (.detached buffer)
  attached : session.tracker.attachments.find? buffer = some attachment
  buffers : (session.act m.act).env.buffers =
    session.env.buffers.unsubscribe attachment.subscription
  attachments : (session.act m.act).tracker.attachments = session.tracker.attachments.detach buffer

theorem granted?_of_attach_fails {now : Nat} {client : Client}
    (h : (session.attach now client buffer).2 = false) :
    session.granted? (.event now (.attached client buffer)) = none := by
  unfold granted?
  simp [h]

/-- **What a move can do to subscriptions and attachments.** -/
theorem move_cases (session : Session) (m : Move) :
    session.Quiet m ∨ (∃ now client buffer scope, session.Attaches m now client buffer scope) ∨
      ∃ now buffer attachment, session.Detaches m now buffer attachment := by
  have hkept : session.env.buffers.subscriptions.filter (fun _ => !false) =
      session.env.buffers.subscriptions := List.filter_true _
  cases m with
  | event now event =>
    have hpicture : (session.act (Move.event now event).act).picture = session.picture.after event :=
      picture_handle now session event
    have hbuffers := congrArg Picture.buffers hpicture
    have hattachments := congrArg Picture.attachments hpicture
    rw [picture_buffers] at hbuffers
    rw [picture_attachments] at hattachments
    rcases session.picture.subscriptions_after_cases event with
      ⟨hreads, hsubscriptions, hissued, hsame⟩ |
      ⟨client, buffer, scope, rfl, hreads, hfree, hsubscriptions, hissued, hattach⟩ |
      ⟨buffer, attachment, rfl, hfind, hunsubscribe, hdetach⟩
    · refine .inl ⟨?_, ?_, hattachments.trans hsame, ?_⟩
      · rw [hbuffers, hsubscriptions]
        exact hkept.symm
      · rw [hbuffers, hissued]
        rfl
      · cases event with
        | attached client buffer =>
          refine granted?_of_attach_fails ?_
          rw [snd_attach, hreads client buffer rfl]
          rfl
        | _ => rfl
    · refine .inr (.inl ⟨now, client, buffer, scope, rfl, ?_, hfree, ?_, ?_, hattachments.trans hattach⟩)
      · rw [snd_attach]
        exact hreads
      · rw [hbuffers, hsubscriptions]
        rfl
      · rw [hbuffers, hissued]
        rfl
    · exact .inr (.inr ⟨now, buffer, attachment, rfl, hfind, hbuffers.trans hunsubscribe,
        hattachments.trans hdetach⟩)
  | pass now =>
    have hpicture : (session.act (Move.pass now).act).picture = session.picture :=
      picture_reconcile now session
    have hbuffers : (session.act (Move.pass now).act).env.buffers = session.env.buffers :=
      congrArg Picture.buffers hpicture
    refine .inl ⟨?_, ?_, congrArg Picture.attachments hpicture, rfl⟩
    · rw [hbuffers]
      exact hkept.symm
    · rw [hbuffers]
  | change c =>
    obtain ⟨hsubscriptions, hissued⟩ := session.env.buffers.subscriptions_change c
    exact .inl ⟨hsubscriptions, hissued, rfl, rfl⟩
  | world change => exact .inl ⟨hkept.symm, rfl, rfl, rfl⟩

theorem Attaches.granted {now : Nat} {client : Client} {scope : Scope}
    (h : session.Attaches m now client buffer scope) :
    session.granted? m = some (session.env.buffers.issued + 1) := by
  have hattachments := h.attachments
  obtain rfl := h.move
  have hfind : (session.attach now client buffer).1.tracker.attachments.find? buffer =
      some ⟨scope, session.env.buffers.issued + 1⟩ := by
    show (session.act (Move.event now (.attached client buffer)).act).tracker.attachments.find? buffer = _
    rw [hattachments, Attachments.find?_attach, if_pos rfl, h.free]
    rfl
  unfold granted?
  simp [h.succeeds, hfind]

/-- Where nothing is attached and nobody has subscribed, all is in step. -/
theorem inStep_of_fresh (hfree : ∀ b, session.tracker.attachments.find? b = none)
    (hnone : session.env.buffers.subscriptions = []) : session.InStep := by
  refine ⟨?_, ?_, ?_, ?_⟩
  · intro number buffer hmem
    rw [hnone] at hmem
    cases hmem
  · rw [hnone]
    exact List.nodup_nil
  · intro buffer attachment hfind
    rw [hfree] at hfind
    cases hfind
  · intro b c attachment other hb
    rw [hfree] at hb
    cases hb

/-- **Whatever the session or the editor does, subscriptions and attachments stay in step.** -/
theorem InStep.move (h : session.InStep) (m : Move) : (session.act m.act).InStep := by
  unfold InStep
  rcases move_cases session m with hquiet | ⟨now, client, buffer, scope, hattach⟩ |
    ⟨now, buffer, attachment, hdetach⟩
  · rw [hquiet.attachments]
    exact Buffers.InStep.of_subset h _ hquiet.subscriptions hquiet.issued
  · rw [hattach.attachments]
    exact Buffers.InStep.attach h hattach.free hattach.subscriptions hattach.issued
  · rw [hdetach.buffers, hdetach.attachments]
    exact Buffers.InStep.detach h hdetach.attached

theorem InStep.moves (h : session.InStep) (ms : List Move) : (session.moves ms).InStep := by
  induction ms using List.reverseRecOn with
  | nil => exact h
  | append_singleton ms m ih =>
    rw [moves_concat]
    exact ih.move m

/-! ## Numbers -/

/-- A move gives no number or the next one. -/
theorem issued_move (session : Session) (m : Move) :
    (session.granted? m = none ∧
      (session.act m.act).env.buffers.issued = session.env.buffers.issued) ∨
    (session.granted? m = some (session.env.buffers.issued + 1) ∧
      (session.act m.act).env.buffers.issued = session.env.buffers.issued + 1) := by
  rcases move_cases session m with hquiet | ⟨now, client, buffer, scope, hattach⟩ |
    ⟨now, buffer, attachment, hdetach⟩
  · exact .inl ⟨hquiet.granted, hquiet.issued⟩
  · exact .inr ⟨hattach.granted, hattach.issued⟩
  · refine .inl ⟨?_, ?_⟩
    · rw [hdetach.move]
      rfl
    · rw [hdetach.buffers]
      rfl

/-- **No number is given twice**, nor one that was given before. -/
theorem pairwise_granted (session : Session) (ms : List Move) :
    (∀ number ∈ session.granted ms, session.env.buffers.issued < number) ∧
      (session.granted ms).Pairwise (· < ·) := by
  induction ms generalizing session with
  | nil => exact ⟨fun number hnumber => (by cases hnumber), List.Pairwise.nil⟩
  | cons m ms ih =>
    obtain ⟨hlarger, hpairwise⟩ := ih (session.act m.act)
    rw [granted]
    rcases issued_move session m with ⟨hnone, hissued⟩ | ⟨hsome, hissued⟩
    · rw [hissued] at hlarger
      rw [hnone]
      exact ⟨hlarger, hpairwise⟩
    · rw [hissued] at hlarger
      rw [hsome]
      refine ⟨?_, List.pairwise_cons.2 ⟨hlarger, hpairwise⟩⟩
      intro number hnumber
      rcases List.mem_cons.1 hnumber with rfl | hnumber
      · exact Nat.lt_succ_self _
      · exact Nat.lt_of_succ_lt (hlarger number hnumber)

/-! ## Since a buffer was attached -/

/-- A buffer that is attached after a move was attached by it, or was attached before and keeps its
subscription unless the move closes it. -/
theorem attached_move (h : session.InStep)
    (hfind : (session.act m.act).tracker.attachments.find? buffer = some attachment) :
    (∃ now client, m = .event now (.attached client buffer) ∧
      (session.attach now client buffer).2 = true ∧ (session.act m.act).Live buffer attachment) ∨
    (session.tracker.attachments.find? buffer = some attachment ∧
      (∀ now, m ≠ .event now (.detached buffer)) ∧
      ((session.act m.act).Live buffer attachment ↔
        session.Live buffer attachment ∧ m.closes buffer = false)) := by
  have hnot : ∀ now, m ≠ .event now (.detached buffer) := by
    rintro now rfl
    have hpicture : (session.act (Move.event now (.detached buffer)).act).picture =
        session.picture.after (.detached buffer) := picture_handle now session _
    have hattachments := congrArg Picture.attachments hpicture
    rw [picture_attachments] at hattachments
    rw [hattachments, Picture.find?_after_detached] at hfind
    cases hfind
  unfold Live
  rcases move_cases session m with hquiet | ⟨now, client, b, scope, hattach⟩ |
    ⟨now, b, other, hdetach⟩
  · rw [hquiet.attachments] at hfind
    refine .inr ⟨hfind, hnot, ?_⟩
    rw [hquiet.subscriptions, List.mem_filter]
    simp
  · rw [hattach.attachments, Attachments.find?_attach, hattach.free] at hfind
    rw [hattach.subscriptions]
    split at hfind
    · rename_i hb
      subst hb
      obtain rfl := Option.some.inj hfind
      exact .inl ⟨now, client, hattach.move, hattach.succeeds, List.mem_append_right _ List.mem_cons_self⟩
    · rename_i hb
      refine .inr ⟨hfind, hnot, ?_⟩
      rw [hattach.move]
      simp [Move.closes, hb]
  · rw [hdetach.attachments] at hfind
    have hb : buffer ≠ b := by
      rintro rfl
      exact hnot now hdetach.move
    rw [Attachments.find?_detach hb] at hfind
    refine .inr ⟨hfind, hnot, ?_⟩
    rw [hdetach.buffers, Buffers.InStep.filter_eq h hdetach.attached, List.mem_filter, hdetach.move]
    simp [Move.closes, hb]

/-- **An attached buffer has been attached by some move**, not detached since, and its subscription is live
unless the editor has closed it since. -/
theorem exists_attached (h : start.InStep) (hnone : ∀ b, start.tracker.attachments.find? b = none)
    (hfind : (start.moves ms).tracker.attachments.find? buffer = some attachment) :
    ∃ before now client after, ms = before ++ .event now (.attached client buffer) :: after ∧
      ((start.moves before).attach now client buffer).2 = true ∧
      (∀ time, .event time (.detached buffer) ∉ after) ∧
      ((start.moves ms).Live buffer attachment ↔ after.any (·.closes buffer) = false) := by
  induction ms using List.reverseRecOn with
  | nil => exact absurd ((hnone buffer).symm.trans hfind) (by simp)
  | append_singleton ms m ih =>
    rw [moves_concat] at hfind ⊢
    rcases attached_move (h.moves ms) hfind with ⟨now, client, rfl, hattach, hlive⟩ |
      ⟨hbefore, hnot, hlive⟩
    · exact ⟨ms, now, client, [], rfl, hattach, by simp, by simp [hlive]⟩
    · obtain ⟨before, now, client, after, rfl, hattach, hdetached, hsince⟩ := ih hbefore
      refine ⟨before, now, client, after ++ [m], by simp, hattach, ?_, ?_⟩
      · intro time hmem
        rcases List.mem_append.1 hmem with hmem | hmem
        · exact hdetached time hmem
        · exact hnot time (List.mem_singleton.1 hmem).symm
      · rw [hlive, hsince]
        simp

/-- **Attachments and subscriptions stay in step.**  A session starts while there are no subscriptions; then
events, passes, changes of the editor's buffers and of the rest of the outside world come in any order, and
any requests for subscriptions are refused.  After every such run each live subscription is the one its buffer
is attached with, and a buffer that is not attached has none.  An attached buffer was attached by some event
and not detached since; it has one subscription if the editor has not closed it since, and none if it has.
The numbers given to buffers grow, so none is given twice.  Detaching a buffer, be its subscription live or
long ended, ends the subscriptions of no other. -/
theorem subscriptions_moves {config : Config} {env : Environment} {libraries : Libraries}
    {last : Session} {ms : List Move}
    (hstart : start = startWith config env libraries)
    (hnone : env.buffers.subscriptions = [])
    (hlast : last = start.moves ms) :
    (∀ number buffer, (number, buffer) ∈ last.env.buffers.subscriptions →
      ∃ scope, last.tracker.attachments.find? buffer = some ⟨scope, number⟩) ∧
    (∀ buffer, last.tracker.attachments.find? buffer = none →
      last.env.buffers.subscriptionCount buffer = 0) ∧
    (∀ buffer attachment, last.tracker.attachments.find? buffer = some attachment →
      ∃ before now client after, ms = before ++ .event now (.attached client buffer) :: after ∧
        ((start.moves before).attach now client buffer).2 = true ∧
        (∀ time, .event time (.detached buffer) ∉ after) ∧
        last.env.buffers.subscriptionCount buffer = if after.any (·.closes buffer) then 0 else 1) ∧
    (start.granted ms).Pairwise (· < ·) ∧
    ∀ now buffer, (last.handle now (.detached buffer)).env.buffers.subscriptions =
      last.env.buffers.subscriptions.filter (·.2 != buffer) := by
  have hfree : ∀ b, start.tracker.attachments.find? b = none := by
    intro b
    rw [hstart]
    rfl
  have hsubscriptions : start.env.buffers.subscriptions = [] := by
    rw [hstart]
    exact hnone
  have hinStep : start.InStep := inStep_of_fresh hfree hsubscriptions
  have hlastInStep : last.InStep := hlast ▸ hinStep.moves ms
  refine ⟨hlastInStep.held, fun b => hlastInStep.subscriptionCount_eq_zero, ?_, ?_, ?_⟩
  · intro buffer attachment hfind
    have hcount := hlastInStep.subscriptionCount_eq hfind
    rw [hlast] at hfind
    obtain ⟨before, now, client, after, hms, hattach, hdetached, hlive⟩ :=
      exists_attached hinStep hfree hfind
    refine ⟨before, now, client, after, hms, hattach, hdetached, ?_⟩
    rw [← hlast] at hlive
    unfold Live at hlive
    rw [hcount]
    cases hclosed : after.any (·.closes buffer) with
    | true => rw [if_neg (by rw [hlive, hclosed]; simp), if_pos rfl]
    | false => rw [if_pos (hlive.2 hclosed), if_neg (by simp)]
  · exact (pairwise_granted start ms).2
  · intro now buffer
    simp only [handle, Session.detach]
    cases hfind : last.tracker.attachments.find? buffer with
    | some attachment => exact hlastInStep.filter_eq hfind
    | none =>
      refine (List.filter_eq_self.2 ?_).symm
      rintro ⟨number, b⟩ hmem
      rw [bne_iff_ne]
      rintro rfl
      obtain ⟨scope, hb⟩ := hlastInStep.held number _ hmem
      rw [hfind] at hb
      cases hb

/-- A buffer is attached, closed, opened again, detached and attached anew. -/
def smallMoves : List Move :=
  [.event 0 (.attached smallClient 1), .change (.close 1),
    .change (.load 1 (some (.ofString "/work/app/a.lua")) ""), .event 0 (.detached 1),
    .event 0 (.attached smallClient 1)]

/-- Only a buffer that is attached anew gets a subscription again, under another number. -/
theorem subscriptions_moves_small :
    (small 0 "").granted smallMoves = [1, 2] ∧
    ((small 0 "").moves (smallMoves.take 3)).env.buffers.subscriptions = [] ∧
    ((small 0 "").moves smallMoves).env.buffers.subscriptions = [(2, 1)] ∧
    (∃ scope, ((small 0 "").moves smallMoves).tracker.attachments.find? 1 = some ⟨scope, 2⟩) ∧
    (((small 0 "").moves smallMoves).handle 0 (.detached 1)).env.buffers.subscriptions =
      ((small 0 "").moves smallMoves).env.buffers.subscriptions.filter (·.2 != 1) := by
  have hlive : ((small 0 "").moves smallMoves).env.buffers.subscriptions = [(2, 1)] := by
    decide +kernel
  obtain ⟨hheld, -, -, -, hdetached⟩ :=
    subscriptions_moves (rfl : small 0 "" = _) rfl (rfl : _ = (small 0 "").moves smallMoves)
  refine ⟨by decide +kernel, by decide +kernel, hlive, hheld 2 1 ?_, hdetached 0 1⟩
  rw [hlive]
  exact List.mem_cons_self

end Session

end LibraryPaths

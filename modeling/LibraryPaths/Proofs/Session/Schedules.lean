import LibraryPaths.Proofs.Session.Received
import LibraryPaths.Proofs.Session.Trace
import LibraryPaths.Proofs.Session.Undelivered

/-!
# Schedules do not matter

When passes run is left open: it depends on the time that goes by between events and, if an event waits while
the deadline has passed, on a choice.  None of it can be seen after the loop has ended.  Events act on the
picture alone and passes leave it alone, so the picture depends on the events only (`picture_run_of_events`).
Whether a pass runs at all depends on whether an event began the quiet window (`exists_isPass_iff`); if one
does, nothing is due in the end (`due?_eq_none_of_isPass`), and a client has been sent what is offered then,
or nothing, whatever the passes in between sent it (`Received.agree`).
-/

set_option autoImplicit false

namespace LibraryPaths

/-- Updates that are the same, paths being compared by components. -/
def Update.Same (u v : Update) : Prop :=
  u.sectionName = v.sectionName ∧
    u.folders.map (fun entry => (entry.folder, entry.library.map Path.components)) =
      v.folders.map (fun entry => (entry.folder, entry.library.map Path.components))

/-- Whether one of some events begins the quiet window anew. -/
def Picture.signalled (picture : Picture) : List Event → Bool
  | [] => false
  | event :: events => picture.signals event || (picture.after event).signalled events

namespace Session

variable {start session other : Session} {acts : List Act} {client : Client} {folder : Folder}
  {update : Update}

theorem Act.editsBuffers_of_isEdit {a : Act} (ha : a.isEdit = false) : a.EditsBuffers := by
  cases a with
  | edit change => cases ha
  | event now event => trivial
  | pass now => trivial

/-! ## The picture and the timer -/

/-- **The picture after a run depends on the events alone.** -/
theorem picture_run_of_events (hedits : ∀ a ∈ acts, a.isEdit = false) :
    (session.run acts).picture = (eventsOf acts).foldl Picture.after session.picture := by
  induction acts generalizing session with
  | nil => rfl
  | cons a acts ih =>
    rw [run_cons, ih fun b hb => hedits b (List.mem_cons_of_mem _ hb)]
    cases a with
    | event now event =>
      show (eventsOf acts).foldl _ (session.handle now event).picture = _
      rw [picture_handle]
      rfl
    | pass now =>
      show (eventsOf acts).foldl _ (session.reconcile now).1.picture = _
      rw [picture_reconcile]
      rfl
    | edit change => exact absurd (hedits (.edit change) List.mem_cons_self) (by simp [Act.isEdit])

/-- Without passes the timer is armed iff it was, or an event has begun the quiet window. -/
theorem isArmed_run_of_events (hedits : ∀ a ∈ acts, a.isEdit = false)
    (hpasses : ∀ a ∈ acts, a.isPass = false) :
    (session.run acts).tracker.timer.isArmed =
      (session.tracker.timer.isArmed || session.picture.signalled (eventsOf acts)) := by
  induction acts generalizing session with
  | nil => exact (Bool.or_false _).symm
  | cons a acts ih =>
    rw [run_cons, ih (fun b hb => hedits b (List.mem_cons_of_mem _ hb)) fun b hb =>
      hpasses b (List.mem_cons_of_mem _ hb)]
    cases a with
    | event now event =>
      show ((session.handle now event).tracker.timer.isArmed ||
        (session.handle now event).picture.signalled (eventsOf acts)) =
          (_ || (session.picture.signals event || (session.picture.after event).signalled (eventsOf acts)))
      rw [timer_handle, picture_handle]
      cases session.picture.signals event with
      | true => simp [QuietTimer.isArmed, QuietTimer.arm]
      | false => rfl
    | pass now => exact absurd (hpasses (.pass now) List.mem_cons_self) (by simp [Act.isPass])
    | edit change => exact absurd (hedits (.edit change) List.mem_cons_self) (by simp [Act.isEdit])

/-- A pass in a timely run is due to an event, or to what came before the run. -/
theorem signalled_of_isPass (hedits : ∀ a ∈ acts, a.isEdit = false) (htimely : Timely session acts)
    (hpass : ∃ a ∈ acts, a.isPass = true) :
    (session.tracker.timer.isArmed || session.picture.signalled (eventsOf acts)) = true := by
  induction acts generalizing session with
  | nil =>
    obtain ⟨a, ha, -⟩ := hpass
    cases ha
  | cons a acts ih =>
    cases a with
    | pass now => rw [htimely.1 rfl]; rfl
    | edit change => exact absurd (hedits (.edit change) List.mem_cons_self) (by simp [Act.isEdit])
    | event now event =>
      have hlater : ∃ b ∈ acts, b.isPass = true := by
        obtain ⟨b, hb, hpass⟩ := hpass
        rcases List.mem_cons.1 hb with rfl | hb
        · cases hpass
        · exact ⟨b, hb, hpass⟩
      have hsignalled := ih (fun b hb => hedits b (List.mem_cons_of_mem _ hb)) htimely.2 hlater
      show (_ || (session.picture.signals event ||
        (session.picture.after event).signalled (eventsOf acts))) = true
      have htimer := timer_handle now session event
      have hpicture := picture_handle now session event
      change ((session.handle now event).tracker.timer.isArmed ||
        (session.handle now event).picture.signalled (eventsOf acts)) = true at hsignalled
      rw [htimer, hpicture] at hsignalled
      cases hsignals : session.picture.signals event with
      | true => simp
      | false =>
        rw [if_neg (by simp [hsignals])] at hsignalled
        rw [Bool.false_or]
        exact hsignalled

/-- **A run that ends unarmed has a pass iff something asked for one.** -/
theorem exists_isPass_iff (hedits : ∀ a ∈ acts, a.isEdit = false) (htimely : Timely session acts)
    (hunarmed : (session.run acts).tracker.timer.isArmed = false) :
    (∃ a ∈ acts, a.isPass = true) ↔
      (session.tracker.timer.isArmed || session.picture.signalled (eventsOf acts)) = true := by
  refine ⟨signalled_of_isPass hedits htimely, ?_⟩
  intro hsignalled
  by_contra hnone
  have hpasses : ∀ a ∈ acts, a.isPass = false := by
    intro a ha
    cases hpass : a.isPass with
    | false => rfl
    | true => exact absurd ⟨a, ha, hpass⟩ hnone
  rw [isArmed_run_of_events hedits hpasses, hsignalled] at hunarmed
  cases hunarmed

/-! ## What is due and what was sent -/

theorem exists_last_pass (hpass : ∃ a ∈ acts, a.isPass = true) :
    ∃ before now after, acts = before ++ .pass now :: after ∧ ∀ a ∈ after, a.isPass = false := by
  induction acts with
  | nil =>
    obtain ⟨a, ha, -⟩ := hpass
    cases ha
  | cons a acts ih =>
    by_cases hlater : ∃ b ∈ acts, b.isPass = true
    · obtain ⟨before, now, after, rfl, hafter⟩ := ih hlater
      exact ⟨a :: before, now, after, rfl, hafter⟩
    · have hrest : ∀ b ∈ acts, b.isPass = false := by
        intro b hb
        cases h : b.isPass with
        | false => rfl
        | true => exact absurd ⟨b, hb, h⟩ hlater
      obtain ⟨b, hb, hb'⟩ := hpass
      rcases List.mem_cons.1 hb with rfl | hb
      · cases b with
        | pass now => exact ⟨[], now, acts, rfl, hrest⟩
        | event now event => cases hb'
        | edit change => cases hb'
      · rw [hrest b hb] at hb'
        cases hb'

/-- While no push is refused, a run with a pass that ends unarmed leaves nothing due. -/
theorem due?_eq_none_of_isPass (hedits : ∀ a ∈ acts, a.isEdit = false)
    (hrefuses : ∀ k, session.env.clients.refuses k = false) (hpass : ∃ a ∈ acts, a.isPass = true)
    (hunarmed : (session.run acts).tracker.timer.isArmed = false)
    (hclient : client ∈ session.env.clients.named session.tracker.config.clientName)
    (hfolder : folder ∈ session.enabled client) :
    (session.run acts).tracker.libraries.due? (keyOf client folder) = none := by
  obtain ⟨before, now, after, rfl, hafter⟩ := exists_last_pass hpass
  have hbuffers : ∀ a ∈ before, a.EditsBuffers :=
    fun a ha => Act.editsBuffers_of_isEdit (hedits a (List.mem_append_left _ ha))
  obtain ⟨-, hconnected, hrefuses'⟩ := world_run session hbuffers
  rw [run_append] at hunarmed ⊢
  refine due?_eq_none_of_unarmed after ?_ hafter hunarmed ?_ ?_
  · intro k
    rw [hrefuses']
    exact hrefuses k
  · unfold Clients.named
    rw [hconnected, config_run]
    exact hclient
  · rw [enabled_run session hbuffers]
    exact hfolder

theorem clients_run (hedits : ∀ a ∈ acts, a.isEdit = false) (hpasses : ∀ a ∈ acts, a.isPass = false) :
    (session.run acts).env.clients = session.env.clients := by
  induction acts generalizing session with
  | nil => rfl
  | cons a acts ih =>
    rw [run_cons, ih (fun b hb => hedits b (List.mem_cons_of_mem _ hb)) fun b hb =>
      hpasses b (List.mem_cons_of_mem _ hb)]
    cases a with
    | event now event => exact clients_handle now session event
    | pass now => exact absurd (hpasses (.pass now) List.mem_cons_self) (by simp [Act.isPass])
    | edit change => exact absurd (hedits (.edit change) List.mem_cons_self) (by simp [Act.isEdit])

/-- Where nothing is due, an update that mirrors the session holds what is offered. -/
theorem Mirrors.map_components (h : session.Mirrors client update)
    (hdue : ∀ folder ∈ session.enabled client,
      session.tracker.libraries.due? (keyOf client folder) = none) :
    update.folders.map (fun entry => (entry.folder, entry.library.map Path.components)) =
      (session.enabled client).map fun folder =>
        (folder, (session.tracker.libraries.offered (keyOf client folder)).map Path.components) := by
  rw [← h.folders, List.map_map]
  apply List.map_congr_left
  intro entry hentry
  have hfolder : entry.folder ∈ session.enabled client := by
    rw [← h.folders]
    exact List.mem_map_of_mem hentry
  have hoffered := hdue entry.folder hfolder
  rw [Libraries.due?_eq_none_iff, sameList_iff] at hoffered
  rw [sameList_iff.1 (h.delivered entry hentry), hoffered]
  rfl

/-- **Two sessions that agree on the picture and owe nothing have sent a client the same last update**, or
neither has sent it anything. -/
theorem Received.agree (h : Received start session client) (h' : Received start other client)
    (hstart : ∀ key, start.Offered key (start.tracker.libraries.delivered key))
    (hpicture : session.picture = other.picture)
    (hdue : client.name = session.tracker.config.clientName → ∀ folder ∈ session.enabled client,
      session.tracker.libraries.due? (keyOf client folder) = none)
    (hdue' : client.name = other.tracker.config.clientName → ∀ folder ∈ other.enabled client,
      other.tracker.libraries.due? (keyOf client folder) = none) :
    (session.env.clients.sentTo client.id = start.env.clients.sentTo client.id ∧
      other.env.clients.sentTo client.id = start.env.clients.sentTo client.id) ∨
    ∃ us u vs v,
      session.env.clients.sentTo client.id = start.env.clients.sentTo client.id ++ us ++ [u] ∧
      other.env.clients.sentTo client.id = start.env.clients.sentTo client.id ++ vs ++ [v] ∧
      u.Same v ∧ session.Mirrors client u ∧ other.Mirrors client v := by
  have hconfig : session.tracker.config = other.tracker.config := congrArg Picture.config hpicture
  have henabled : session.enabled client = other.enabled client := enabled_congr hpicture client
  cases h with
  | nothing hsent hdelivered =>
    cases h' with
    | nothing hsent' _ => exact .inl ⟨hsent, hsent'⟩
    | parcels _ _ hname hrenewed _ _ =>
      -- the other one offered something new, so it would be due here
      obtain ⟨folder, hfolder, hnew⟩ := hrenewed
      have hnew' : Renewed start session (keyOf client folder) :=
        hnew.mono fun scope => by rw [stored_congr hpicture]
      exact absurd (hdue (hconfig ▸ hname) folder (henabled ▸ hfolder))
        (due?_ne_none_of_renewed (hstart _) hnew' (hdelivered _ rfl))
  | parcels us u hname hrenewed hsent hmirrors =>
    cases h' with
    | nothing _ hdelivered' =>
      obtain ⟨folder, hfolder, hnew⟩ := hrenewed
      have hnew' : Renewed start other (keyOf client folder) :=
        hnew.mono fun scope => by rw [stored_congr hpicture]
      exact absurd (hdue' (hconfig ▸ hname) folder (henabled ▸ hfolder))
        (due?_ne_none_of_renewed (hstart _) hnew' (hdelivered' _ rfl))
    | parcels vs v hname' _ hsent' hmirrors' =>
      refine .inr ⟨us, u, vs, v, hsent, hsent', ⟨?_, ?_⟩, hmirrors, hmirrors'⟩
      · rw [hmirrors.sectionName, hmirrors'.sectionName, hconfig]
      · rw [hmirrors.map_components (hdue hname), hmirrors'.map_components (hdue' hname'), henabled]
        simp only [offered_congr hpicture]

/-! ## Spelling -/

/-- Stored paths stay plain where the working directory has plain names. -/
theorem plain_run (hacts : ∀ a ∈ acts, a.EditsBuffers)
    (hwork : ∀ n ∈ session.env.files.workingDirectory, PlainName n)
    (h : ∀ scope, ∀ p ∈ session.stored scope, p.Plain) :
    ∀ scope, ∀ p ∈ (session.run acts).stored scope, p.Plain := by
  induction acts generalizing session with
  | nil => exact h
  | cons a acts ih =>
    refine ih (fun b hb => hacts b (List.mem_cons_of_mem _ hb)) ?_ ?_
    · rw [files_act session (hacts a List.mem_cons_self).keeps_files]
      exact hwork
    · intro scope p hp
      rcases mem_stored_act hp with hp | ⟨q, rfl⟩
      · exact h scope p hp
      · exact FileSystem.plain_normalize hwork q

theorem Mirrors.plain (h : session.Mirrors client update)
    (hplain : ∀ scope, ∀ p ∈ session.stored scope, p.Plain) :
    ∀ entry ∈ update.folders, ∀ p ∈ entry.library, p.Plain :=
  fun entry hentry => (h.offered entry hentry).plain hplain

end Session

/-- Updates of plain paths that are the same are equal. -/
theorem Update.Same.eq_of_plain {u v : Update} (h : u.Same v)
    (hu : ∀ entry ∈ u.folders, ∀ p ∈ entry.library, p.Plain)
    (hv : ∀ entry ∈ v.folders, ∀ p ∈ entry.library, p.Plain) : u = v := by
  obtain ⟨sectionName, folders⟩ := u
  obtain ⟨sectionName', folders'⟩ := v
  obtain ⟨rfl, hfolders⟩ := h
  have heq : folders = folders' := by
    refine eq_of_map_eq_map ?_ hfolders
    intro a ha b hb hab
    obtain ⟨folder, library⟩ := a
    obtain ⟨folder', library'⟩ := b
    obtain ⟨rfl, hlibrary⟩ := Prod.mk.inj hab
    have hlibrary' : library = library' :=
      eq_of_map_eq_map (fun p hp q hq => (hu _ ha p hp).eq_of_same (hv _ hb q hq)) hlibrary
    rw [hlibrary']
  rw [heq]

/-! ## Two runs -/

namespace Session

/-- Two timely runs that handle the same events and end unarmed have sent a client the same in the end. -/
theorem agree_of_events {start : Session} {acts₁ acts₂ : List Act} {client : Client}
    (hstart : ∀ key, start.Offered key (start.tracker.libraries.delivered key))
    (hrefuses : ∀ k, start.env.clients.refuses k = false)
    (hids : (start.env.clients.connected.map (·.id)).Nodup)
    (hclient : client ∈ start.env.clients.connected)
    (hedits₁ : ∀ a ∈ acts₁, a.isEdit = false) (hedits₂ : ∀ a ∈ acts₂, a.isEdit = false)
    (htimely₁ : Timely start acts₁) (htimely₂ : Timely start acts₂)
    (hunarmed₁ : (start.run acts₁).tracker.timer.isArmed = false)
    (hunarmed₂ : (start.run acts₂).tracker.timer.isArmed = false)
    (hevents : eventsOf acts₁ = eventsOf acts₂) :
    ((start.run acts₁).env.clients.sentTo client.id = start.env.clients.sentTo client.id ∧
      (start.run acts₂).env.clients.sentTo client.id = start.env.clients.sentTo client.id) ∨
    ∃ us u vs v,
      (start.run acts₁).env.clients.sentTo client.id =
        start.env.clients.sentTo client.id ++ us ++ [u] ∧
      (start.run acts₂).env.clients.sentTo client.id =
        start.env.clients.sentTo client.id ++ vs ++ [v] ∧
      u.Same v ∧ (start.run acts₁).Mirrors client u ∧ (start.run acts₂).Mirrors client v := by
  have hpasses := exists_isPass_iff hedits₁ htimely₁ hunarmed₁
  rw [hevents, ← exists_isPass_iff hedits₂ htimely₂ hunarmed₂] at hpasses
  have hreceived : ∀ acts : List Act, (∀ a ∈ acts, a.isEdit = false) →
      Received start (start.run acts) client := fun acts hedits =>
    (Received.refl start client).run (fun a ha => Act.editsBuffers_of_isEdit (hedits a ha))
      (fun _ => List.prefix_rfl) hrefuses hids hclient
  by_cases hpass : ∃ a ∈ acts₁, a.isPass = true
  · -- both had a pass and have ended unarmed, so neither owes anything
    have hdue : ∀ acts : List Act, (∀ a ∈ acts, a.isEdit = false) → (∃ a ∈ acts, a.isPass = true) →
        (start.run acts).tracker.timer.isArmed = false →
        client.name = (start.run acts).tracker.config.clientName →
        ∀ folder ∈ (start.run acts).enabled client,
          (start.run acts).tracker.libraries.due? (keyOf client folder) = none := by
      intro acts hedits hpass hunarmed hname folder hfolder
      rw [config_run] at hname
      rw [enabled_run start fun a ha => Act.editsBuffers_of_isEdit (hedits a ha)] at hfolder
      exact due?_eq_none_of_isPass hedits hrefuses hpass hunarmed
        (List.mem_filter.2 ⟨hclient, beq_iff_eq.2 hname⟩) hfolder
    refine (hreceived acts₁ hedits₁).agree (hreceived acts₂ hedits₂) hstart ?_
      (hdue acts₁ hedits₁ hpass hunarmed₁) (hdue acts₂ hedits₂ (hpasses.1 hpass) hunarmed₂)
    rw [picture_run_of_events hedits₁, picture_run_of_events hedits₂, hevents]
  · -- neither had a pass, and nothing else is sent
    have hsent : ∀ acts : List Act, (∀ a ∈ acts, a.isEdit = false) → (¬ ∃ a ∈ acts, a.isPass = true) →
        (start.run acts).env.clients.sentTo client.id = start.env.clients.sentTo client.id := by
      intro acts hedits hnone
      rw [clients_run hedits fun a ha => Bool.eq_false_iff.2 fun h => hnone ⟨a, ha, h⟩]
    exact .inl ⟨hsent acts₁ hedits₁ hpass, hsent acts₂ hedits₂ fun h => hpass (hpasses.2 h)⟩

end Session

namespace Loop

open Session (Act startWith eventsOf)

/-- **Schedules do not matter.**  A session that has run from one that had delivered nothing is taken up by
a loop; no push is refused any more, ids are distinct, and the outside world does nothing but send events.
Two loops that are sent the same events, at whatever times and with whatever choices between an event and an
expired deadline, both handle every event once and in the order in which they were sent.  When they have
ended, the libraries, resolutions, attachments and buffers are the same, no timer is armed, and every client
was sent nothing by either, or the same by both in the end: the same paths compared by components, and
letter for letter if the working directory and the paths stored before are spelled plainly. -/
theorem finish_of_sent_eq {config : Config} {env : Environment} {libraries : Libraries}
    {earlier : List Act} {start : Session} {time₁ time₂ : Nat} {actions₁ actions₂ : List Action}
    {last₁ last₂ : Loop}
    (hstart : start = (startWith config env libraries).run earlier)
    (hfresh : ∀ key, libraries.delivered key = [])
    (hrefuses : ∀ k, start.env.clients.refuses k = false)
    (hids : (start.env.clients.connected.map (·.id)).Nodup)
    (hrun₁ : (Loop.mk start [] time₁).run? actions₁ = some last₁)
    (hrun₂ : (Loop.mk start [] time₂).run? actions₂ = some last₂)
    (hedits₁ : ∀ action ∈ actions₁, action.isEdit = false)
    (hedits₂ : ∀ action ∈ actions₂, action.isEdit = false)
    (hsent : sent actions₁ = sent actions₂) :
    eventsOf ((Loop.mk start [] time₁).acts actions₁ last₁) = sent actions₁ ∧
      eventsOf ((Loop.mk start [] time₂).acts actions₂ last₂) = sent actions₁ ∧
      last₁.finish.session.picture = last₂.finish.session.picture ∧
      last₁.finish.session.tracker.timer.isArmed = false ∧
      last₂.finish.session.tracker.timer.isArmed = false ∧
      ∀ client ∈ start.env.clients.connected,
        (last₁.finish.session.env.clients.sentTo client.id = start.env.clients.sentTo client.id ∧
          last₂.finish.session.env.clients.sentTo client.id = start.env.clients.sentTo client.id) ∨
        ∃ us u vs v,
          last₁.finish.session.env.clients.sentTo client.id =
            start.env.clients.sentTo client.id ++ us ++ [u] ∧
          last₂.finish.session.env.clients.sentTo client.id =
            start.env.clients.sentTo client.id ++ vs ++ [v] ∧
          u.Same v ∧
          ((∀ n ∈ start.env.files.workingDirectory, PlainName n) →
            (∀ scope, ∀ p ∈ start.stored scope, p.Plain) → u = v) := by
  have hunarmed₁ := isArmed_finish last₁
  have hunarmed₂ := isArmed_finish last₂
  have hevents₁ := events_acts hrun₁
  have hevents₂ := events_acts hrun₂
  rw [List.nil_append] at hevents₁ hevents₂
  have hedits₁' := isEdit_acts (Loop.mk start [] time₁) last₁ hedits₁
  have hedits₂' := isEdit_acts (Loop.mk start [] time₂) last₂ hedits₂
  rw [session_acts hrun₁] at hunarmed₁ ⊢
  rw [session_acts hrun₂] at hunarmed₂ ⊢
  refine ⟨hevents₁, hevents₂.trans hsent.symm, ?_, hunarmed₁, hunarmed₂, ?_⟩
  · rw [Session.picture_run_of_events hedits₁', Session.picture_run_of_events hedits₂', hevents₁,
      hevents₂, hsent]
  · intro client hclient
    have hoffered : ∀ key, start.Offered key (start.tracker.libraries.delivered key) := by
      intro key
      rw [hstart]
      refine Session.offered_delivered_run earlier ?_ key
      intro k
      rw [show (startWith config env libraries).tracker.libraries.delivered k = [] from hfresh k]
      exact Session.offered_nil _ k
    rcases Session.agree_of_events hoffered hrefuses hids hclient hedits₁' hedits₂'
      (timely_acts hrun₁) (timely_acts hrun₂) hunarmed₁ hunarmed₂
      (hevents₁.trans (hsent.trans hevents₂.symm)) with
      hnothing | ⟨us, u, vs, v, hu, hv, hsame, hmirrors, hmirrors'⟩
    · exact .inl hnothing
    · refine .inr ⟨us, u, vs, v, hu, hv, hsame, ?_⟩
      intro hwork hplain
      have hplain' : ∀ acts : List Act, (∀ a ∈ acts, a.isEdit = false) →
          ∀ scope, ∀ p ∈ (start.run acts).stored scope, p.Plain := fun acts hedits =>
        Session.plain_run (fun a ha => Act.editsBuffers_of_isEdit (hedits a ha)) hwork hplain
      exact hsame.eq_of_plain (hmirrors.plain (hplain' _ hedits₁'))
        (hmirrors'.plain (hplain' _ hedits₂'))

/-- One loop answers an expired deadline between two events, the other handles both and is ended. -/
theorem finish_of_sent_eq_small :
    ∃ last₁ last₂,
      (Loop.mk (Session.small 0 "require \"m\"") [] 0).run?
        [.send (.attached Session.smallClient 1), .receive, .wait 100, .expire,
          .send (.library (.ofString "/x")), .receive] = some last₁ ∧
      (Loop.mk (Session.small 0 "require \"m\"") [] 5).run?
        [.send (.attached Session.smallClient 1), .send (.library (.ofString "/x")), .receive] =
          some last₂ ∧
      last₁.finish.session.picture = last₂.finish.session.picture ∧
      ∃ us u vs v, last₁.finish.session.env.clients.sentTo 1 = [] ++ us ++ [u] ∧
        last₂.finish.session.env.clients.sentTo 1 = [] ++ vs ++ [v] ∧ u = v := by
  obtain ⟨last₁, hrun₁⟩ : ∃ last, (Loop.mk (Session.small 0 "require \"m\"") [] 0).run?
      [.send (.attached Session.smallClient 1), .receive, .wait 100, .expire,
        .send (.library (.ofString "/x")), .receive] = some last :=
    Option.isSome_iff_exists.1 (by decide +kernel)
  obtain ⟨last₂, hrun₂⟩ : ∃ last, (Loop.mk (Session.small 0 "require \"m\"") [] 5).run?
      [.send (.attached Session.smallClient 1), .send (.library (.ofString "/x")), .receive] =
        some last :=
    Option.isSome_iff_exists.1 (by decide +kernel)
  have hsent₁ : last₁.finish.session.env.clients.sentTo 1 ≠ [] := by
    have h : ((Loop.mk (Session.small 0 "require \"m\"") [] 0).run?
      [.send (.attached Session.smallClient 1), .receive, .wait 100, .expire,
        .send (.library (.ofString "/x")), .receive]).all
          (fun last => !(last.finish.session.env.clients.sentTo 1).isEmpty) = true := by decide +kernel
    rw [hrun₁] at h
    simpa using h
  have hstart : Session.small 0 "require \"m\"" =
    (startWith {} (Session.small 0 "require \"m\"").env .empty).run [] := rfl
  obtain ⟨-, -, hpicture, -, -, hclients⟩ :=
    finish_of_sent_eq hstart (fun _ => rfl) (Session.refuses_small _) (by decide) hrun₁ hrun₂
      (by simp [Action.isEdit]) (by simp [Action.isEdit]) rfl
  refine ⟨last₁, last₂, hrun₁, hrun₂, hpicture, ?_⟩
  rcases hclients Session.smallClient List.mem_cons_self with ⟨hnothing, -⟩ |
    ⟨us, u, vs, v, hu, hv, -, heq⟩
  · exact absurd hnothing hsent₁
  · exact ⟨us, u, vs, v, hu, hv, heq (fun n hn => by cases hn) fun scope p hp => by cases scope <;> cases hp⟩

end Loop

end LibraryPaths

import Mathlib.Data.List.Nodup
import LibraryPaths.Proofs.Path.Spelling
import LibraryPaths.Proofs.Session.Runs

/-!
# What clients have received

While no push is refused and no two clients share an id, the last parcel a client was sent mirrors what
counts as delivered to it (`Session.Mirrors`): it lists the client's enabled folders in order, each with the
list that was delivered for it, and each list is one that the folder was offered at some time
(`Session.Offered`).  A client that was sent nothing has nothing delivered either (`Session.Received`).

* `Received.act`, `Received.run`: one step keeps that, and so does a whole run.
-/

set_option autoImplicit false

namespace LibraryPaths.Session

variable {start session next : Session} {a : Act} {acts : List Act} {client other : Client}
  {key : FolderKey} {paths : List Path} {update : Update} {now : Nat}

/-- A list that a folder was offered when the libraries were no longer than they are. -/
def Offered (session : Session) (key : FolderKey) (paths : List Path) : Prop :=
  ∃ g o, g <+: session.stored .global ∧ o <+: session.stored (.folder key) ∧
    paths = distinctPaths (g ++ o)

/-- An update lists the enabled folders of a client with what counts as delivered for them. -/
structure Mirrors (session : Session) (client : Client) (update : Update) : Prop where
  sectionName : update.sectionName = session.tracker.config.sectionName
  folders : update.folders.map (·.folder) = session.enabled client
  delivered : ∀ entry ∈ update.folders,
    Path.sameList entry.library
      (session.tracker.libraries.delivered (keyOf client entry.folder)) = true
  offered : ∀ entry ∈ update.folders, session.Offered (keyOf client entry.folder) entry.library

/-- Since the start, a client was offered a list for a folder that is not the one it had. -/
def Renewed (start session : Session) (key : FolderKey) : Prop :=
  ∃ g o, start.stored .global <+: g ∧ g <+: session.stored .global ∧
    start.stored (.folder key) <+: o ∧ o <+: session.stored (.folder key) ∧
    Path.sameList (start.tracker.libraries.delivered key) (distinctPaths (g ++ o)) = false

/-- What a client has received since the start of a run: nothing, or parcels because of something new, of
which the last one mirrors the session. -/
inductive Received (start session : Session) (client : Client) : Prop
  | nothing
      (hsent : session.env.clients.sentTo client.id = start.env.clients.sentTo client.id)
      (hdelivered : ∀ key, key.client = client.id →
        session.tracker.libraries.delivered key = start.tracker.libraries.delivered key)
  | parcels (earlier : List Update) (update : Update)
      (hname : client.name = session.tracker.config.clientName)
      (hrenewed : ∃ folder ∈ session.enabled client, Renewed start session (keyOf client folder))
      (hsent : session.env.clients.sentTo client.id =
        start.env.clients.sentTo client.id ++ earlier ++ [update])
      (hmirrors : session.Mirrors client update)

/-! ## Offers -/

theorem offered_now (session : Session) (key : FolderKey) :
    session.Offered key (session.tracker.libraries.offered key) :=
  ⟨_, _, List.prefix_rfl, List.prefix_rfl, Libraries.offered_eq _ _⟩

theorem Offered.mono (h : session.Offered key paths)
    (hgrown : ∀ scope, session.stored scope <+: next.stored scope) : next.Offered key paths := by
  obtain ⟨g, o, hg, ho, heq⟩ := h
  exact ⟨g, o, hg.trans (hgrown _), ho.trans (hgrown _), heq⟩

/-- Where stored paths are spelled plainly, so are the offers. -/
theorem Offered.plain (h : session.Offered key paths)
    (hplain : ∀ scope, ∀ p ∈ session.stored scope, p.Plain) : ∀ p ∈ paths, p.Plain := by
  obtain ⟨g, o, hg, ho, rfl⟩ := h
  intro p hp
  rcases List.mem_append.1 (mem_of_mem_distinctPaths hp) with hp | hp
  · exact hplain _ p (hg.subset hp)
  · exact hplain _ p (ho.subset hp)

theorem Renewed.mono (h : Renewed start session key)
    (hgrown : ∀ scope, session.stored scope <+: next.stored scope) : Renewed start next key := by
  obtain ⟨g, o, hg, hg', ho, ho', hne⟩ := h
  exact ⟨g, o, hg, hg'.trans (hgrown _), ho, ho'.trans (hgrown _), hne⟩

theorem offered_nil (session : Session) (key : FolderKey) : session.Offered key [] :=
  ⟨[], [], List.nil_prefix, List.nil_prefix, rfl⟩

/-- Only offers are delivered, whatever happens. -/
theorem offered_delivered_act (a : Act)
    (h : ∀ key, session.Offered key (session.tracker.libraries.delivered key)) (key : FolderKey) :
    (session.act a).Offered key ((session.act a).tracker.libraries.delivered key) := by
  cases a with
  | event now event =>
    have hdelivered : (session.act (.event now event)).tracker.libraries.delivered key =
        session.tracker.libraries.delivered key := delivered_handle now session event key
    rw [hdelivered]
    exact (h key).mono (prefix_act session _)
  | edit change => exact h key
  | pass now =>
    have hvisits : ∀ (clients : List Client) (s : Session),
        s.Offered key (s.tracker.libraries.delivered key) →
        (clients.foldl (visit now) s).Offered key
          ((clients.foldl (visit now) s).tracker.libraries.delivered key) := by
      intro clients
      induction clients with
      | nil => exact fun s hs => hs
      | cons client clients ih =>
        intro s hs
        have hpicture := picture_visit now s client
        have hgrown : ∀ scope, s.stored scope <+: (s.visit now client).stored scope :=
          fun scope => by rw [stored_congr hpicture]
        refine ih _ ?_
        have hdelivered := delivered_reconcileClient now s client key
        split at hdelivered
        · exact hdelivered ▸ (offered_now s key).mono hgrown
        · exact hdelivered ▸ hs.mono hgrown
    show (session.reconcile now).1.Offered key ((session.reconcile now).1.tracker.libraries.delivered key)
    rw [reconcile_fst]
    refine hvisits _ _ ?_
    rw [libraries_beginPass]
    exact (h key).mono fun scope => by rw [stored_congr (picture_beginPass session)]

/-- **Only offers are ever delivered.** -/
theorem offered_delivered_run (acts : List Act)
    (h : ∀ key, session.Offered key (session.tracker.libraries.delivered key)) (key : FolderKey) :
    (session.run acts).Offered key ((session.run acts).tracker.libraries.delivered key) := by
  induction acts generalizing session with
  | nil => exact h key
  | cons a acts ih => exact ih (offered_delivered_act a h)

/-! ## Steps that concern other things -/

/-- A mirror stays one while the enabled folders and the deliveries stay and the libraries only grow. -/
theorem Mirrors.keep (h : session.Mirrors client update)
    (hconfig : next.tracker.config = session.tracker.config)
    (henabled : next.enabled client = session.enabled client)
    (hdelivered : ∀ key, key.client = client.id →
      next.tracker.libraries.delivered key = session.tracker.libraries.delivered key)
    (hgrown : ∀ scope, session.stored scope <+: next.stored scope) :
    next.Mirrors client update where
  sectionName := by rw [hconfig]; exact h.sectionName
  folders := by rw [henabled]; exact h.folders
  delivered := by
    intro entry hentry
    rw [hdelivered _ rfl]
    exact h.delivered entry hentry
  offered := fun entry hentry => (h.offered entry hentry).mono hgrown

theorem Received.keep (h : Received start session client)
    (hconfig : next.tracker.config = session.tracker.config)
    (henabled : next.enabled client = session.enabled client)
    (hsent : next.env.clients.sentTo client.id = session.env.clients.sentTo client.id)
    (hdelivered : ∀ key, key.client = client.id →
      next.tracker.libraries.delivered key = session.tracker.libraries.delivered key)
    (hgrown : ∀ scope, session.stored scope <+: next.stored scope) :
    Received start next client := by
  cases h with
  | nothing hsent' hdelivered' =>
    exact .nothing (hsent.trans hsent') fun key hkey => (hdelivered key hkey).trans (hdelivered' key hkey)
  | parcels earlier update hname hrenewed hsent' hmirrors =>
    refine .parcels earlier update (hconfig ▸ hname) ?_ (hsent.trans hsent')
      (hmirrors.keep hconfig henabled hdelivered hgrown)
    obtain ⟨folder, hfolder, hnew⟩ := hrenewed
    exact ⟨folder, henabled ▸ hfolder, hnew.mono hgrown⟩

theorem client_of_mem_enabledKeys (h : key ∈ session.enabledKeys client) : key.client = client.id := by
  obtain ⟨folder, -, rfl⟩ := List.mem_map.1 h
  rfl

/-- A visit changes what counts as delivered for the folders of its own client only. -/
theorem delivered_visit_of_ne (now : Nat) (session : Session) (hid : other.id ≠ key.client) :
    (session.visit now other).tracker.libraries.delivered key =
      session.tracker.libraries.delivered key := by
  refine (delivered_reconcileClient now session other key).trans (if_neg ?_)
  rintro ⟨-, hmem, -⟩
  exact hid (client_of_mem_enabledKeys hmem).symm

/-- A visit to a client with another id. -/
theorem Received.visit_other (h : Received start session client) (hid : other.id ≠ client.id) :
    Received start (session.visit now other) client := by
  have hpicture := picture_visit now session other
  refine h.keep (congrArg Picture.config hpicture) (enabled_congr hpicture client)
    (sentTo_reconcileClient_of_ne now session hid)
    (fun key hkey => delivered_visit_of_ne now session (hkey ▸ hid)) ?_
  intro scope
  rw [stored_congr hpicture]

/-! ## A visit to the client itself -/

/-- A parcel that was received mirrors the session after its push. -/
theorem mirrors_parcel (now : Nat)
    (haccepts : session.env.clients.accepts client.id = true) :
    (session.visit now client).Mirrors client (session.parcel client) := by
  have hpicture := picture_visit now session client
  have hentry : ∀ entry ∈ (session.parcel client).folders, ∃ folder ∈ session.enabled client,
      entry = ⟨folder, session.tracker.libraries.offered (keyOf client folder)⟩ := by
    intro entry hentry
    obtain ⟨folder, hfolder, rfl⟩ := List.mem_map.1 hentry
    exact ⟨folder, hfolder, rfl⟩
  refine ⟨?_, ?_, ?_, ?_⟩
  · exact congrArg Config.sectionName (congrArg Picture.config hpicture).symm
  · rw [enabled_congr hpicture, parcel, updateFor, List.map_map]
    exact List.map_id _
  · intro entry hmem
    obtain ⟨folder, hfolder, rfl⟩ := hentry entry hmem
    -- after the visit nothing is due, so what is offered is what was delivered
    have hkey : keyOf client folder ∈ session.enabledKeys client := List.mem_map_of_mem hfolder
    have hdue : (session.visit now client).tracker.libraries.due? (keyOf client folder) = none :=
      due?_reconcileClient_of_mem (fun _ => haccepts) hkey
    rw [Libraries.due?_eq_none_iff, sameList_iff] at hdue
    rw [sameList_iff, ← offered_congr hpicture]
    exact hdue.symm
  · intro entry hmem
    obtain ⟨folder, hfolder, rfl⟩ := hentry entry hmem
    show (session.visit now client).Offered (keyOf client folder) _
    rw [← offered_congr hpicture]
    exact offered_now _ _

/-- What is due for a client that was sent nothing is something new. -/
theorem renewed_of_wants (hgrown : ∀ scope, start.stored scope <+: session.stored scope)
    (hdelivered : ∀ key, key.client = client.id →
      session.tracker.libraries.delivered key = start.tracker.libraries.delivered key)
    (hwants : session.wants client = true) :
    ∃ folder ∈ session.enabled client, Renewed start session (keyOf client folder) := by
  obtain ⟨key, hkey, paths, hdue⟩ := wants_iff.1 hwants
  obtain ⟨folder, hfolder, rfl⟩ := List.mem_map.1 hkey
  have hne := (Libraries.due?_eq_some_iff.1 hdue).1
  rw [hdelivered _ rfl, Libraries.offered_eq] at hne
  exact ⟨folder, hfolder, _, _, hgrown _, List.prefix_rfl, hgrown _, List.prefix_rfl, hne⟩

theorem Received.visit_self (h : Received start session client)
    (hgrown : ∀ scope, start.stored scope <+: session.stored scope)
    (hname : client.name = session.tracker.config.clientName)
    (haccepts : session.env.clients.accepts client.id = true) :
    Received start (session.visit now client) client := by
  have hpicture := picture_visit now session client
  have hvisit : ∀ scope, session.stored scope <+: (session.visit now client).stored scope :=
    fun scope => by rw [stored_congr hpicture]
  have hsent := sentTo_reconcileClient now session client
  cases hwants : session.wants client with
  | false =>
    rw [if_neg (by simp [snd_reconcileClient, hwants])] at hsent
    refine h.keep (congrArg Picture.config hpicture) (enabled_congr hpicture client) hsent ?_ hvisit
    intro key _
    refine (delivered_reconcileClient now session client key).trans (if_neg ?_)
    simp [snd_reconcileClient, hwants]
  | true =>
    rw [if_pos (by simp [snd_reconcileClient, hwants, haccepts])] at hsent
    change (session.visit now client).env.clients.sentTo client.id = _ at hsent
    have hmirrors := mirrors_parcel now haccepts
    have hname' : client.name = (session.visit now client).tracker.config.clientName :=
      hname.trans (congrArg (fun picture => picture.config.clientName) hpicture).symm
    have henabled : (session.visit now client).enabled client = session.enabled client :=
      enabled_congr hpicture client
    cases h with
    | nothing hsent' hdelivered =>
      obtain ⟨folder, hfolder, hnew⟩ := renewed_of_wants hgrown hdelivered hwants
      exact .parcels [] _ hname' ⟨folder, henabled ▸ hfolder, hnew.mono hvisit⟩
        (by rw [hsent, hsent', List.append_nil]) hmirrors
    | parcels earlier update _ hrenewed hsent' _ =>
      obtain ⟨folder, hfolder, hnew⟩ := hrenewed
      exact .parcels (earlier ++ [update]) _ hname'
        ⟨folder, henabled ▸ hfolder, hnew.mono hvisit⟩ (by rw [hsent, hsent']; simp) hmirrors

/-! ## Runs -/

theorem Received.foldl_visit (clients : List Client) (h : Received start session client)
    (hgrown : ∀ scope, start.stored scope <+: session.stored scope)
    (hnames : ∀ other ∈ clients, other.name = session.tracker.config.clientName)
    (hrefuses : ∀ k, session.env.clients.refuses k = false)
    (hconnected : ∀ other ∈ clients, other ∈ session.env.clients.connected)
    (hids : ∀ other ∈ clients, other.id = client.id → other = client) :
    Received start (clients.foldl (visit now) session) client := by
  induction clients generalizing session with
  | nil => exact h
  | cons other clients ih =>
    have haccepts : session.env.clients.accepts other.id = true :=
      Clients.accepts_of_mem hrefuses (hconnected other List.mem_cons_self)
    have hvisit : Received start (session.visit now other) client := by
      by_cases hid : other.id = client.id
      · obtain rfl := hids other List.mem_cons_self hid
        exact h.visit_self hgrown (hnames other List.mem_cons_self) haccepts
      · exact h.visit_other hid
    have hpicture := picture_visit now session other
    refine ih hvisit ?_ ?_ ?_ ?_ fun c hc => hids c (List.mem_cons_of_mem _ hc)
    · intro scope
      rw [stored_congr hpicture]
      exact hgrown scope
    · intro c hc
      exact (hnames c (List.mem_cons_of_mem _ hc)).trans
        (congrArg (fun picture => picture.config.clientName) hpicture).symm
    · intro k
      exact (congrFun (refuses_reconcileClient now session other) k).trans (hrefuses k)
    · intro c hc
      rw [connected_visit]
      exact hconnected c (List.mem_cons_of_mem _ hc)

/-- A pass is a visit of every listed client. -/
theorem Received.reconcile (now : Nat) (h : Received start session client)
    (hgrown : ∀ scope, start.stored scope <+: session.stored scope)
    (hrefuses : ∀ k, session.env.clients.refuses k = false)
    (hids : (session.env.clients.connected.map (·.id)).Nodup)
    (hclient : client ∈ session.env.clients.connected) :
    Received start (session.reconcile now).1 client := by
  have hpicture := picture_beginPass session
  have hclients := clients_beginPass session
  have hbegun : Received start session.beginPass client := by
    refine h.keep (congrArg Picture.config hpicture) (enabled_congr hpicture client)
      (congrArg (Clients.sentTo · client.id) hclients) ?_ ?_
    · intro key _
      rw [libraries_beginPass]
    · intro scope
      rw [stored_congr hpicture]
  rw [reconcile_fst]
  refine hbegun.foldl_visit _ ?_ ?_ ?_ ?_ ?_
  · intro scope
    rw [stored_congr hpicture]
    exact hgrown scope
  · intro c hc
    have hconfig' : session.beginPass.tracker.config = session.tracker.config :=
      congrArg Picture.config hpicture
    rw [hconfig']
    exact beq_iff_eq.1 (List.mem_filter.1 hc).2
  · intro k
    rw [hclients]
    exact hrefuses k
  · intro c hc
    rw [hclients]
    exact (List.mem_filter.1 hc).1
  · intro c hc hid
    exact List.inj_on_of_nodup_map hids (List.mem_filter.1 hc).1 hclient hid

/-- **One step keeps what a client has received in order.** -/
theorem Received.act (h : Received start session client) (ha : a.EditsBuffers)
    (hgrown : ∀ scope, start.stored scope <+: session.stored scope)
    (hrefuses : ∀ k, session.env.clients.refuses k = false)
    (hids : (session.env.clients.connected.map (·.id)).Nodup)
    (hclient : client ∈ session.env.clients.connected) :
    Received start (session.act a) client := by
  have hconfig := config_act session a
  have henabled : (session.act a).enabled client = session.enabled client := by
    refine enabled_of_isEnabled ?_ client
    intro root
    unfold isEnabled
    rw [files_act session ha.keeps_files, hconfig]
  cases a with
  | event now event =>
    refine h.keep hconfig henabled ?_ (fun key _ => delivered_handle now session event key)
      (prefix_act session _)
    show (session.handle now event).env.clients.sentTo client.id = _
    rw [clients_handle]
  | edit change =>
    refine h.keep hconfig henabled ?_ (fun _ _ => rfl) (prefix_act session _)
    obtain ⟨buffers, hchange⟩ := ha session.env
    show (change session.env).clients.sentTo client.id = _
    rw [hchange]
  | pass now =>
    exact h.reconcile now hgrown hrefuses hids hclient

/-- **A run keeps what a client has received in order**, if no push is refused, no two clients share an id
and the outside world changes only the buffers. -/
theorem Received.run (h : Received start session client) (hacts : ∀ a ∈ acts, a.EditsBuffers)
    (hgrown : ∀ scope, start.stored scope <+: session.stored scope)
    (hrefuses : ∀ k, session.env.clients.refuses k = false)
    (hids : (session.env.clients.connected.map (·.id)).Nodup)
    (hclient : client ∈ session.env.clients.connected) :
    Received start (session.run acts) client := by
  induction acts generalizing session with
  | nil => exact h
  | cons a acts ih =>
    have ha := hacts a List.mem_cons_self
    have hrefuses' := refuses_act session ha.keeps_clients
    have hconnected := connected_act session ha.keeps_clients
    refine ih (h.act ha hgrown hrefuses hids hclient) (fun b hb => hacts b (List.mem_cons_of_mem _ hb))
      (fun scope => (hgrown scope).trans (prefix_act session a scope)) ?_ ?_ ?_
    · intro k
      rw [hrefuses']
      exact hrefuses k
    · rw [hconnected]
      exact hids
    · rw [hconnected]
      exact hclient

/-- **What is new is due**: where nothing is due, a client that was offered something new has received it. -/
theorem due?_ne_none_of_renewed (hstart : start.Offered key (start.tracker.libraries.delivered key))
    (hrenewed : Renewed start session key)
    (hdelivered : session.tracker.libraries.delivered key = start.tracker.libraries.delivered key) :
    session.tracker.libraries.due? key ≠ none := by
  obtain ⟨g₀, o₀, hg₀, ho₀, heq⟩ := hstart
  obtain ⟨g, o, hg, hg', ho, ho', hne⟩ := hrenewed
  intro hdue
  rw [Libraries.due?_eq_none_iff, hdelivered, heq, Libraries.offered_eq] at hdue
  rw [heq, sameList_between (hg₀.trans hg) hg' (ho₀.trans ho) ho' hdue] at hne
  cases hne

/-- Nothing was received when a run begins. -/
theorem Received.refl (start : Session) (client : Client) : Received start start client :=
  .nothing rfl fun _ _ => rfl

end LibraryPaths.Session

import LibraryPaths.FileSystem.Edit
import LibraryPaths.Proofs.Session.Bookkeeping
import LibraryPaths.Proofs.Session.Undelivered

/-!
# What a push takes away

A push replaces everything its client was told, so a folder that a push leaves out is gone from the client's
settings.  What counts as delivered for the folder is not touched by that.  A folder that is switched off
while the others of its client are pushed is therefore not due when it is switched on again, and stays gone
until its list changes.

* `sentTo_reconcile`, `exists_lastPush`: a pass sends a client one parcel or none, so what the client was sent
  last is the parcel of one pass of the run (`LastPush`);
* `last_lists_iff`: a folder is among the client's settings after a pass iff it was enabled in that one;
* `not_forall_last_lists`: an enabled folder may be missing.
-/

set_option autoImplicit false

namespace LibraryPaths.Session

variable {start session : Session} {now id : Nat} {client other : Client} {folder : Folder}
  {acts before : List Act} {a : Act}

/-! ## What a pass sends to one client -/

theorem sentTo_foldl_visit_of_not_mem (clients : List Client) (session : Session)
    (hid : id ∉ clients.map (·.id)) :
    (clients.foldl (visit now) session).env.clients.sentTo id = session.env.clients.sentTo id := by
  induction clients generalizing session with
  | nil => rfl
  | cons other clients ih =>
    obtain ⟨hne, hlater⟩ := not_or.1 fun h => hid (List.mem_cons.2 h)
    exact (ih _ hlater).trans (sentTo_reconcileClient_of_ne now session (Ne.symm hne))

/-- If no two clients share an id, visiting them sends each one its parcel or nothing. -/
theorem sentTo_foldl_visit (clients : List Client) (session : Session)
    (hids : (clients.map (·.id)).Nodup) (hclient : client ∈ clients) :
    (clients.foldl (visit now) session).env.clients.sentTo client.id =
        session.env.clients.sentTo client.id ∨
      (clients.foldl (visit now) session).env.clients.sentTo client.id =
        session.env.clients.sentTo client.id ++ [session.parcel client] := by
  induction clients generalizing session with
  | nil => cases hclient
  | cons first clients ih =>
    obtain ⟨hfirst, hids⟩ := List.nodup_cons.1 hids
    rw [List.foldl_cons]
    rcases List.mem_cons.1 hclient with rfl | hlater
    · have hsent : (session.visit now client).env.clients.sentTo client.id = _ :=
        sentTo_reconcileClient now session client
      rw [sentTo_foldl_visit_of_not_mem _ _ hfirst, hsent]
      split
      · exact .inr rfl
      · exact .inl rfl
    · have hne : first.id ≠ client.id :=
        fun h => hfirst (List.mem_map.2 ⟨client, hlater, h.symm⟩)
      have hpicture := picture_visit now session first
      have hsent : (session.visit now first).env.clients.sentTo client.id = _ :=
        sentTo_reconcileClient_of_ne now session hne
      have hrest := ih (session.visit now first) hids hlater
      rw [hsent, parcel_congr hpicture] at hrest
      exact hrest

/-- **A pass sends a client its parcel or nothing.** -/
theorem sentTo_reconcile (now : Nat) (session : Session)
    (hids : (session.env.clients.connected.map (·.id)).Nodup)
    (hclient : client ∈ session.env.clients.connected) :
    (session.reconcile now).1.env.clients.sentTo client.id = session.env.clients.sentTo client.id ∨
      (session.reconcile now).1.env.clients.sentTo client.id =
        session.env.clients.sentTo client.id ++ [session.parcel client] := by
  have hclients := clients_beginPass session
  rw [reconcile_fst, ← hclients, ← parcel_congr (picture_beginPass session)]
  by_cases hnamed : client ∈ session.env.clients.named session.tracker.config.clientName
  · refine sentTo_foldl_visit _ _ ?_ (hclients ▸ hnamed)
    rw [hclients]
    exact hids.sublist (List.filter_sublist.map _)
  · left
    refine sentTo_foldl_visit_of_not_mem _ _ ?_
    rw [hclients]
    intro hmem
    obtain ⟨twin, htwin, hid⟩ := List.mem_map.1 hmem
    have hsame := List.inj_on_of_nodup_map hids (List.mem_filter.1 htwin).1 hclient hid
    exact hnamed (hsame ▸ htwin)

/-! ## The last push of a run -/

/-- The pass that follows some first acts of a run made the run's last push to a client. -/
def LastPush (start : Session) (acts : List Act) (client : Client) (before : List Act) : Prop :=
  ∃ time after, acts = before ++ .pass time :: after ∧
    (start.run (before ++ [.pass time])).env.clients.sentTo client.id =
      (start.run before).env.clients.sentTo client.id ++ [(start.run before).parcel client] ∧
    (start.run acts).env.clients.sentTo client.id =
      (start.run (before ++ [.pass time])).env.clients.sentTo client.id

/-- One more act makes a new last push or keeps what the client was sent. -/
theorem sentTo_act (session : Session) (ha : a.Keeps (·.clients))
    (hids : (session.env.clients.connected.map (·.id)).Nodup)
    (hclient : client ∈ session.env.clients.connected) :
    (session.act a).env.clients.sentTo client.id = session.env.clients.sentTo client.id ∨
      a.isPass = true ∧ (session.act a).env.clients.sentTo client.id =
        session.env.clients.sentTo client.id ++ [session.parcel client] := by
  cases a with
  | event now event => exact .inl (congrArg (Clients.sentTo · client.id) (clients_handle now session event))
  | edit change => exact .inl (congrArg (Clients.sentTo · client.id) (ha session.env))
  | pass now => exact (sentTo_reconcile now session hids hclient).imp_right (⟨rfl, ·⟩)

/-- **What a client was sent in a run, it was sent last by one of its passes.** -/
theorem exists_lastPush (start : Session) (acts : List Act) (hacts : ∀ a ∈ acts, a.Keeps (·.clients))
    (hids : (start.env.clients.connected.map (·.id)).Nodup)
    (hclient : client ∈ start.env.clients.connected) :
    (start.run acts).env.clients.sentTo client.id = start.env.clients.sentTo client.id ∨
      ∃ before, LastPush start acts client before := by
  induction acts using List.reverseRecOn with
  | nil => exact .inl rfl
  | append_singleton acts a ih =>
    have hearlier : ∀ b ∈ acts, b.Keeps (·.clients) := fun b hb => hacts b (List.mem_append_left _ hb)
    obtain ⟨hconnected, -⟩ := clients_fixed_run start hearlier
    have hact := sentTo_act (start.run acts) (hacts a (by simp)) (hconnected ▸ hids) (hconnected ▸ hclient)
    rw [run_append, run_cons, run_nil]
    rcases hact with hkept | ⟨hpass, hsent⟩
    · rcases ih hearlier with hnone | ⟨before, time, after, rfl, hpush, hlast⟩
      · exact .inl (hkept.trans hnone)
      · refine .inr ⟨before, time, after ++ [a], by simp, hpush, ?_⟩
        rw [run_append, run_cons, run_nil, hkept, hlast]
    · cases a with
      | pass time =>
        refine .inr ⟨acts, time, [], rfl, ?_, rfl⟩
        rw [run_append]
        exact hsent
      | event now event => cases hpass
      | edit change => cases hpass

/-- After the last push a client has the parcel of that time. -/
theorem LastPush.last? (h : LastPush start acts client before) :
    (start.run acts).env.clients.last? client.id = some ((start.run before).parcel client) := by
  obtain ⟨time, after, -, hpush, hlast⟩ := h
  rw [Clients.last?_eq_getLast?, hlast, hpush, List.getLast?_concat]

/-- A folder of the last push carries what was sent in it. -/
theorem LastPush.carried (h : LastPush start acts client before)
    (hfolder : folder ∈ (start.run before).enabled client) :
    (start.run acts).env.clients.carried (keyOf client folder) =
      (start.run before).tracker.libraries.offered (keyOf client folder) := by
  obtain ⟨time, after, -, hpush, hlast⟩ := h
  have hkey : keyOf client folder ∈ (start.run before).enabledKeys client := List.mem_map_of_mem hfolder
  refine Clients.carried_of_sentTo (hlast.trans hpush) ?_
  rw [library?_parcel rfl, if_pos hkey]

/-- While no push is refused, after a pass every enabled folder's client has some time received the list that
the folder is offered now. -/
theorem sameList_carried_reconcile (hbooks : session.Bookkept (keyOf client folder))
    (hrefuses : ∀ k, session.env.clients.refuses k = false)
    (hclient : client ∈ session.env.clients.named session.tracker.config.clientName)
    (hfolder : folder ∈ session.enabled client) :
    Path.sameList ((session.reconcile now).1.env.clients.carried (keyOf client folder))
      ((session.reconcile now).1.tracker.libraries.offered (keyOf client folder)) = true := by
  have hunarmed : ((session.reconcile now).1.run []).tracker.timer.isArmed = false := by
    rw [run_nil, timer_reconcile]
    rfl
  have hdue := due?_eq_none_of_unarmed [] hrefuses (fun _ h => absurd h List.not_mem_nil) hunarmed
    hclient hfolder
  have hdelivered := sameList_iff.1 (Libraries.due?_eq_none_iff.1 hdue)
  have hcarried := sameList_iff.1 (hbooks.act (a := .pass now) trivial).same
  exact sameList_iff.2 (hcarried.symm.trans hdelivered)

/-- **A folder is among the settings of its client iff it was enabled in the pass that made the last push.**
A fresh session runs and ends with a pass.  No push is refused, the clients stay, and no two share an id;
files, among them markers, change at will.  If an enabled folder of a listed client is offered anything, the
client was sent something in some pass of the run, and its last update has the folder with the present list
iff the policy enabled the folder in that pass. -/
theorem last_lists_iff {config : Config} {env : Environment} {libraries : Libraries}
    {start last : Session} {acts : List Act} {now : Nat} {client : Client} {folder : Folder}
    (hstart : start = startWith config env libraries)
    (hfresh : ∀ key, libraries.delivered key = [])
    (hnone : env.clients.deliveries = [])
    (hrefuses : ∀ k, env.clients.refuses k = false)
    (hids : (env.clients.connected.map (·.id)).Nodup)
    (hacts : ∀ a ∈ acts, a.Keeps (·.clients))
    (hlast : last = start.run (acts ++ [.pass now]))
    (hclient : client ∈ env.clients.named config.clientName)
    (hfolder : folder ∈ last.enabled client)
    (hoffered : last.tracker.libraries.offered (keyOf client folder) ≠ []) :
    ∃ before update, LastPush start (acts ++ [.pass now]) client before ∧
      last.env.clients.last? client.id = some update ∧
      ((∃ library, ⟨folder, library⟩ ∈ update.folders ∧
          Path.sameList library (last.tracker.libraries.offered (keyOf client folder)) = true) ↔
        folder ∈ (start.run before).enabled client) := by
  have hall : ∀ a ∈ acts ++ [Act.pass now], a.Keeps (·.clients) := by
    intro a ha
    rcases List.mem_append.1 ha with ha | ha
    · exact hacts a ha
    · rw [List.mem_singleton.1 ha]
      trivial
  have henv : start.env = env := by rw [hstart]; rfl
  have hconfig : start.tracker.config = config := by rw [hstart]; rfl
  have hconnected : client ∈ start.env.clients.connected := henv ▸ (List.mem_filter.1 hclient).1
  obtain ⟨hsame, hrefuses'⟩ := clients_fixed_run start hacts
  have hpass : last = ((start.run acts).reconcile now).1 := by rw [hlast, run_append]; rfl
  have hpicture : last.picture = (start.run acts).picture := by rw [hpass, picture_reconcile]
  have hcarried : Path.sameList (last.env.clients.carried (keyOf client folder))
      (last.tracker.libraries.offered (keyOf client folder)) = true := by
    rw [hpass]
    refine sameList_carried_reconcile (bookkept_run (bookkept_of_fresh ?_ ?_) fun a ha => ?_) ?_ ?_ ?_
    · rw [hstart]
      exact hfresh _
    · rw [henv]
      exact hnone
    · exact (hacts a ha).comp Clients.deliveries
    · intro k
      rw [hrefuses', henv]
      exact hrefuses k
    · unfold Clients.named
      rw [hsame, henv, config_run, hconfig]
      exact hclient
    · rw [← enabled_congr hpicture]
      exact hfolder
  rcases exists_lastPush start _ hall (henv ▸ hids) hconnected with hsent | ⟨before, hbefore⟩
  · exfalso
    have hempty : last.env.clients.carried (keyOf client folder) = [] := by
      refine Clients.carried_of_sentTo_nil ?_
      rw [hlast, show (keyOf client folder).client = client.id from rfl, hsent, henv]
      exact Clients.sentTo_of_no_deliveries hnone _
    rw [hempty, sameList_iff] at hcarried
    exact hoffered (List.map_eq_nil_iff.1 hcarried.symm)
  · refine ⟨before, (start.run before).parcel client, hbefore, hlast ▸ hbefore.last?, ?_⟩
    constructor
    · rintro ⟨library, hmem, -⟩
      exact (mem_parcel_iff.1 hmem).1
    · intro henabled
      refine ⟨_, mem_parcel_iff.2 ⟨henabled, rfl⟩, ?_⟩
      rw [← hbefore.carried henabled, ← hlast]
      exact hcarried

/-! ## A folder that is switched off and on -/

/-- Two folders of one client. -/
def pairApp : Folder := ⟨"app", .file "" ["work", "app"] ""⟩

def pairLib : Folder := ⟨"lib", .file "" ["work", "lib"] ""⟩

def pairClient : Client := ⟨1, "lua_ls", some [pairApp, pairLib]⟩

/-- A fresh session with that client, two loaded modules, and a buffer in each folder that refers to one of
them. -/
def pair : Session :=
  Session.start {}
    { files := .empty
      loaded := [("m", .ofString "/plugins/m/lua/m.lua"), ("n", .ofString "/plugins/n/lua/n.lua")]
      packages := .ofRoots []
      buffers := (Buffers.empty.load 1 (some (.ofString "/work/app/a.lua")) "require \"m\"").load 2
        (some (.ofString "/work/lib/b.lua")) "require \"n\""
      clients := .ofList [pairClient] }

/-- Puts a marker into the first folder. -/
def marked (env : Environment) : Environment :=
  { env with files := env.files.writeFile (.ofString "/work/app/.luarc.json") [] }

/-- Takes the marker away again. -/
def unmarked (env : Environment) : Environment :=
  { env with files := env.files.remove (.ofString "/work/app/.luarc.json") }

/-- The first folder is pushed, then the second alone while the first is switched off; then the first is
switched on again. -/
def offAndOn : List Act :=
  [.event 0 (.attached pairClient 1), .pass 100, .edit marked, .event 150 (.attached pairClient 2),
    .pass 250, .edit unmarked]

theorem keeps_offAndOn : ∀ a ∈ offAndOn, a.Keeps (·.clients) := by
  simp [offAndOn, Act.Keeps, marked, unmarked]

/-- At one more pass the first folder is enabled, and there is a list for it. -/
theorem pairApp_offAndOn :
    pairClient ∈ pair.env.clients.named ({} : Config).clientName ∧
      pairApp ∈ (pair.run (offAndOn ++ [.pass 300])).enabled pairClient ∧
      (pair.run (offAndOn ++ [.pass 300])).tracker.libraries.offered (keyOf pairClient pairApp) ≠ [] := by
  decide +kernel

/-- After that pass the first folder is not among the client's settings. -/
theorem not_mem_last_offAndOn {update : Update}
    (hlast : (pair.run (offAndOn ++ [.pass 300])).env.clients.last? pairClient.id = some update)
    (library : List Path) : ⟨pairApp, library⟩ ∉ update.folders := by
  have hlib : (pair.run (offAndOn ++ [.pass 300])).env.clients.last? pairClient.id =
      some ⟨"Lua", [⟨pairLib, [.ofString "/plugins/n/lua"]⟩]⟩ := by decide +kernel
  obtain rfl := Option.some.inj (hlib.symm.trans hlast)
  intro hmem
  have hfolder : pairApp = pairLib := congrArg FolderUpdate.folder (List.mem_singleton.1 hmem)
  exact absurd hfolder (by decide)

/-- The first folder is enabled and missing, so it was switched off in the last push. -/
theorem last_lists_iff_pair :
    ∃ before, LastPush pair (offAndOn ++ [.pass 300]) pairClient before ∧
      pairApp ∉ (pair.run before).enabled pairClient := by
  obtain ⟨hnamed, henabled, hoffered⟩ := pairApp_offAndOn
  obtain ⟨before, update, hbefore, hlast, hlists⟩ := last_lists_iff
    (rfl : pair = startWith {} pair.env .empty) (fun _ => rfl) rfl (fun _ => rfl) (by decide +kernel)
    keeps_offAndOn rfl hnamed henabled hoffered
  refine ⟨before, hbefore, fun hthen => ?_⟩
  obtain ⟨library, hmem, -⟩ := hlists.2 hthen
  exact not_mem_last_offAndOn hlast library hmem

/-- An enabled folder with a list may be missing from the settings of its client. -/
theorem not_forall_last_lists :
    ¬ ∀ (config : Config) (env : Environment) (acts : List Act) (now : Nat) (last : Session),
      env.clients.deliveries = [] →
      (∀ k, env.clients.refuses k = false) →
      (env.clients.connected.map (·.id)).Nodup →
      (∀ a ∈ acts, a.Keeps (·.clients)) →
      last = (Session.start config env).run (acts ++ [.pass now]) →
      ∀ client ∈ env.clients.named config.clientName, ∀ folder ∈ last.enabled client,
        last.tracker.libraries.offered (keyOf client folder) ≠ [] →
        ∃ update, last.env.clients.last? client.id = some update ∧
          ∃ library, ⟨folder, library⟩ ∈ update.folders ∧
            Path.sameList library (last.tracker.libraries.offered (keyOf client folder)) = true := by
  intro h
  obtain ⟨hnamed, henabled, hoffered⟩ := pairApp_offAndOn
  have hrun : pair.run (offAndOn ++ [.pass 300]) =
      (Session.start {} pair.env).run (offAndOn ++ [.pass 300]) := rfl
  obtain ⟨update, hlast, library, hmem, -⟩ := h {} pair.env offAndOn 300 _ rfl (fun _ => rfl)
    (by decide +kernel) keeps_offAndOn hrun pairClient hnamed pairApp henabled hoffered
  exact not_mem_last_offAndOn hlast library hmem

end LibraryPaths.Session

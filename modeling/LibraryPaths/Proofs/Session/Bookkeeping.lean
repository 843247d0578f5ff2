import LibraryPaths.Proofs.Session.Received

/-!
# What counts as delivered is what was received

A pass sends a client the lists of all its enabled folders but marks only those as delivered that were due.
The others carried what counts as delivered already, so for every folder the list that counts as delivered is
the one that its client received last for a folder of that name (`Session.Bookkept`), whoever is connected,
whatever the policy says and whichever pushes fail.

* `Bookkept.visit`, `bookkept_run`: the part of a pass that concerns one client keeps that, and so does a
  whole run;
* `Session.pushes`: the pushes that a pass attempts, found out by a connection that refuses none;
* `delivered_run_eq_carried`: so a pass pushes to a client what it has not got, each list as it is now.
-/

set_option autoImplicit false

namespace LibraryPaths.Session

variable {session : Session} {now : Nat} {client : Client} {key : FolderKey} {a : Act} {acts : List Act}

/-- What counts as delivered for a folder is what its client received last for it. -/
structure Bookkept (session : Session) (key : FolderKey) : Prop where
  same : Path.sameList (session.tracker.libraries.delivered key) (session.env.clients.carried key) = true
  offered : session.Offered key (session.env.clients.carried key)

/-! ## One client's part of a pass -/

/-- A parcel has the present list for every folder a pass looks at, and no other list for its client. -/
theorem library?_parcel (hclient : client.id = key.client) :
    (session.parcel client).library? key.folder =
      if key ∈ session.enabledKeys client then some (session.tracker.libraries.offered key) else none := by
  have hfind : (session.parcel client).library? key.folder =
      ((session.enabled client).find? (·.name == key.folder)).map
        fun folder => session.tracker.libraries.offered (keyOf client folder) := by
    unfold parcel updateFor Update.library?
    rw [List.find?_map, Option.map_map]
    rfl
  rw [hfind]
  cases hfolder : (session.enabled client).find? (·.name == key.folder) with
  | none =>
    rw [if_neg]
    · rfl
    · intro hmem
      obtain ⟨folder, hmem', rfl⟩ := List.mem_map.1 hmem
      exact List.find?_eq_none.1 hfolder folder hmem' (beq_self_eq_true folder.name)
  | some folder =>
    have hname : folder.name = key.folder := by simpa using List.find?_some hfolder
    have hkey : keyOf client folder = key := by
      unfold keyOf
      rw [hclient, hname]
    rw [if_pos (hkey ▸ List.mem_map_of_mem (List.mem_of_find?_eq_some hfolder)), ← hkey]
    rfl

/-- A visit changes what a client has only for the folders it looks at, and gives them their present lists. -/
theorem carried_visit (now : Nat) (session : Session) (client : Client) (key : FolderKey) :
    (session.visit now client).env.clients.carried key =
      if (session.reconcileClient now client).2 = true ∧ key ∈ session.enabledKeys client then
        session.tracker.libraries.offered key
      else session.env.clients.carried key := by
  have hclients : (session.visit now client).env.clients = _ := clients_reconcileClient now session client
  rw [snd_reconcileClient, hclients]
  cases session.wants client with
  | false => simp
  | true =>
    rw [if_pos rfl]
    cases haccepts : session.env.clients.accepts client.id with
    | false => simpa using Clients.carried_congr (Clients.deliveries_push_of_not_accepts haccepts) key
    | true =>
      rw [Clients.carried_push haccepts]
      by_cases hclient : client.id = key.client
      · rw [if_pos hclient, library?_parcel hclient]
        by_cases hkey : key ∈ session.enabledKeys client <;> simp [hkey]
      · have hkey : key ∉ session.enabledKeys client :=
          fun hmem => hclient (client_of_mem_enabledKeys hmem).symm
        rw [if_neg hclient, if_neg (by simp [hkey])]

/-- **A visit keeps the books.**  A folder that was looked at and not due carried what counts as delivered for
it; every other folder that was looked at is marked with what it carried. -/
theorem Bookkept.visit (h : session.Bookkept key) (now : Nat) (client : Client) :
    (session.visit now client).Bookkept key := by
  have hpicture := picture_visit now session client
  have hgrown : ∀ scope, session.stored scope <+: (session.visit now client).stored scope :=
    fun scope => by rw [stored_congr hpicture]
  have hdelivered : (session.visit now client).tracker.libraries.delivered key = _ :=
    delivered_reconcileClient now session client key
  have hcarried := carried_visit now session client key
  by_cases hlooked : (session.reconcileClient now client).2 = true ∧ key ∈ session.enabledKeys client
  · rw [if_pos hlooked] at hcarried
    refine ⟨?_, hcarried ▸ (offered_now session key).mono hgrown⟩
    rw [hdelivered, hcarried]
    cases hdue : session.tracker.libraries.due? key with
    | some paths => simpa [hlooked] using sameList_refl _
    | none => simpa using Libraries.due?_eq_none_iff.1 hdue
  · rw [if_neg hlooked] at hcarried
    rw [if_neg fun hall => hlooked ⟨hall.1, hall.2.1⟩] at hdelivered
    exact ⟨by rw [hdelivered, hcarried]; exact h.same, hcarried ▸ h.offered.mono hgrown⟩

/-! ## Runs -/

/-- The books of a session depend on the libraries and on what was recorded. -/
theorem Bookkept.congr {next : Session} (h : session.Bookkept key)
    (hdelivered : next.tracker.libraries.delivered key = session.tracker.libraries.delivered key)
    (hrecord : next.env.clients.deliveries = session.env.clients.deliveries)
    (hgrown : ∀ scope, session.stored scope <+: next.stored scope) : next.Bookkept key := by
  have hcarried := Clients.carried_congr hrecord key
  exact ⟨by rw [hdelivered, hcarried]; exact h.same, hcarried ▸ h.offered.mono hgrown⟩

theorem Bookkept.beginPass (h : session.Bookkept key) : session.beginPass.Bookkept key := by
  refine h.congr ?_ ?_ ?_
  · rw [libraries_beginPass]
  · rw [clients_beginPass]
  · intro scope
    rw [stored_congr (picture_beginPass session)]

theorem Bookkept.foldl_visit (clients : List Client) (h : session.Bookkept key) :
    (clients.foldl (Session.visit now) session).Bookkept key := by
  induction clients generalizing session with
  | nil => exact h
  | cons client clients ih => exact ih (h.visit now client)

theorem Bookkept.act (h : session.Bookkept key) (ha : a.Keeps (·.clients.deliveries)) :
    (session.act a).Bookkept key := by
  cases a with
  | event now event =>
    exact h.congr (delivered_handle now session event key)
      (congrArg Clients.deliveries (clients_handle now session event)) (prefix_act session _)
  | edit change => exact h.congr rfl (ha session.env) (prefix_act session _)
  | pass now =>
    show (session.reconcile now).1.Bookkept key
    rw [reconcile_fst]
    exact h.beginPass.foldl_visit _

/-- **A run keeps the books**, if the outside world does not touch the record of what was delivered. -/
theorem bookkept_run (h : session.Bookkept key) (hacts : ∀ a ∈ acts, a.Keeps (·.clients.deliveries)) :
    (session.run acts).Bookkept key := by
  induction acts generalizing session with
  | nil => exact h
  | cons a acts ih =>
    exact ih (h.act (hacts a List.mem_cons_self)) fun b hb => hacts b (List.mem_cons_of_mem _ hb)

/-- Before anything was delivered the books are empty. -/
theorem bookkept_of_fresh (hdelivered : session.tracker.libraries.delivered key = [])
    (hnone : session.env.clients.deliveries = []) : session.Bookkept key := by
  have hcarried : session.env.clients.carried key = [] :=
    Clients.carried_of_sentTo_nil (Clients.sentTo_of_no_deliveries hnone _)
  exact ⟨by rw [hdelivered, hcarried]; rfl, hcarried ▸ offered_nil session key⟩

/-- Where stored paths are spelled plainly, the books agree letter for letter. -/
theorem Bookkept.eq_of_plain (h : session.Bookkept key)
    (hoffered : session.Offered key (session.tracker.libraries.delivered key))
    (hplain : ∀ scope, ∀ p ∈ session.stored scope, p.Plain) :
    session.tracker.libraries.delivered key = session.env.clients.carried key :=
  eq_of_sameList (hoffered.plain hplain) (h.offered.plain hplain) h.same

/-! ## The pushes of a pass -/

/-- The session behind a connection that refuses nothing. -/
def willing (session : Session) : Session :=
  { session with
    env :=
      { session.env with clients := { session.env.clients with refuses := fun _ => false } } }

/-- What a client's part of a pass puts to the connection: what would be recorded if nothing was refused. -/
def puts (now : Nat) (session : Session) (client : Client) : List Update :=
  ((session.willing.visit now client).env.clients.deliveries.drop
    session.env.clients.deliveries.length).map (·.update)

/-- What is put to the connection while clients are visited in order. -/
def pushesTo (now : Nat) (session : Session) : List Client → List (Client × Update)
  | [] => []
  | client :: clients =>
    (session.puts now client).map (client, ·) ++ (session.visit now client).pushesTo now clients

/-- The pushes that a pass attempts, in order. -/
def pushes (now : Nat) (session : Session) : List (Client × Update) :=
  session.beginPass.pushesTo now (session.env.clients.named session.tracker.config.clientName)

/-- A client is put its parcel, if it is put anything. -/
theorem puts_eq (now : Nat) (hclient : client ∈ session.env.clients.connected) :
    session.puts now client = if session.wants client then [session.parcel client] else [] := by
  have hwants : session.willing.wants client = session.wants client := rfl
  have hparcel : session.willing.parcel client = session.parcel client := rfl
  have haccepts : session.willing.env.clients.accepts client.id = true :=
    Clients.accepts_of_mem (fun _ => rfl) hclient
  have hclients : (session.willing.visit now client).env.clients = _ :=
    clients_reconcileClient now session.willing client
  unfold puts
  rw [hclients, hwants, hparcel]
  cases session.wants client with
  | false => simp [willing]
  | true =>
    rw [if_pos rfl, if_pos rfl, Clients.deliveries_push, if_pos haccepts]
    simp [willing]

/-- Visiting clients pushes to them what is put to the connection, and nothing else. -/
theorem clients_foldl_visit (clients : List Client) (session : Session)
    (hconnected : ∀ client ∈ clients, client ∈ session.env.clients.connected) :
    (clients.foldl (visit now) session).env.clients =
      session.env.clients.pushAll now (session.pushesTo now clients) := by
  induction clients generalizing session with
  | nil => rfl
  | cons client clients ih =>
    have hkept := connected_visit now session client
    have hclients : (session.visit now client).env.clients = _ :=
      clients_reconcileClient now session client
    rw [List.foldl_cons, ih _ fun c hc => hkept ▸ hconnected c (List.mem_cons_of_mem _ hc), pushesTo,
      puts_eq now (hconnected client List.mem_cons_self), hclients]
    cases session.wants client <;> rfl

/-- Each client is put something at most once. -/
theorem sublist_pushesTo (clients : List Client) (session : Session)
    (hconnected : ∀ client ∈ clients, client ∈ session.env.clients.connected) :
    ((session.pushesTo now clients).map Prod.fst).Sublist clients := by
  induction clients generalizing session with
  | nil => exact List.Sublist.slnil
  | cons client clients ih =>
    have hkept := connected_visit now session client
    have hrest := ih (session.visit now client) fun c hc =>
      hkept ▸ hconnected c (List.mem_cons_of_mem _ hc)
    rw [pushesTo, puts_eq now (hconnected client List.mem_cons_self)]
    cases session.wants client with
    | false => exact hrest.cons client
    | true => exact hrest.cons_cons client

/-- The session at the moment of a push: all pushes before have been made, the picture is that of the whole
pass, and the client is put its parcel because it wants one. -/
theorem exists_wants_of_pushesTo (clients : List Client) (session : Session)
    (hconnected : ∀ client ∈ clients, client ∈ session.env.clients.connected)
    (hbooks : ∀ key, session.Bookkept key) {before after : List (Client × Update)} {update : Update}
    (hsplit : session.pushesTo now clients = before ++ (client, update) :: after) :
    ∃ moment : Session, moment.picture = session.picture ∧ (∀ key, moment.Bookkept key) ∧
      moment.env.clients = session.env.clients.pushAll now before ∧ moment.wants client = true ∧
      update = moment.parcel client := by
  induction clients generalizing session before with
  | nil => exact absurd hsplit (by simp [pushesTo])
  | cons first clients ih =>
    have hpicture := picture_visit now session first
    have hkept := connected_visit now session first
    have hclients : (session.visit now first).env.clients = _ := clients_reconcileClient now session first
    have hlater := fun earlier => @ih (session.visit now first)
      (fun c hc => hkept ▸ hconnected c (List.mem_cons_of_mem _ hc))
      (fun key => (hbooks key).visit now first) earlier
    rw [pushesTo, puts_eq now (hconnected first List.mem_cons_self)] at hsplit
    cases hwants : session.wants first with
    | false =>
      rw [hwants] at hsplit
      rw [if_neg (by simp [hwants])] at hclients
      obtain ⟨moment, hmoment, hrest⟩ := hlater before hsplit
      rw [hclients] at hrest
      exact ⟨moment, hmoment.trans hpicture, hrest⟩
    | true =>
      rw [hwants] at hsplit
      rw [if_pos hwants] at hclients
      cases before with
      | nil =>
        obtain ⟨hfirst, -⟩ := List.cons.inj hsplit
        obtain ⟨rfl, rfl⟩ := Prod.mk.inj hfirst
        exact ⟨session, rfl, hbooks, rfl, hwants, rfl⟩
      | cons push before =>
        obtain ⟨rfl, hrest⟩ := List.cons.inj hsplit
        obtain ⟨moment, hmoment, hbooks', hclients', hparcel⟩ := hlater before hrest
        rw [hclients] at hclients'
        exact ⟨moment, hmoment.trans hpicture, hbooks', hclients', hparcel⟩

/-- A client that wants something has not received the present list of one of its enabled folders. -/
theorem exists_not_carried (hbooks : ∀ key, session.Bookkept key) (hwants : session.wants client = true) :
    ∃ folder ∈ session.enabled client,
      Path.sameList (session.env.clients.carried (keyOf client folder))
        (session.tracker.libraries.offered (keyOf client folder)) = false := by
  obtain ⟨key, hkey, paths, hdue⟩ := wants_iff.1 hwants
  obtain ⟨folder, hfolder, rfl⟩ := List.mem_map.1 hkey
  have hne := (Libraries.due?_eq_some_iff.1 hdue).1
  refine ⟨folder, hfolder, Bool.eq_false_iff.2 fun hsame => ?_⟩
  have hdelivered := sameList_iff.1 (hbooks (keyOf client folder)).same
  rw [sameList_iff.2 (hdelivered.trans (sameList_iff.1 hsame))] at hne
  cases hne

/-- **What counts as delivered was received, and only what was not received is pushed.**  A session that
starts with nothing delivered runs; any pushes fail, and the outside world changes what it likes but the
record of deliveries.  Then for every folder the list that counts as delivered is the one that the last
update to its client with a folder of that name carried, or empty if there was none: the same paths compared
by components, and letter for letter if the stored paths are spelled plainly.  A pass at any time makes at
most one push for each client it visits.  The update has the client's enabled folders in order, each with the
list it is offered now, and for one of them the client, as the record stands before the push, had received
another list. -/
theorem delivered_run_eq_carried {config : Config} {env : Environment} {libraries : Libraries}
    {start last : Session} {acts : List Act}
    (hstart : start = startWith config env libraries)
    (hfresh : ∀ key, libraries.delivered key = [])
    (hnone : env.clients.deliveries = [])
    (hacts : ∀ a ∈ acts, a.Keeps (·.clients.deliveries))
    (hlast : last = start.run acts) :
    (∀ key,
      Path.sameList (last.tracker.libraries.delivered key) (last.env.clients.carried key) = true ∧
      ((∀ scope, ∀ p ∈ last.stored scope, p.Plain) →
        last.tracker.libraries.delivered key = last.env.clients.carried key)) ∧
    ∀ now,
      (last.reconcile now).1.env.clients = last.env.clients.pushAll now (last.pushes now) ∧
      ((last.pushes now).map Prod.fst).Sublist (last.env.clients.named config.clientName) ∧
      ∀ before client update after, last.pushes now = before ++ (client, update) :: after →
        update.sectionName = config.sectionName ∧
        update.folders = (last.enabled client).map (fun folder =>
          ⟨folder, last.tracker.libraries.offered (keyOf client folder)⟩) ∧
        ∃ entry ∈ update.folders,
          Path.sameList ((last.env.clients.pushAll now before).carried (keyOf client entry.folder))
            entry.library = false := by
  have hdelivered : ∀ key, start.tracker.libraries.delivered key = [] := by
    intro key
    rw [hstart]
    exact hfresh key
  have hnone' : start.env.clients.deliveries = [] := by
    rw [hstart]
    exact hnone
  have hconfig : last.tracker.config = config := by
    rw [hlast, config_run, hstart]
    rfl
  have hbooks : ∀ key, last.Bookkept key := by
    intro key
    rw [hlast]
    exact bookkept_run (bookkept_of_fresh (hdelivered key) hnone') hacts
  have hoffered : ∀ key, last.Offered key (last.tracker.libraries.delivered key) := by
    intro key
    rw [hlast]
    refine offered_delivered_run acts (fun k => ?_) key
    rw [hdelivered k]
    exact offered_nil start k
  refine ⟨fun key => ⟨(hbooks key).same, (hbooks key).eq_of_plain (hoffered key)⟩, fun now => ?_⟩
  have hclients := clients_beginPass last
  have hpicture := picture_beginPass last
  have hconnected : ∀ client ∈ last.env.clients.named last.tracker.config.clientName,
      client ∈ last.beginPass.env.clients.connected := by
    intro client hclient
    rw [hclients]
    exact (List.mem_filter.1 hclient).1
  refine ⟨?_, ?_, ?_⟩
  · rw [reconcile_fst, clients_foldl_visit _ _ hconnected, hclients]
    rfl
  · rw [← hconfig]
    exact sublist_pushesTo _ _ hconnected
  · intro before client update after hsplit
    obtain ⟨moment, hmoment, hbooks', hbefore, hwants, rfl⟩ :=
      exists_wants_of_pushesTo _ _ hconnected (fun key => (hbooks key).beginPass) hsplit
    rw [hclients] at hbefore
    have hsame : moment.picture = last.picture := hmoment.trans hpicture
    obtain ⟨folder, hfolder, hne⟩ := exists_not_carried hbooks' hwants
    rw [parcel_congr hsame]
    rw [enabled_congr hsame] at hfolder
    rw [hbefore, offered_congr hsame] at hne
    exact ⟨congrArg Config.sectionName hconfig, rfl,
      ⟨folder, last.tracker.libraries.offered (keyOf client folder)⟩, List.mem_map_of_mem hfolder, hne⟩

/-- The first push is refused and the second received; then the global library grows, so there is something
that the client has not got. -/
theorem delivered_run_eq_carried_small :
    ∃ last update,
      last = (small 1 "require \"m\"").run [.event 0 (.attached smallClient 1), .pass 100, .pass 200,
        .event 250 (.library (.ofString "/x"))] ∧
      Path.sameList [.ofString "/plugins/m/lua"] (last.env.clients.carried ⟨1, "app"⟩) = true ∧
      last.pushes 300 = [(smallClient, update)] ∧
      ∃ entry ∈ update.folders,
        Path.sameList (last.env.clients.carried (keyOf smallClient entry.folder)) entry.library =
          false := by
  have hkeeps : ∀ a ∈ [Act.event 0 (.attached smallClient 1), .pass 100, .pass 200,
      .event 250 (.library (.ofString "/x"))], a.Keeps (·.clients.deliveries) := by simp [Act.Keeps]
  obtain ⟨hbooks, hpasses⟩ := delivered_run_eq_carried
    (rfl : small 1 "require \"m\"" = startWith {} (small 1 "require \"m\"").env .empty) (fun _ => rfl) rfl
    hkeeps rfl
  have hdelivered : ((small 1 "require \"m\"").run [.event 0 (.attached smallClient 1), .pass 100,
      .pass 200, .event 250 (.library (.ofString "/x"))]).tracker.libraries.delivered ⟨1, "app"⟩ =
        [.ofString "/plugins/m/lua"] := by decide +kernel
  have hpushes : ((small 1 "require \"m\"").run [.event 0 (.attached smallClient 1), .pass 100,
      .pass 200, .event 250 (.library (.ofString "/x"))]).pushes 300 =
        [(smallClient, ⟨"Lua", [⟨smallFolder, [.ofString "/x", .ofString "/plugins/m/lua"]⟩]⟩)] := by
    decide +kernel
  refine ⟨_, _, rfl, ?_, hpushes, ?_⟩
  · rw [← hdelivered]
    exact (hbooks ⟨1, "app"⟩).1
  · exact ((hpasses 300).2.2 [] _ _ [] hpushes).2.2

end LibraryPaths.Session

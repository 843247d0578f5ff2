import LibraryPaths.Proofs.Session.Runs

/-!
# What may be left undelivered

A pass disarms the timer before it pushes anything, and a push that fails does not arm it again: the client
is passed over and its update stays due until something else begins the quiet window anew.  So an update can
be due while no pass is scheduled, but only if it is part of a parcel whose push failed in the last pass
(`Session.failedPushes`).

* `mem_failedPushes`: what is due right after a pass is in a parcel that could not be pushed in it;
* `due?_of_unarmed`: the same at every later time at which no timer is armed;
* `not_forall_due?_eq_none`: such an update exists.
-/

set_option autoImplicit false

namespace LibraryPaths.Session

variable {session : Session} {now : Nat} {client : Client} {folder : Folder} {paths : List Path}

/-- Whether something is due for a client and pushing it is answered by an error. -/
def fails (now : Nat) (session : Session) (client : Client) : Bool :=
  session.wants client &&
    !(session.env.clients.push now client.id (session.parcel client)).2.isOk

/-- The clients whose push fails while the clients are visited in order, and what could not be pushed. -/
def failures (now : Nat) (session : Session) : List Client → List (Client × Update)
  | [] => []
  | client :: clients =>
    if session.fails now client then
      (client, session.parcel client) :: failures now (session.visit now client) clients
    else failures now (session.visit now client) clients

/-- The pushes that fail in a pass. -/
def failedPushes (now : Nat) (session : Session) : List (Client × Update) :=
  session.beginPass.failures now (session.env.clients.named session.tracker.config.clientName)

/-! ## Right after a pass -/

theorem due?_visit_of_not_fails (h : session.fails now client = false) {key : FolderKey}
    (hkey : key ∈ session.enabledKeys client) :
    (session.visit now client).tracker.libraries.due? key = none := by
  refine due?_reconcileClient_of_mem ?_ hkey
  intro hwants
  unfold fails at h
  rw [hwants, Clients.isOk_push] at h
  simpa using h

/-- What is due after all clients were visited could not be pushed when its client's turn came. -/
theorem mem_failures (clients : List Client) (session : Session) {key : FolderKey}
    (hclient : client ∈ clients) (hkey : key ∈ session.enabledKeys client)
    (hdue : (clients.foldl (visit now) session).tracker.libraries.due? key ≠ none) :
    (client, session.parcel client) ∈ session.failures now clients := by
  induction clients generalizing session with
  | nil => cases hclient
  | cons first clients ih =>
    have hpicture := picture_visit now session first
    have hlater : client ∈ clients →
        (client, session.parcel client) ∈ (session.visit now first).failures now clients := by
      intro hmem
      rw [← parcel_congr hpicture client]
      refine ih (session.visit now first) hmem ?_ hdue
      rw [enabledKeys_congr hpicture]
      exact hkey
    unfold failures
    rcases List.mem_cons.1 hclient with rfl | hmem
    · cases hfails : session.fails now client with
      | true => exact List.mem_cons_self
      | false =>
        -- the update was pushed, or nothing was due; no later visit makes it due again
        exact absurd (due?_foldl_visit_of_none clients _ (due?_visit_of_not_fails hfails hkey)) hdue
    · split
      · exact List.mem_cons_of_mem _ (hlater hmem)
      · exact hlater hmem

/-- **What is due after a pass could not be pushed in it.** -/
theorem mem_failedPushes (hclient : client ∈ session.env.clients.named session.tracker.config.clientName)
    (hfolder : folder ∈ session.enabled client)
    (hdue : (session.reconcile now).1.tracker.libraries.due? (keyOf client folder) = some paths) :
    ∃ update, (client, update) ∈ session.failedPushes now ∧ ⟨folder, paths⟩ ∈ update.folders := by
  have hpicture := picture_beginPass session
  have hoffered : session.tracker.libraries.offered (keyOf client folder) = paths := by
    rw [← offered_congr (picture_reconcile now session) (keyOf client folder)]
    exact (Libraries.due?_eq_some_iff.1 hdue).2
  refine ⟨session.beginPass.parcel client, ?_, ?_⟩
  · refine mem_failures _ _ hclient (?_ : keyOf client folder ∈ _) ?_
    · rw [enabledKeys_congr hpicture]
      exact List.mem_map_of_mem hfolder
    · rw [← reconcile_fst, hdue]
      simp
  · rw [parcel_congr hpicture, parcel, updateFor, ← hoffered]
    exact List.mem_map.2 ⟨folder, hfolder, rfl⟩

/-! ## Later -/

/-- What is due while no timer is armed could not be pushed in the last pass. -/
theorem mem_failedPushes_of_unarmed {after : List Act} (hafter : ∀ a ∈ after, a.isPass = false)
    (hclient : client ∈ session.env.clients.named session.tracker.config.clientName)
    (hfolder : folder ∈ session.enabled client)
    (hunarmed : ((session.reconcile now).1.run after).tracker.timer.isArmed = false)
    (hdue : ((session.reconcile now).1.run after).tracker.libraries.due? (keyOf client folder) =
      some paths) :
    ∃ update, (client, update) ∈ session.failedPushes now ∧ ⟨folder, paths⟩ ∈ update.folders := by
  -- no library and no delivery has changed since the pass, or the timer would be armed
  obtain ⟨hlibrary, hdelivered⟩ := unsignalled_run hafter hunarmed
  have hthen : (session.reconcile now).1.tracker.libraries.due? (keyOf client folder) = some paths := by
    rw [← hdue]
    exact (Libraries.due?_congr (congrFun hlibrary) (congrFun hdelivered _)).symm
  exact mem_failedPushes hclient hfolder hthen

/-- While no push is refused, none fails. -/
theorem failures_eq_nil (clients : List Client) (session : Session)
    (hrefuses : ∀ k, session.env.clients.refuses k = false)
    (hconnected : ∀ client ∈ clients, client ∈ session.env.clients.connected) :
    session.failures now clients = [] := by
  induction clients generalizing session with
  | nil => rfl
  | cons client clients ih =>
    have hfails : session.fails now client = false := by
      unfold fails
      rw [Clients.isOk_push, Clients.accepts_of_mem hrefuses (hconnected client List.mem_cons_self)]
      simp
    have hrefuses' : (session.visit now client).env.clients.refuses = session.env.clients.refuses :=
      refuses_reconcileClient now session client
    have hconnected' := connected_visit now session client
    unfold failures
    rw [hfails]
    refine ih _ ?_ ?_
    · intro k
      rw [hrefuses']
      exact hrefuses k
    · intro c hc
      rw [hconnected']
      exact hconnected c (List.mem_cons_of_mem _ hc)

/-- While no push is refused, nothing is due after a pass, and that stays so until the timer is armed. -/
theorem due?_eq_none_of_unarmed (after : List Act)
    (hrefuses : ∀ k, session.env.clients.refuses k = false)
    (hafter : ∀ a ∈ after, a.isPass = false)
    (hunarmed : ((session.reconcile now).1.run after).tracker.timer.isArmed = false)
    (hclient : client ∈ session.env.clients.named session.tracker.config.clientName)
    (hfolder : folder ∈ session.enabled client) :
    ((session.reconcile now).1.run after).tracker.libraries.due? (keyOf client folder) = none := by
  cases hdue : ((session.reconcile now).1.run after).tracker.libraries.due? (keyOf client folder) with
  | none => rfl
  | some paths =>
    obtain ⟨update, hmem, -⟩ := mem_failedPushes_of_unarmed hafter hclient hfolder hunarmed hdue
    have hclients := clients_beginPass session
    unfold failedPushes at hmem
    rw [failures_eq_nil] at hmem
    · cases hmem
    · rw [hclients]
      exact hrefuses
    · rw [hclients]
      exact fun c hc => (List.mem_filter.1 hc).1

/-- **While no timer is armed, an update is due only if the last pass could not push it.**  A run has gone
on since its last pass, and neither the clients nor the enabled roots have changed since.  The pass left no
timer armed, whatever became of its pushes; and if no timer is armed now, every update that is due for an
enabled folder of a client is in a parcel that could not be pushed to the client in that pass. -/
theorem due?_of_unarmed (start : Session) (before after : List Act) (now : Nat) {last : Session}
    (hlast : last = start.run (before ++ .pass now :: after))
    (hafter : ∀ a ∈ after, a.isPass = false)
    (hclients : last.env.clients.connected = (start.run before).env.clients.connected)
    (hpolicy : ∀ root, last.isEnabled root = (start.run before).isEnabled root)
    (hunarmed : last.tracker.timer.isArmed = false) :
    (start.run (before ++ [.pass now])).tracker.timer.isArmed = false ∧
      ∀ client ∈ last.env.clients.named last.tracker.config.clientName,
        ∀ folder ∈ last.enabled client, ∀ paths,
          last.tracker.libraries.due? (keyOf client folder) = some paths →
          ∃ update, (client, update) ∈ (start.run before).failedPushes now ∧
            ⟨folder, paths⟩ ∈ update.folders := by
  have hpass : start.run (before ++ [.pass now]) = ((start.run before).reconcile now).1 :=
    run_append start before [.pass now]
  have hrun : last = (((start.run before).reconcile now).1).run after := by
    rw [hlast, run_append]
    rfl
  have hconfig : last.tracker.config = (start.run before).tracker.config := by
    rw [hrun, config_run]
    exact congrArg Picture.config (picture_reconcile now (start.run before))
  refine ⟨?_, ?_⟩
  · rw [hpass, timer_reconcile]
    rfl
  · intro client hclient folder hfolder paths hdue
    have hnamed : client ∈ (start.run before).env.clients.named
        (start.run before).tracker.config.clientName := by
      unfold Clients.named at hclient ⊢
      rw [← hclients, ← hconfig]
      exact hclient
    rw [enabled_of_isEnabled hpolicy] at hfolder
    rw [hrun] at hunarmed hdue
    exact mem_failedPushes_of_unarmed hafter hnamed hfolder hunarmed hdue

/-- The first push is refused, and reading the buffer anew finds nothing that would arm the timer. -/
theorem due?_of_unarmed_small :
    ∃ update, (smallClient, update) ∈
        ((small 1 "require \"m\"").run [.event 0 (.attached smallClient 1)]).failedPushes 100 ∧
      ⟨smallFolder, [.ofString "/plugins/m/lua"]⟩ ∈ update.folders := by
  have hedits : ∀ a ∈ [Act.pass 100, .event 150 (.reloaded 1)], a.EditsBuffers := by
    simp [Act.EditsBuffers]
  have hrun : ((small 1 "require \"m\"").run [.event 0 (.attached smallClient 1)]).run
        [.pass 100, .event 150 (.reloaded 1)] =
      (small 1 "require \"m\"").run
        ([.event 0 (.attached smallClient 1)] ++ .pass 100 :: [.event 150 (.reloaded 1)]) :=
    (run_append _ _ _).symm
  obtain ⟨-, hfailed⟩ := due?_of_unarmed (small 1 "require \"m\"") [.event 0 (.attached smallClient 1)]
    [.event 150 (.reloaded 1)] 100 hrun (by simp [Act.isPass]) (world_run _ hedits).2.1
    (isEnabled_run _ hedits) (by decide +kernel)
  exact hfailed smallClient (by decide +kernel) smallFolder (by decide +kernel) _ (by decide +kernel)

/-- An update can be due while no timer is armed: a refused push leaves it so. -/
theorem not_forall_due?_eq_none :
    ¬ ∀ (config : Config) (env : Environment) (before after : List Act) (now : Nat) (last : Session),
      last = (Session.start config env).run (before ++ .pass now :: after) →
      last.env.clients.connected = ((Session.start config env).run before).env.clients.connected →
      (∀ root, last.isEnabled root = ((Session.start config env).run before).isEnabled root) →
      last.tracker.timer.isArmed = false →
      ∀ client ∈ last.env.clients.named last.tracker.config.clientName,
        ∀ folder ∈ last.enabled client,
          last.tracker.libraries.due? (keyOf client folder) = none := by
  intro h
  have hedits : ∀ a ∈ [Act.pass 100], a.EditsBuffers := by simp [Act.EditsBuffers]
  have hrun : ((small 1 "require \"m\"").run [.event 0 (.attached smallClient 1)]).run [.pass 100] =
      (small 1 "require \"m\"").run ([.event 0 (.attached smallClient 1)] ++ [.pass 100]) :=
    (run_append _ _ _).symm
  have hnone := h {} (small 1 "require \"m\"").env [.event 0 (.attached smallClient 1)] [] 100 _ hrun
    (world_run _ hedits).2.1 (isEnabled_run _ hedits) (by decide +kernel) smallClient (by decide +kernel)
    smallFolder (by decide +kernel)
  have hdue : (((small 1 "require \"m\"").run [.event 0 (.attached smallClient 1)]).run
      [.pass 100]).tracker.libraries.due? (keyOf smallClient smallFolder) ≠ none := by decide +kernel
  exact hdue hnone

end LibraryPaths.Session

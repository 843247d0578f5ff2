import LibraryPaths.Proofs.Session.Received

/-!
# What a client is shown does not shrink

Every recorded push was made in some pass of the run (`MadeAt`), and carries what the libraries offered at
that moment.  Later moments see larger libraries, so a later list for a folder has every path of an earlier
one; but a path that a folder had of its own may have become global in between, so it is the members of
the lists that are compared and not their order.

* `exists_madeAt`: the pass a recorded push was made in;
* `MadeAt.before_le`: later pushes were made in later passes or in the same one;
* `offered_eq_append`: the order of an offer;
* `holdsPath_offered`: what was offered once is offered while the libraries grow;
* `lists_of_deliveries`: both, for any two pushes of a run.
-/

set_option autoImplicit false

namespace LibraryPaths.Session

variable {session start : Session} {now : Nat} {client : Client} {key : FolderKey} {acts : List Act}

/-! ## The record of a pass -/

/-- Visits record parcels of the clients that are visited. -/
theorem exists_deliveries_foldl_visit (now : Nat) (clients : List Client) (session : Session) :
    ∃ made, (clients.foldl (visit now) session).env.clients.deliveries =
        session.env.clients.deliveries ++ made ∧
      ∀ d ∈ made, d.time = now ∧
        ∃ client ∈ clients, d.client = client.id ∧ d.update = session.parcel client := by
  induction clients generalizing session with
  | nil => exact ⟨[], (List.append_nil _).symm, fun d hd => by cases hd⟩
  | cons first clients ih =>
    have hpicture := picture_visit now session first
    obtain ⟨made, hrecord, hmade⟩ := ih (session.visit now first)
    refine ⟨(if (session.reconcileClient now first).2 then [⟨first.id, session.parcel first, now⟩]
      else []) ++ made, ?_, ?_⟩
    · rw [List.foldl_cons, hrecord, deliveries_visit, List.append_assoc]
    · intro d hd
      rcases List.mem_append.1 hd with hd | hd
      · split at hd
        · obtain rfl := List.mem_singleton.1 hd
          exact ⟨rfl, first, List.mem_cons_self, rfl, rfl⟩
        · cases hd
      · obtain ⟨htime, client, hclient, hid, hupdate⟩ := hmade d hd
        rw [parcel_congr hpicture] at hupdate
        exact ⟨htime, client, List.mem_cons_of_mem _ hclient, hid, hupdate⟩

/-- Only passes record something, and then parcels. -/
theorem exists_deliveries_act {a : Act} (session : Session) (ha : a.Keeps (·.clients.deliveries)) :
    ∃ made, (session.act a).env.clients.deliveries = session.env.clients.deliveries ++ made ∧
      ∀ d ∈ made, a = .pass d.time ∧
        ∃ client, d.client = client.id ∧ d.update = session.parcel client := by
  cases a with
  | event now event =>
    refine ⟨[], ?_, fun d hd => by cases hd⟩
    rw [List.append_nil]
    exact congrArg Clients.deliveries (clients_handle now session event)
  | edit change => exact ⟨[], (ha session.env).trans (List.append_nil _).symm, fun d hd => by cases hd⟩
  | pass now =>
    obtain ⟨made, hrecord, hmade⟩ := exists_deliveries_foldl_visit now
      (session.env.clients.named session.tracker.config.clientName) session.beginPass
    refine ⟨made, ?_, fun d hd => ?_⟩
    · show (session.reconcile now).1.env.clients.deliveries = _
      rw [reconcile_fst, hrecord, clients_beginPass]
    · obtain ⟨rfl, client, -, hid, hupdate⟩ := hmade d hd
      rw [parcel_congr (picture_beginPass session)] at hupdate
      exact ⟨rfl, client, hid, hupdate⟩

/-- How many pushes have been recorded after a run. -/
def recorded (start : Session) (acts : List Act) : Nat :=
  (start.run acts).env.clients.deliveries.length

theorem recorded_le (start : Session) {before : List Act}
    (hacts : ∀ a ∈ acts, a.Keeps (·.clients.deliveries)) (h : before <+: acts) :
    start.recorded before ≤ start.recorded acts := by
  obtain ⟨rest, rfl⟩ := h
  induction rest using List.reverseRecOn with
  | nil => rw [List.append_nil]
  | append_singleton rest a ih =>
    rw [← List.append_assoc] at hacts ⊢
    obtain ⟨made, hrecord, -⟩ := exists_deliveries_act (start.run (before ++ rest))
      (hacts a (List.mem_append_right _ List.mem_cons_self))
    have hrun : start.run (before ++ rest ++ [a]) = (start.run (before ++ rest)).act a :=
      run_append start (before ++ rest) [a]
    refine (ih fun b hb => hacts b (List.mem_append_left _ hb)).trans ?_
    unfold recorded
    rw [hrun, hrecord, List.length_append]
    exact Nat.le_add_right _ _

/-! ## Where a push was made -/

/-- The `i`-th push recorded in a run was made in the pass that comes after `before`: the pass took the record
past it, and what was sent is the parcel of that moment. -/
structure MadeAt (start : Session) (acts : List Act) (i : Nat) (d : Delivery) (before : List Act) :
    Prop where
  pass : before ++ [.pass d.time] <+: acts
  new : start.recorded before ≤ i
  made : i < start.recorded (before ++ [.pass d.time])
  parcel : ∃ client, d.client = client.id ∧ d.update = (start.run before).parcel client

namespace MadeAt

variable {i j : Nat} {d e : Delivery} {before later : List Act}

theorem prefix_acts (h : MadeAt start acts i d before) : before <+: acts :=
  (List.prefix_append _ _).trans h.pass

/-- The list of a recorded push for a folder is what the folder was offered at that moment. -/
theorem library_eq (h : MadeAt start acts i d before) {entry : FolderUpdate}
    (hentry : entry ∈ d.update.folders) :
    entry.library =
      (start.run before).tracker.libraries.offered ⟨d.client, entry.folder.name⟩ := by
  obtain ⟨client, hid, hupdate⟩ := h.parcel
  rw [hupdate] at hentry
  rw [hid]
  exact (mem_parcel_iff.1 hentry).2

/-- **Later pushes were not made in earlier passes.** -/
theorem before_le (h : MadeAt start acts i d before) (h' : MadeAt start acts j e later)
    (hacts : ∀ a ∈ acts, a.Keeps (·.clients.deliveries)) (hij : i < j) : before <+: later := by
  have hnew := h.new
  have hmade := h'.made
  rcases List.prefix_or_prefix_of_prefix h.prefix_acts h'.pass with hle | hle
  · rcases List.prefix_concat_iff.1 hle with rfl | hle
    · omega
    · exact hle
  · -- the pass of the later push would have been over before the pass of the earlier one
    have hover := recorded_le start (fun a ha => hacts a (h.prefix_acts.subset ha)) hle
    omega

end MadeAt

/-- **Every push of a run was made in one of its passes.** -/
theorem exists_madeAt (hnone : start.env.clients.deliveries = [])
    (hacts : ∀ a ∈ acts, a.Keeps (·.clients.deliveries)) {i : Nat} {d : Delivery}
    (h : (start.run acts).env.clients.deliveries[i]? = some d) :
    ∃ before, MadeAt start acts i d before := by
  induction acts using List.reverseRecOn with
  | nil =>
    rw [run_nil, hnone] at h
    cases h
  | append_singleton acts a ih =>
    obtain ⟨made, hrecord, hmade⟩ := exists_deliveries_act (start.run acts)
      (hacts a (List.mem_append_right _ List.mem_cons_self))
    have hrun : start.run (acts ++ [a]) = (start.run acts).act a := run_append start acts [a]
    by_cases hi : i < start.recorded acts
    · -- it was recorded before the last act
      rw [hrun, hrecord, List.getElem?_append_left hi] at h
      obtain ⟨before, hbefore⟩ := ih (fun b hb => hacts b (List.mem_append_left _ hb)) h
      exact ⟨before, { hbefore with pass := hbefore.pass.trans (List.prefix_append _ _) }⟩
    · have hi' := Nat.le_of_not_lt hi
      have hlast : i < start.recorded (acts ++ [a]) := (List.getElem?_eq_some_iff.1 h).1
      rw [hrun, hrecord, List.getElem?_append_right hi'] at h
      obtain ⟨rfl, hparcel⟩ := hmade d (List.mem_of_getElem? h)
      exact ⟨acts, List.prefix_rfl, hi', hlast, hparcel⟩

/-! ## Offers -/

/-- **The order of an offer**: the whole global library, then what the folder has beside it. -/
theorem offered_eq_append (happart : ∀ scope, Apart (session.stored scope)) (key : FolderKey) :
    session.tracker.libraries.offered key =
      session.stored .global ++
        (session.stored (.folder key)).filter fun p => !holdsPath (session.stored .global) p := by
  rw [Libraries.offered_eq]
  exact distinctPaths_append (happart .global) (happart (.folder key))

/-- What was offered once is offered while the libraries grow. -/
theorem holdsPath_offered {next : Session} {p : Path}
    (hgrown : ∀ scope, session.stored scope <+: next.stored scope)
    (hp : p ∈ session.tracker.libraries.offered key) :
    holdsPath (next.tracker.libraries.offered key) p = true := by
  rw [Libraries.offered_eq] at hp ⊢
  have hmem : p ∈ next.stored .global ++ next.stored (.folder key) := by
    rcases List.mem_append.1 (mem_of_mem_distinctPaths hp) with hp | hp
    · exact List.mem_append_left _ ((hgrown .global).subset hp)
    · exact List.mem_append_right _ ((hgrown (.folder key)).subset hp)
  obtain ⟨q, hq, hsame⟩ := exists_same_mem_distinctPaths hmem
  exact List.any_eq_true.2 ⟨q, hq, hsame⟩

/-- Plainly spelled paths are offered again as they were spelled. -/
theorem mem_offered_of_plain {next : Session} {p : Path}
    (hgrown : ∀ scope, session.stored scope <+: next.stored scope)
    (hplain : ∀ scope, ∀ q ∈ next.stored scope, q.Plain)
    (hp : p ∈ session.tracker.libraries.offered key) :
    p ∈ next.tracker.libraries.offered key := by
  obtain ⟨q, hq, hsame⟩ := List.any_eq_true.1 (holdsPath_offered hgrown hp)
  have hpplain : p.Plain := ((offered_now session key).mono hgrown).plain hplain p hp
  have hqplain : q.Plain := (offered_now next key).plain hplain q hq
  rwa [hpplain.eq_of_same hqplain (Path.same_iff.1 hsame).symm]

/-- What a session starts with has no path twice if that is so of the libraries it is given. -/
theorem apart_startWith (config : Config) (env : Environment) {libraries : Libraries}
    (h : ∀ scope, Apart (libraries.library scope).paths) (scope : Scope) :
    Apart ((startWith config env libraries).stored scope) := by
  cases scope with
  | global => exact Library.apart_addAll _ (h .global)
  | folder key => exact h (.folder key)

/-- **What a client is shown does not shrink.**  A session that starts with an empty record and with libraries
that have no path twice runs; any pushes fail, and the outside world changes what it likes but the record.  Of
any two recorded pushes to one client that have a folder of the same name, the later list has every path of
the earlier one, and has it as it was spelled if the stored paths are spelled plainly.  Every recorded push was
made in a pass of the run, and its list for a folder is the global library of that moment in its own order,
followed by what the folder's library has beside it in its own order, and has no path twice. -/
theorem lists_of_deliveries {config : Config} {env : Environment} {libraries : Libraries}
    {start last : Session} {acts : List Act}
    (hstart : start = startWith config env libraries)
    (hset : ∀ scope, Apart (libraries.library scope).paths)
    (hnone : env.clients.deliveries = [])
    (hacts : ∀ a ∈ acts, a.Keeps (·.clients.deliveries))
    (hlast : last = start.run acts) :
    (last.env.clients.deliveries.Pairwise fun d e => d.client = e.client →
      ∀ earlier ∈ d.update.folders, ∀ later ∈ e.update.folders,
        earlier.folder.name = later.folder.name → ∀ p ∈ earlier.library,
          holdsPath later.library p = true ∧
            ((∀ scope, ∀ q ∈ last.stored scope, q.Plain) → p ∈ later.library)) ∧
    ∀ i d, last.env.clients.deliveries[i]? = some d →
      ∃ before, MadeAt start acts i d before ∧ ∀ entry ∈ d.update.folders,
        Apart entry.library ∧
        entry.library = (start.run before).stored .global ++
          ((start.run before).stored (.folder ⟨d.client, entry.folder.name⟩)).filter fun p =>
            !holdsPath ((start.run before).stored .global) p := by
  have hrecord : start.env.clients.deliveries = [] := by rw [hstart]; exact hnone
  have happart : ∀ before scope, Apart ((start.run before).stored scope) := by
    intro before
    refine apart_run ?_ before
    rw [hstart]
    exact apart_startWith config env hset
  subst hlast
  constructor
  · rw [List.pairwise_iff_getElem]
    intro i j hi hj hij hclient earlier hearlier later hlater hname p hp
    obtain ⟨before, hbefore⟩ := exists_madeAt hrecord hacts (List.getElem?_eq_getElem hi)
    obtain ⟨after, hafter⟩ := exists_madeAt hrecord hacts (List.getElem?_eq_getElem hj)
    have hgrown := stored_mono start (hbefore.before_le hafter hacts hij)
    have hstays := stored_mono start hafter.prefix_acts
    rw [hbefore.library_eq hearlier] at hp
    rw [hafter.library_eq hlater, ← hname, ← hclient]
    exact ⟨holdsPath_offered hgrown hp, fun hplain =>
      mem_offered_of_plain hgrown (fun scope q hq => hplain scope q ((hstays scope).subset hq)) hp⟩
  · intro i d hd
    obtain ⟨before, hbefore⟩ := exists_madeAt hrecord hacts hd
    refine ⟨before, hbefore, fun entry hentry => ?_⟩
    rw [hbefore.library_eq hentry]
    refine ⟨?_, offered_eq_append (happart before) _⟩
    rw [Libraries.offered_eq]
    exact apart_distinctPaths _

/-- The run of a folder whose own path becomes a global one between two passes. -/
def promoted : List Act :=
  [.event 0 (.attached smallClient 1), .pass 100, .event 150 (.library (.ofString "/x")),
    .event 150 (.library (.ofString "/plugins/m/lua")), .pass 300]

/-- The path that was the folder's own stands behind the other global one in the later list. -/
theorem lists_of_deliveries_promoted :
    ∃ last d e, last = (small 0 "require \"m\"").run promoted ∧
      last.env.clients.deliveries = [d, e] ∧
      d.update.folders = [⟨smallFolder, [.ofString "/plugins/m/lua"]⟩] ∧
      e.update.folders = [⟨smallFolder, [.ofString "/x", .ofString "/plugins/m/lua"]⟩] ∧
      holdsPath [.ofString "/x", .ofString "/plugins/m/lua"] (.ofString "/plugins/m/lua") = true := by
  have hkeeps : ∀ a ∈ promoted, a.Keeps (·.clients.deliveries) := by simp [promoted, Act.Keeps]
  obtain ⟨hshown, -⟩ := lists_of_deliveries
    (rfl : small 0 "require \"m\"" = startWith {} (small 0 "require \"m\"").env .empty)
    (fun scope => by cases scope <;> exact List.Pairwise.nil) rfl hkeeps rfl
  have hdeliveries : ((small 0 "require \"m\"").run promoted).env.clients.deliveries =
      [⟨1, ⟨"Lua", [⟨smallFolder, [.ofString "/plugins/m/lua"]⟩]⟩, 100⟩,
       ⟨1, ⟨"Lua", [⟨smallFolder, [.ofString "/x", .ofString "/plugins/m/lua"]⟩]⟩, 300⟩] := by
    decide +kernel
  refine ⟨_, _, _, rfl, hdeliveries, rfl, rfl, ?_⟩
  rw [hdeliveries] at hshown
  exact ((List.pairwise_cons.1 hshown).1 _ List.mem_cons_self rfl _ List.mem_cons_self _
    List.mem_cons_self rfl _ List.mem_cons_self).1

end LibraryPaths.Session

import LibraryPaths.Proofs.Session.Bookkeeping
import LibraryPaths.Proofs.Session.Undelivered

/-!
# A push that fails concerns its client alone

If no two clients of a pass share an id, a visit reads and writes nothing that the visit of another client
reads or writes, though all of them work on the same libraries.  So whom a pass pushes to, and what, is settled
before the first push is answered; and a client whose push failed is left as it was, so that it wants the
same again.

* `pushes_eq`: the pushes of a pass, read off the session before it;
* `failedPushes_eq`: those that fail are the ones that are still wanted afterwards;
* `delivered_reconcile`: what a pass marks as delivered;
* `pushes_reconcile_eq`: all of it together, with the pass that comes next.
-/

set_option autoImplicit false

namespace LibraryPaths.Session

variable {session s t : Session} {now : Nat} {client other : Client} {key : FolderKey}
  {clients : List Client}

/-! ## One visit -/

/-- Whether a client wants something depends on the picture and on what its own folders have. -/
theorem wants_congr (h : s.picture = t.picture)
    (hdelivered : ∀ key, key.client = client.id →
      s.tracker.libraries.delivered key = t.tracker.libraries.delivered key) :
    s.wants client = t.wants client := by
  rw [Bool.eq_iff_iff, wants_iff, wants_iff, enabledKeys_congr h]
  have hdue : ∀ key ∈ t.enabledKeys client,
      s.tracker.libraries.due? key = t.tracker.libraries.due? key :=
    fun key hkey => due?_congr h (hdelivered key (client_of_mem_enabledKeys hkey))
  constructor
  · rintro ⟨key, hkey, paths, hpaths⟩
    exact ⟨key, hkey, paths, (hdue key hkey).symm.trans hpaths⟩
  · rintro ⟨key, hkey, paths, hpaths⟩
    exact ⟨key, hkey, paths, (hdue key hkey).trans hpaths⟩

theorem wants_visit_of_ne (now : Nat) (session : Session) (hid : other.id ≠ client.id) :
    (session.visit now other).wants client = session.wants client :=
  wants_congr (picture_visit now session other) fun _ hkey =>
    delivered_visit_of_ne now session (hkey ▸ hid)

/-- After its visit a client wants something iff it could not be pushed what it wanted. -/
theorem wants_visit_self (now : Nat) (session : Session) (client : Client) :
    (session.visit now client).wants client = session.fails now client := by
  have hpicture := picture_visit now session client
  cases hfails : session.fails now client with
  | false =>
    rw [Bool.eq_false_iff]
    intro hwants
    obtain ⟨key, hkey, paths, hdue⟩ := wants_iff.1 hwants
    rw [enabledKeys_congr hpicture] at hkey
    rw [due?_visit_of_not_fails hfails hkey] at hdue
    cases hdue
  | true =>
    unfold fails at hfails
    rw [Bool.and_eq_true, Clients.isOk_push, Bool.not_eq_true'] at hfails
    rw [← hfails.1]
    refine wants_congr hpicture fun key _ => ?_
    refine (delivered_reconcileClient now session client key).trans (if_neg ?_)
    rw [snd_reconcileClient, hfails.2]
    simp

/-- A visit marks as delivered what was due for the folders it looked at, unless its push failed. -/
theorem delivered_visit (now : Nat) (session : Session) (client : Client) (key : FolderKey) :
    (session.visit now client).tracker.libraries.delivered key =
      if session.fails now client = false ∧ key ∈ session.enabledKeys client ∧
          (session.tracker.libraries.due? key).isSome then
        session.tracker.libraries.offered key
      else session.tracker.libraries.delivered key := by
  refine (delivered_reconcileClient now session client key).trans ?_
  by_cases hdue : key ∈ session.enabledKeys client ∧ (session.tracker.libraries.due? key).isSome
  · obtain ⟨paths, hpaths⟩ := Option.isSome_iff_exists.1 hdue.2
    have hwants : session.wants client = true := wants_iff.2 ⟨key, hdue.1, paths, hpaths⟩
    have hok : (session.reconcileClient now client).2 = true ↔ session.fails now client = false := by
      unfold fails
      rw [snd_reconcileClient, hwants, Clients.isOk_push]
      simp
    simp only [hok]
  · rw [if_neg fun h => hdue h.2, if_neg fun h => hdue h.2]

/-! ## Visits one after the other -/

theorem delivered_foldl_visit_of_not_mem (clients : List Client) (session : Session)
    (hid : key.client ∉ clients.map (·.id)) :
    (clients.foldl (visit now) session).tracker.libraries.delivered key =
      session.tracker.libraries.delivered key := by
  induction clients generalizing session with
  | nil => rfl
  | cons other clients ih =>
    obtain ⟨hne, hlater⟩ := not_or.1 fun h => hid (List.mem_cons.2 h)
    exact (ih _ hlater).trans (delivered_visit_of_ne now session (Ne.symm hne))

theorem wants_foldl_visit_of_not_mem (clients : List Client) (session : Session)
    (hid : client.id ∉ clients.map (·.id)) :
    (clients.foldl (visit now) session).wants client = session.wants client :=
  wants_congr (picture_foldl_visit now clients session) fun _ hkey =>
    delivered_foldl_visit_of_not_mem clients session (hkey ▸ hid)

/-- In a list without repeated ids the first id is none of the others. -/
theorem ne_of_nodup_ids {first : Client} (hids : ((first :: clients).map (·.id)).Nodup)
    (hclient : client ∈ clients) : first.id ≠ client.id :=
  fun h => (List.nodup_cons.1 hids).1 (List.mem_map.2 ⟨client, hclient, h.symm⟩)

/-- **Whom visits push to, and what, is known before the first one.** -/
theorem pushesTo_eq (clients : List Client) (session : Session)
    (hids : (clients.map (·.id)).Nodup)
    (hconnected : ∀ client ∈ clients, client ∈ session.env.clients.connected) :
    session.pushesTo now clients =
      (clients.filter session.wants).map fun client => (client, session.parcel client) := by
  induction clients generalizing session with
  | nil => rfl
  | cons first clients ih =>
    have hpicture := picture_visit now session first
    have hkept := connected_visit now session first
    have hrest : (session.visit now first).pushesTo now clients =
        (clients.filter session.wants).map fun client => (client, session.parcel client) := by
      rw [ih _ (List.nodup_cons.1 hids).2 fun c hc =>
        hkept ▸ hconnected c (List.mem_cons_of_mem _ hc)]
      simp only [parcel_congr hpicture]
      rw [List.filter_congr fun c hc => wants_visit_of_ne now session (ne_of_nodup_ids hids hc)]
    rw [pushesTo, puts_eq now (hconnected first List.mem_cons_self), hrest]
    cases hwants : session.wants first with
    | true => rw [List.filter_cons_of_pos hwants]; rfl
    | false => rw [List.filter_cons_of_neg (by simp [hwants])]; rfl

/-- **What fails while clients are visited is what they still want in the end.** -/
theorem failures_eq (clients : List Client) (session : Session)
    (hids : (clients.map (·.id)).Nodup) :
    session.failures now clients =
      (clients.filter (clients.foldl (visit now) session).wants).map
        fun client => (client, session.parcel client) := by
  induction clients generalizing session with
  | nil => rfl
  | cons first clients ih =>
    obtain ⟨hfirst, hlater⟩ := List.nodup_cons.1 hids
    have hpicture := picture_visit now session first
    have hwants : (clients.foldl (visit now) (session.visit now first)).wants first =
        session.fails now first :=
      (wants_foldl_visit_of_not_mem clients _ hfirst).trans (wants_visit_self now session first)
    have hrest := ih (session.visit now first) hlater
    simp only [parcel_congr hpicture] at hrest
    rw [failures, hrest, List.foldl_cons]
    cases hfails : session.fails now first with
    | true => rw [List.filter_cons_of_pos (hwants.trans hfails)]; rfl
    | false => rw [List.filter_cons_of_neg (by simp [hwants, hfails])]; rfl

/-- Visits mark as delivered what was due for the folders of a client, unless its push failed. -/
theorem delivered_foldl_visit (now : Nat) (clients : List Client) (session : Session)
    (hids : (clients.map (·.id)).Nodup) (hclient : client ∈ clients) (hkey : key.client = client.id) :
    (clients.foldl (visit now) session).tracker.libraries.delivered key =
      if (clients.foldl (visit now) session).wants client = false ∧ key ∈ session.enabledKeys client ∧
          (session.tracker.libraries.due? key).isSome then
        session.tracker.libraries.offered key
      else session.tracker.libraries.delivered key := by
  induction clients generalizing session with
  | nil => cases hclient
  | cons first clients ih =>
    obtain ⟨hfirst, hlater⟩ := List.nodup_cons.1 hids
    have hpicture := picture_visit now session first
    rw [List.foldl_cons]
    rcases List.mem_cons.1 hclient with rfl | hmem
    · rw [delivered_foldl_visit_of_not_mem _ _ (hkey ▸ hfirst), delivered_visit,
        wants_foldl_visit_of_not_mem _ _ hfirst, wants_visit_self]
    · have hdelivered := delivered_visit_of_ne now session (hkey ▸ ne_of_nodup_ids hids hmem)
      rw [ih _ hlater hmem, enabledKeys_congr hpicture, offered_congr hpicture,
        due?_congr hpicture hdelivered, hdelivered]

/-! ## Counting -/

/-- A push that a visit makes is received or fails. -/
theorem length_puts (now : Nat) (hclient : client ∈ session.env.clients.connected) :
    (session.puts now client).length =
      (if (session.reconcileClient now client).2 then 1 else 0) +
        if session.fails now client then 1 else 0 := by
  rw [puts_eq now hclient, snd_reconcileClient, fails, Clients.isOk_push]
  cases session.wants client with
  | false => rfl
  | true => cases session.env.clients.accepts client.id <;> rfl

/-- **Visits count the pushes that are received**: all that are made but for those that fail. -/
theorem snd_foldl_reconcileNext (now : Nat) (clients : List Client) (session : Session) (count : Nat)
    (hconnected : ∀ client ∈ clients, client ∈ session.env.clients.connected) :
    (clients.foldl (reconcileNext now) (session, count)).2 + (session.failures now clients).length =
        count + (session.pushesTo now clients).length ∧
      (clients.foldl (visit now) session).env.clients.deliveries.length + count =
        session.env.clients.deliveries.length +
          (clients.foldl (reconcileNext now) (session, count)).2 := by
  induction clients generalizing session count with
  | nil => exact ⟨rfl, rfl⟩
  | cons first clients ih =>
    have hkept := connected_visit now session first
    have hnext : reconcileNext now (session, count) first =
        (session.visit now first,
          count + if (session.reconcileClient now first).2 then 1 else 0) := by
      simp only [reconcileNext, visit]
      split <;> rfl
    have hfailures : (session.failures now (first :: clients)).length =
        (if session.fails now first then 1 else 0) +
          ((session.visit now first).failures now clients).length := by
      rw [failures]
      split
      · rw [List.length_cons, Nat.add_comm]
      · rw [Nat.zero_add]
    obtain ⟨hcount, hrecord⟩ := ih (session.visit now first)
      (count + if (session.reconcileClient now first).2 then 1 else 0) fun c hc =>
        hkept ▸ hconnected c (List.mem_cons_of_mem _ hc)
    have hputs := length_puts now (hconnected first List.mem_cons_self)
    have hdeliveries : (session.visit now first).env.clients.deliveries.length =
        session.env.clients.deliveries.length +
          if (session.reconcileClient now first).2 then 1 else 0 := by
      rw [deliveries_visit, List.length_append]
      split <;> rfl
    rw [List.foldl_cons, List.foldl_cons, hnext, hfailures, pushesTo, List.length_append,
      List.length_map]
    constructor <;> omega

/-! ## A pass -/

/-- The session behind a connection that refuses other attempts. -/
def refusing (session : Session) (refuses : Nat → Bool) : Session :=
  { session with
    env := { session.env with clients := { session.env.clients with refuses } } }

section Pass

variable (hids : ((session.env.clients.named session.tracker.config.clientName).map (·.id)).Nodup)

theorem connected_beginPass_of_named :
    ∀ client ∈ session.env.clients.named session.tracker.config.clientName,
      client ∈ session.beginPass.env.clients.connected := by
  intro client hclient
  rw [clients_beginPass]
  exact (List.mem_filter.1 hclient).1

theorem wants_beginPass (session : Session) (client : Client) :
    session.beginPass.wants client = session.wants client :=
  wants_congr (picture_beginPass session) fun key _ => by rw [libraries_beginPass]

include hids

/-- Whom a pass turns to does not depend on what it will be answered. -/
theorem nodup_ids_refusing (refuses : Nat → Bool) :
    (((session.refusing refuses).env.clients.named
      (session.refusing refuses).tracker.config.clientName).map (·.id)).Nodup :=
  hids

/-- **The pushes of a pass, read off the session before it.** -/
theorem pushes_eq (now : Nat) :
    session.pushes now =
      ((session.env.clients.named session.tracker.config.clientName).filter session.wants).map
        fun client => (client, session.parcel client) := by
  unfold pushes
  rw [pushesTo_eq _ _ hids connected_beginPass_of_named]
  simp only [parcel_congr (picture_beginPass session)]
  rw [List.filter_congr fun client _ => wants_beginPass session client]

/-- **The pushes that fail in a pass are those that are still wanted after it.** -/
theorem failedPushes_eq (now : Nat) :
    session.failedPushes now =
      ((session.env.clients.named session.tracker.config.clientName).filter
        (session.reconcile now).1.wants).map fun client => (client, session.parcel client) := by
  unfold failedPushes
  rw [failures_eq _ _ hids, reconcile_fst]
  simp only [parcel_congr (picture_beginPass session)]

theorem mem_failedPushes_iff (now : Nat) :
    client ∈ (session.failedPushes now).map Prod.fst ↔
      client ∈ session.env.clients.named session.tracker.config.clientName ∧
        (session.reconcile now).1.wants client = true := by
  rw [failedPushes_eq hids, List.map_map, ← List.mem_filter]
  simp

/-- A pass marks as delivered what was due for the enabled folders of a client, unless its push failed. -/
theorem delivered_reconcile (now : Nat)
    (hclient : client ∈ session.env.clients.named session.tracker.config.clientName)
    (hkey : key.client = client.id) :
    (session.reconcile now).1.tracker.libraries.delivered key =
      if client ∉ (session.failedPushes now).map Prod.fst ∧ key ∈ session.enabledKeys client ∧
          (session.tracker.libraries.due? key).isSome then
        session.tracker.libraries.offered key
      else session.tracker.libraries.delivered key := by
  have hpicture := picture_beginPass session
  have hfailed : (session.reconcile now).1.wants client = false ↔
      client ∉ (session.failedPushes now).map Prod.fst := by
    rw [mem_failedPushes_iff hids, not_and, Bool.not_eq_true]
    exact ⟨fun h _ => h, fun h => h hclient⟩
  have hdelivered := delivered_foldl_visit now _ session.beginPass hids hclient hkey
  rw [← reconcile_fst, libraries_beginPass, enabledKeys_congr hpicture] at hdelivered
  simp only [hdelivered, hfailed]

/-- What the connection answers to others makes no difference to what a pass marks for a client. -/
theorem delivered_reconcile_refusing (now : Nat) (refuses : Nat → Bool)
    (hanswers : ∀ client ∈ session.env.clients.named session.tracker.config.clientName,
      client.id = key.client →
        (client ∈ ((session.refusing refuses).failedPushes now).map Prod.fst ↔
          client ∈ (session.failedPushes now).map Prod.fst)) :
    ((session.refusing refuses).reconcile now).1.tracker.libraries.delivered key =
      (session.reconcile now).1.tracker.libraries.delivered key := by
  by_cases hlisted : key.client ∈
      (session.env.clients.named session.tracker.config.clientName).map (·.id)
  · obtain ⟨client, hclient, hid⟩ := List.mem_map.1 hlisted
    rw [delivered_reconcile hids now hclient hid.symm,
      delivered_reconcile (nodup_ids_refusing hids refuses) now hclient hid.symm]
    simp only [hanswers client hclient hid]
    rfl
  · -- nobody is visited who could be sent anything for the folder
    have hother : key.client ∉ ((session.refusing refuses).env.clients.named
        (session.refusing refuses).tracker.config.clientName).map (·.id) := hlisted
    rw [reconcile_fst, reconcile_fst, delivered_foldl_visit_of_not_mem _ _ hother,
      delivered_foldl_visit_of_not_mem _ _ hlisted, libraries_beginPass, libraries_beginPass]
    rfl

/-- After a pass the pushes that failed in it are the ones to be made. -/
theorem pushes_reconcile (now later : Nat) :
    (session.reconcile now).1.pushes later = session.failedPushes now := by
  have hpicture := picture_reconcile now session
  have hconfig : (session.reconcile now).1.tracker.config = session.tracker.config :=
    congrArg Picture.config hpicture
  have hnamed : (session.reconcile now).1.env.clients.named
      (session.reconcile now).1.tracker.config.clientName =
        session.env.clients.named session.tracker.config.clientName := by
    unfold Clients.named
    rw [connected_reconcile, hconfig]
  have hlater : (((session.reconcile now).1.env.clients.named
      (session.reconcile now).1.tracker.config.clientName).map (·.id)).Nodup := hnamed ▸ hids
  rw [pushes_eq hlater, failedPushes_eq hids, hnamed]
  simp only [parcel_congr hpicture]

end Pass

/-- A pass makes its pushes, and nothing else happens to the clients. -/
theorem clients_reconcile (now : Nat) (session : Session) :
    (session.reconcile now).1.env.clients = session.env.clients.pushAll now (session.pushes now) := by
  rw [reconcile_fst, clients_foldl_visit _ _ connected_beginPass_of_named, clients_beginPass]
  rfl

/-- A pass counts the pushes that are recorded, which are those that do not fail. -/
theorem snd_reconcile (now : Nat) (session : Session) :
    (session.reconcile now).2 + (session.failedPushes now).length = (session.pushes now).length ∧
      (session.reconcile now).1.env.clients.deliveries.length =
        session.env.clients.deliveries.length + (session.reconcile now).2 := by
  have hconfig : session.beginPass.tracker.config = session.tracker.config :=
    congrArg Picture.config (picture_beginPass session)
  have hsnd : (session.reconcile now).2 =
      ((session.env.clients.named session.tracker.config.clientName).foldl (reconcileNext now)
        (session.beginPass, 0)).2 := by
    unfold reconcile
    simp only
    rw [clients_beginPass, hconfig]
  obtain ⟨hcount, hrecord⟩ := snd_foldl_reconcileNext now
    (session.env.clients.named session.tracker.config.clientName) session.beginPass 0
    connected_beginPass_of_named
  rw [← hsnd, Nat.zero_add] at hcount
  rw [← hsnd, ← reconcile_fst, clients_beginPass, Nat.add_zero] at hrecord
  exact ⟨hcount, hrecord⟩

/-- **A push that fails concerns its client alone, and is made again.**  No two clients of a pass share an
id; any of its pushes fail.  Had others failed, the pass would have made the same pushes, and what it marks as
delivered to a client would be the same if the push to that client had the same fate.  The libraries stay as
they are, and so does what counts as delivered to a client whose push failed.  The pushes of the next pass are
the ones that failed, with the same updates; if there are none, it does not turn to the clients at all.  The
pass counts those of its pushes that did not fail, which are the ones that are recorded. -/
theorem pushes_reconcile_eq {session next : Session} {now count : Nat}
    (hids : ((session.env.clients.named session.tracker.config.clientName).map (·.id)).Nodup)
    (hnext : session.reconcile now = (next, count)) :
    (∀ refuses,
      (session.refusing refuses).pushes now = session.pushes now ∧
      ∀ key,
        (∀ client ∈ session.env.clients.named session.tracker.config.clientName,
          client.id = key.client →
            (client ∈ ((session.refusing refuses).failedPushes now).map Prod.fst ↔
              client ∈ (session.failedPushes now).map Prod.fst)) →
        ((session.refusing refuses).reconcile now).1.tracker.libraries.delivered key =
          next.tracker.libraries.delivered key) ∧
    (∀ scope, next.stored scope = session.stored scope) ∧
    (∀ client ∈ (session.failedPushes now).map Prod.fst, ∀ key, key.client = client.id →
      next.tracker.libraries.delivered key = session.tracker.libraries.delivered key) ∧
    (∀ later, next.pushes later = session.failedPushes now ∧
      (session.failedPushes now = [] → (next.reconcile later).1.env.clients = next.env.clients)) ∧
    next.env.clients = session.env.clients.pushAll now (session.pushes now) ∧
    count + (session.failedPushes now).length = (session.pushes now).length ∧
    next.env.clients.deliveries.length = session.env.clients.deliveries.length + count := by
  obtain rfl : (session.reconcile now).1 = next := congrArg Prod.fst hnext
  obtain rfl : (session.reconcile now).2 = count := congrArg Prod.snd hnext
  obtain ⟨hcount, hrecord⟩ := snd_reconcile now session
  refine ⟨fun refuses => ⟨?_, fun key => delivered_reconcile_refusing hids now refuses⟩, ?_, ?_, ?_,
    clients_reconcile now session, hcount, hrecord⟩
  · exact (pushes_eq (nodup_ids_refusing hids refuses) now).trans (pushes_eq hids now).symm
  · exact fun scope => stored_congr (picture_reconcile now session) scope
  · intro client hfailed key hkey
    have hclient := ((mem_failedPushes_iff hids now).1 hfailed).1
    rw [delivered_reconcile hids now hclient hkey, if_neg fun h => h.1 hfailed]
  · intro later
    have hpushes := pushes_reconcile hids now later
    refine ⟨hpushes, fun hnone => ?_⟩
    rw [clients_reconcile, hpushes, hnone]
    rfl

/-! ## Two clients -/

/-- Another client that works on the same folder. -/
def twinClient : Client := ⟨2, "lua_ls", some [smallFolder]⟩

/-- A fresh session with two clients and one path for both, in which the first push is refused. -/
def twins : Session :=
  start { library := ["/x"] }
    { files := .empty
      loaded := []
      packages := .ofRoots []
      buffers := .empty
      clients := (Clients.ofList [smallClient, twinClient]).refuseNext 1 }

/-- The push to the first client fails and the one to the second does not, so the next pass pushes to the
first. -/
theorem pushes_reconcile_eq_twins :
    (twins.reconcile 100).2 = 1 ∧
      (twins.reconcile 100).1.pushes 200 =
        [(smallClient, ⟨"Lua", [⟨smallFolder, [.ofString "/x"]⟩]⟩)] := by
  obtain ⟨-, -, -, hnext, -, hcount, -⟩ := @pushes_reconcile_eq twins _ 100 _
    (by decide +kernel) rfl
  have hfailed : twins.failedPushes 100 =
      [(smallClient, ⟨"Lua", [⟨smallFolder, [.ofString "/x"]⟩]⟩)] := by decide +kernel
  have hpushes : (twins.pushes 100).length = 2 := by decide +kernel
  rw [hfailed, hpushes] at hcount
  exact ⟨Nat.succ.inj hcount, (hnext 200).1.trans hfailed⟩

end LibraryPaths.Session

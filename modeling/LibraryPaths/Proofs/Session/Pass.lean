import LibraryPaths.Proofs.Client.Push
import LibraryPaths.Proofs.Session.Picture

/-!
# What a reconcile pass does

A pass leaves the picture of a session alone.  It reads it: the picture determines which folders of a client
are enabled (`Session.enabled`) and what the client would be sent (`Session.parcel`); whether it is sent that
depends on what it has received (`Session.wants`).

* `clients_reconcileClient`, `sentTo_reconcileClient`, `delivered_reconcileClient`: the part of a pass that
  concerns one client;
* `deliveries_visit`: what is recorded of it;
* `picture_reconcile`, `timer_reconcile`: a whole pass disarms the timer and keeps the picture;
* `due?_foldl_visit_of_none`: visits make nothing due.
-/

set_option autoImplicit false

namespace LibraryPaths

namespace Libraries

theorem library_foldl_ensure {α : Type} (key : α → FolderKey) (xs : List α) (libraries : Libraries)
    (scope : Scope) :
    (xs.foldl (fun l x => l.ensure (key x)) libraries).library scope = libraries.library scope := by
  induction xs generalizing libraries with
  | nil => rfl
  | cons x xs ih => rw [List.foldl_cons, ih, library_ensure]

theorem delivered_foldl_ensure {α : Type} (key : α → FolderKey) (xs : List α) (libraries : Libraries)
    (k : FolderKey) :
    (xs.foldl (fun l x => l.ensure (key x)) libraries).delivered k = libraries.delivered k := by
  induction xs generalizing libraries with
  | nil => rfl
  | cons x xs ih => rw [List.foldl_cons, ih, delivered_ensure]

theorem library_foldl_markDelivered (due : List (FolderKey × List Path)) (libraries : Libraries)
    (scope : Scope) :
    (due.foldl (fun l (key, paths) => l.markDelivered key paths) libraries).library scope =
      libraries.library scope := by
  induction due generalizing libraries with
  | nil => rfl
  | cons entry due ih => rw [List.foldl_cons, ih, library_markDelivered]

/-- After some deliveries a folder's list is the one it was delivered, or what it was. -/
theorem delivered_foldl_markDelivered {offer : FolderKey → List Path}
    (due : List (FolderKey × List Path)) (hdue : ∀ entry ∈ due, entry.2 = offer entry.1)
    (libraries : Libraries) (k : FolderKey) :
    (due.foldl (fun l (key, paths) => l.markDelivered key paths) libraries).delivered k =
      if k ∈ due.map Prod.fst then offer k else libraries.delivered k := by
  induction due generalizing libraries with
  | nil => simp
  | cons entry due ih =>
    obtain ⟨key, paths⟩ := entry
    have hpaths : paths = offer key := hdue _ List.mem_cons_self
    rw [List.foldl_cons, ih fun e he => hdue e (List.mem_cons_of_mem _ he), delivered_markDelivered,
      hpaths, List.map_cons]
    by_cases hk : k = key
    · subst hk; simp
    · simp only [List.mem_cons, hk, false_or, if_false]

end Libraries

namespace Session

variable {session : Session} {now : Nat} {client : Client} {key : FolderKey}

/-! ## What a pass reads -/

/-- The folders of a client that a pass looks at. -/
def enabled (session : Session) (client : Client) : List Folder :=
  session.enabledFolders (client.folders.getD [])

/-- The keys of the folders of a client that a pass looks at. -/
def enabledKeys (session : Session) (client : Client) : List FolderKey :=
  (session.enabled client).map (keyOf client)

/-- Whether a pass has something to send to a client. -/
def wants (session : Session) (client : Client) : Bool :=
  (session.enabledKeys client).any fun key => (session.tracker.libraries.due? key).isSome

/-- What a pass sends to a client. -/
def parcel (session : Session) (client : Client) : Update :=
  session.updateFor client (session.enabled client)

theorem wants_iff :
    session.wants client = true ↔
      ∃ key ∈ session.enabledKeys client, ∃ paths, session.tracker.libraries.due? key = some paths := by
  unfold wants
  simp [List.any_eq_true, Option.isSome_iff_exists]

/-- The list that a parcel has for a folder is the one the folder is offered. -/
theorem mem_parcel_iff {folder : Folder} {library : List Path} :
    ⟨folder, library⟩ ∈ (session.parcel client).folders ↔
      folder ∈ session.enabled client ∧
        library = session.tracker.libraries.offered (keyOf client folder) := by
  constructor
  · intro hmem
    obtain ⟨listed, hlisted, heq⟩ := List.mem_map.1 hmem
    obtain ⟨rfl, rfl⟩ := FolderUpdate.mk.inj heq
    exact ⟨hlisted, rfl⟩
  · rintro ⟨hfolder, rfl⟩
    exact List.mem_map.2 ⟨folder, hfolder, rfl⟩

section Congruence

variable {s t : Session}

/-- The enabled folders of a client depend on the answers of the policy only. -/
theorem enabled_of_isEnabled (h : ∀ root, s.isEnabled root = t.isEnabled root) (client : Client) :
    s.enabled client = t.enabled client := by
  unfold enabled enabledFolders
  simp only [h]

theorem enabled_congr (h : s.picture = t.picture) (client : Client) :
    s.enabled client = t.enabled client := by
  have hfiles : s.env.files = t.env.files := congrArg Picture.files h
  have hconfig : s.tracker.config = t.tracker.config := congrArg Picture.config h
  refine enabled_of_isEnabled ?_ client
  intro root
  unfold isEnabled
  rw [hfiles, hconfig]

theorem enabledKeys_congr (h : s.picture = t.picture) (client : Client) :
    s.enabledKeys client = t.enabledKeys client := by
  unfold enabledKeys
  rw [enabled_congr h]

theorem offered_congr (h : s.picture = t.picture) (key : FolderKey) :
    s.tracker.libraries.offered key = t.tracker.libraries.offered key :=
  Libraries.offered_congr (congrFun (congrArg Picture.library h)) key

theorem due?_congr (h : s.picture = t.picture)
    (hd : s.tracker.libraries.delivered key = t.tracker.libraries.delivered key) :
    s.tracker.libraries.due? key = t.tracker.libraries.due? key :=
  Libraries.due?_congr (congrFun (congrArg Picture.library h)) hd

theorem parcel_congr (h : s.picture = t.picture) (client : Client) :
    s.parcel client = t.parcel client := by
  have hconfig : s.tracker.config = t.tracker.config := congrArg Picture.config h
  unfold parcel updateFor
  rw [enabled_congr h, hconfig]
  simp only [offered_congr h]

end Congruence

/-! ## The part of a pass that concerns one client -/

/-- The session with a record for every folder a pass looks at. -/
def made (session : Session) (client : Client) : Session :=
  session.withLibraries
    ((session.enabled client).foldl (fun l folder => l.ensure (keyOf client folder))
      session.tracker.libraries)

theorem picture_made (session : Session) (client : Client) :
    (session.made client).picture = session.picture := by
  have hlib : (session.made client).tracker.libraries.library = session.tracker.libraries.library :=
    funext fun scope => Libraries.library_foldl_ensure (keyOf client) _ _ scope
  exact congrArg (fun library => { session.picture with library }) hlib

theorem delivered_made (session : Session) (client : Client) (key : FolderKey) :
    (session.made client).tracker.libraries.delivered key =
      session.tracker.libraries.delivered key :=
  Libraries.delivered_foldl_ensure (keyOf client) _ _ key

/-- The folders that are due are due in the session with records made, and it is due what is offered. -/
theorem dueUpdates_made (session : Session) (client : Client) :
    (session.made client).dueUpdates client (session.enabled client) =
      ((session.enabledKeys client).filter
        fun key => (session.tracker.libraries.due? key).isSome).map
          fun key => (key, session.tracker.libraries.offered key) := by
  have hdue : ∀ key, (session.made client).tracker.libraries.due? key =
      session.tracker.libraries.due? key :=
    fun key => due?_congr (picture_made session client) (delivered_made session client key)
  unfold dueUpdates enabledKeys
  simp only [hdue]
  induction session.enabled client with
  | nil => rfl
  | cons folder folders ih =>
    rw [List.map_cons, List.filterMap_cons]
    cases h : session.tracker.libraries.due? (keyOf client folder) with
    | none => simp [h, ih]
    | some paths => simp [h, ih, (Libraries.due?_eq_some_iff.1 h).2]

theorem isEmpty_dueUpdates_made (session : Session) (client : Client) :
    ((session.made client).dueUpdates client (session.enabled client)).isEmpty =
      !session.wants client := by
  rw [dueUpdates_made, List.isEmpty_map]
  unfold wants
  induction session.enabledKeys client with
  | nil => rfl
  | cons key keys ih =>
    cases h : (session.tracker.libraries.due? key).isSome <;> simp [h, ih]

/-- The session in which a client's parcel was put to the connection. -/
def asked (now : Nat) (session : Session) (client : Client) : Session :=
  { session.made client with
    env :=
      { session.env with
        clients := (session.env.clients.push now client.id (session.parcel client)).1 } }

/-- The session in which a client has received its parcel. -/
def sent (now : Nat) (session : Session) (client : Client) : Session :=
  (session.asked now client).withLibraries
    (((session.made client).dueUpdates client (session.enabled client)).foldl
      (fun l (key, paths) => l.markDelivered key paths) (session.made client).tracker.libraries)

/-- **The three ways a client's part of a pass can end**: nothing to send, a push that failed, a push that
was received. -/
theorem reconcileClient_eq (now : Nat) (session : Session) (client : Client) :
    session.reconcileClient now client =
      if session.wants client then
        if session.env.clients.accepts client.id then (session.sent now client, true)
        else (session.asked now client, false)
      else (session.made client, false) := by
  have hempty := isEmpty_dueUpdates_made session client
  have hparcel : (session.made client).updateFor client (session.enabled client) =
      session.parcel client := by
    rw [← parcel_congr (picture_made session client) client, parcel,
      enabled_congr (picture_made session client)]
  have hok := Clients.isOk_push session.env.clients now client.id (session.parcel client)
  unfold reconcileClient
  cases hfolders : client.folders with
  | none =>
    have hnone : session.enabled client = [] := by simp [enabled, hfolders, enabledFolders]
    have hwants : session.wants client = false := by simp [wants, enabledKeys, hnone]
    rw [if_neg (by simp [hwants]), made, hnone]
    rfl
  | some all =>
    have hall : session.enabledFolders all = session.enabled client := by simp [enabled, hfolders]
    have hmade : session.withLibraries
        ((session.enabled client).foldl (fun l folder => l.ensure (keyOf client folder))
          session.tracker.libraries) = session.made client := rfl
    have henv : (session.made client).env = session.env := rfl
    simp only [hall, hmade, hempty, hparcel, henv]
    unfold sent asked
    cases session.wants client with
    | false => rfl
    | true =>
      rw [← hok]
      cases (session.env.clients.push now client.id (session.parcel client)).2 with
      | error fault => rfl
      | ok _ => rfl

theorem picture_sent (now : Nat) (session : Session) (client : Client) :
    (session.sent now client).picture = session.picture := by
  have hlib : (session.sent now client).tracker.libraries.library =
      (session.made client).tracker.libraries.library :=
    funext fun scope => Libraries.library_foldl_markDelivered _ _ scope
  rw [← picture_made session client]
  exact congrArg (fun library => { (session.made client).picture with library }) hlib

theorem delivered_sent (now : Nat) (session : Session) (client : Client) (key : FolderKey) :
    (session.sent now client).tracker.libraries.delivered key =
      if key ∈ session.enabledKeys client ∧ (session.tracker.libraries.due? key).isSome then
        session.tracker.libraries.offered key
      else session.tracker.libraries.delivered key := by
  have hoffer : ∀ entry ∈ (session.made client).dueUpdates client (session.enabled client),
      entry.2 = session.tracker.libraries.offered entry.1 := by
    intro entry hentry
    rw [dueUpdates_made] at hentry
    obtain ⟨k, -, rfl⟩ := List.mem_map.1 hentry
    rfl
  have hkeys : key ∈ ((session.made client).dueUpdates client (session.enabled client)).map Prod.fst ↔
      key ∈ session.enabledKeys client ∧ (session.tracker.libraries.due? key).isSome := by
    rw [dueUpdates_made, List.map_map]
    simp
  have hdelivered := Libraries.delivered_foldl_markDelivered _ hoffer
    (session.made client).tracker.libraries key
  rw [delivered_made] at hdelivered
  refine hdelivered.trans ?_
  simp only [hkeys]

theorem picture_reconcileClient (now : Nat) (session : Session) (client : Client) :
    (session.reconcileClient now client).1.picture = session.picture := by
  rw [reconcileClient_eq]
  split
  · split
    · exact picture_sent now session client
    · exact picture_made session client
  · exact picture_made session client

theorem timer_reconcileClient (now : Nat) (session : Session) (client : Client) :
    (session.reconcileClient now client).1.tracker.timer = session.tracker.timer := by
  rw [reconcileClient_eq]
  split
  · split <;> rfl
  · rfl

theorem passes_reconcileClient (now : Nat) (session : Session) (client : Client) :
    (session.reconcileClient now client).1.tracker.passes = session.tracker.passes := by
  rw [reconcileClient_eq]
  split
  · split <;> rfl
  · rfl

/-- A client is pushed its parcel iff something is due for it. -/
theorem clients_reconcileClient (now : Nat) (session : Session) (client : Client) :
    (session.reconcileClient now client).1.env.clients =
      if session.wants client then
        (session.env.clients.push now client.id (session.parcel client)).1
      else session.env.clients := by
  rw [reconcileClient_eq]
  split
  · split <;> rfl
  · rfl

theorem connected_reconcileClient (now : Nat) (session : Session) (client : Client) :
    (session.reconcileClient now client).1.env.clients.connected = session.env.clients.connected := by
  rw [clients_reconcileClient]
  split
  · exact Clients.connected_push
  · rfl

theorem refuses_reconcileClient (now : Nat) (session : Session) (client : Client) :
    (session.reconcileClient now client).1.env.clients.refuses = session.env.clients.refuses := by
  rw [clients_reconcileClient]
  split
  · exact Clients.refuses_push
  · rfl

theorem snd_reconcileClient (now : Nat) (session : Session) (client : Client) :
    (session.reconcileClient now client).2 =
      (session.wants client && session.env.clients.accepts client.id) := by
  rw [reconcileClient_eq]
  cases session.wants client with
  | false => rfl
  | true => cases session.env.clients.accepts client.id <;> rfl

/-- The part of a pass that concerns one client sends nothing to another. -/
theorem sentTo_reconcileClient_of_ne (now : Nat) (session : Session) {id : Nat} (hid : client.id ≠ id) :
    (session.reconcileClient now client).1.env.clients.sentTo id = session.env.clients.sentTo id := by
  rw [clients_reconcileClient]
  split
  · exact Clients.sentTo_push_of_ne hid
  · rfl

/-- A client is sent its parcel or nothing. -/
theorem sentTo_reconcileClient (now : Nat) (session : Session) (client : Client) :
    (session.reconcileClient now client).1.env.clients.sentTo client.id =
      if (session.reconcileClient now client).2 then
        session.env.clients.sentTo client.id ++ [session.parcel client]
      else session.env.clients.sentTo client.id := by
  rw [snd_reconcileClient, clients_reconcileClient]
  cases session.wants client with
  | false => simp
  | true =>
    cases haccepts : session.env.clients.accepts client.id with
    | true => simp [Clients.sentTo_push haccepts]
    | false => simp [Clients.sentTo, Clients.deliveries_push_of_not_accepts haccepts]

/-- What counts as delivered changes only with a parcel that was received, and for the folders whose update
was due. -/
theorem delivered_reconcileClient (now : Nat) (session : Session) (client : Client) (key : FolderKey) :
    (session.reconcileClient now client).1.tracker.libraries.delivered key =
      if (session.reconcileClient now client).2 = true ∧ key ∈ session.enabledKeys client ∧
          (session.tracker.libraries.due? key).isSome then
        session.tracker.libraries.offered key
      else session.tracker.libraries.delivered key := by
  rw [snd_reconcileClient, reconcileClient_eq]
  cases session.wants client with
  | false => simpa using delivered_made session client key
  | true =>
    cases session.env.clients.accepts client.id with
    | false => exact (delivered_made session client key).trans (if_neg (by simp)).symm
    | true => simpa using delivered_sent now session client key

/-- No part of a pass makes anything due. -/
theorem due?_reconcileClient_of_none (h : session.tracker.libraries.due? key = none) :
    (session.reconcileClient now client).1.tracker.libraries.due? key = none := by
  have hdelivered := delivered_reconcileClient now session client key
  rw [if_neg (by simp [h])] at hdelivered
  rw [due?_congr (picture_reconcileClient now session client) hdelivered, h]

/-- After its part of a pass nothing is due for a client whose push did not fail. -/
theorem due?_reconcileClient_of_mem
    (h : session.wants client = true → session.env.clients.accepts client.id = true)
    (hkey : key ∈ session.enabledKeys client) :
    (session.reconcileClient now client).1.tracker.libraries.due? key = none := by
  cases hdue : session.tracker.libraries.due? key with
  | none => exact due?_reconcileClient_of_none hdue
  | some paths =>
    have hwants : session.wants client = true := wants_iff.2 ⟨key, hkey, paths, hdue⟩
    have hdelivered := delivered_reconcileClient now session client key
    have hoffered := offered_congr (picture_reconcileClient now session client) key
    rw [snd_reconcileClient, hwants, h hwants, hdue] at hdelivered
    simp only [Bool.and_self, Option.isSome_some, and_true, hkey, if_true] at hdelivered
    rw [Libraries.due?_eq_none_iff, hdelivered, hoffered]
    exact sameList_refl _

/-! ## A whole pass -/

/-- The session after one client's part of a pass. -/
def visit (now : Nat) (session : Session) (client : Client) : Session :=
  (session.reconcileClient now client).1

theorem picture_visit (now : Nat) (session : Session) (client : Client) :
    (session.visit now client).picture = session.picture :=
  picture_reconcileClient now session client

theorem connected_visit (now : Nat) (session : Session) (client : Client) :
    (session.visit now client).env.clients.connected = session.env.clients.connected :=
  connected_reconcileClient now session client

/-- A visit puts the client's parcel behind the record if it is received. -/
theorem deliveries_visit (now : Nat) (session : Session) (client : Client) :
    (session.visit now client).env.clients.deliveries =
      session.env.clients.deliveries ++
        if (session.reconcileClient now client).2 then [⟨client.id, session.parcel client, now⟩]
        else [] := by
  have hclients : (session.visit now client).env.clients = _ := clients_reconcileClient now session client
  rw [hclients, snd_reconcileClient]
  cases session.wants client with
  | false => exact (List.append_nil _).symm
  | true =>
    rw [if_pos rfl, Clients.deliveries_push, Bool.true_and]
    split
    · rfl
    · rw [List.append_nil]

/-- A pass visits the clients with the configured name, one after the other. -/
theorem reconcile_fst (now : Nat) (session : Session) :
    (session.reconcile now).1 =
      (session.env.clients.named session.tracker.config.clientName).foldl (visit now)
        session.beginPass := by
  have hfold : ∀ (clients : List Client) (s : Session) (count : Nat),
      (clients.foldl (reconcileNext now) (s, count)).1 = clients.foldl (visit now) s := by
    intro clients
    induction clients with
    | nil => intro s count; rfl
    | cons client clients ih => intro s count; exact ih _ _
  have hbegin : session.beginPass.env = session.env ∧
      session.beginPass.tracker.config = session.tracker.config := by
    unfold beginPass noteConflicts
    simp only
    split <;> exact ⟨rfl, rfl⟩
  unfold reconcile
  simp only
  rw [hfold, hbegin.1, hbegin.2]

theorem picture_beginPass (session : Session) : session.beginPass.picture = session.picture := by
  unfold beginPass noteConflicts
  simp only
  split <;> rfl

theorem clients_beginPass (session : Session) : session.beginPass.env.clients = session.env.clients := by
  unfold beginPass noteConflicts
  simp only
  split <;> rfl

theorem libraries_beginPass (session : Session) :
    session.beginPass.tracker.libraries = session.tracker.libraries := by
  unfold beginPass noteConflicts
  simp only
  split <;> rfl

theorem timer_beginPass (session : Session) :
    session.beginPass.tracker.timer = session.tracker.timer.disarm := by
  unfold beginPass noteConflicts
  simp only
  split <;> rfl

theorem passes_beginPass (session : Session) :
    session.beginPass.tracker.passes = session.tracker.passes + 1 := by
  unfold beginPass noteConflicts
  simp only
  split <;> rfl

theorem picture_foldl_visit (now : Nat) (clients : List Client) (session : Session) :
    (clients.foldl (visit now) session).picture = session.picture := by
  induction clients generalizing session with
  | nil => rfl
  | cons client clients ih => rw [List.foldl_cons, ih, picture_visit]

theorem timer_foldl_visit (now : Nat) (clients : List Client) (session : Session) :
    (clients.foldl (visit now) session).tracker.timer = session.tracker.timer := by
  induction clients generalizing session with
  | nil => rfl
  | cons client clients ih => rw [List.foldl_cons, ih]; exact timer_reconcileClient now session client

theorem passes_foldl_visit (now : Nat) (clients : List Client) (session : Session) :
    (clients.foldl (visit now) session).tracker.passes = session.tracker.passes := by
  induction clients generalizing session with
  | nil => rfl
  | cons client clients ih => rw [List.foldl_cons, ih]; exact passes_reconcileClient now session client

theorem connected_foldl_visit (now : Nat) (clients : List Client) (session : Session) :
    (clients.foldl (visit now) session).env.clients.connected = session.env.clients.connected := by
  induction clients generalizing session with
  | nil => rfl
  | cons client clients ih => rw [List.foldl_cons, ih, connected_visit]

theorem refuses_foldl_visit (now : Nat) (clients : List Client) (session : Session) :
    (clients.foldl (visit now) session).env.clients.refuses = session.env.clients.refuses := by
  induction clients generalizing session with
  | nil => rfl
  | cons client clients ih => rw [List.foldl_cons, ih]; exact refuses_reconcileClient now session client

theorem due?_foldl_visit_of_none (clients : List Client) (session : Session)
    (h : session.tracker.libraries.due? key = none) :
    (clients.foldl (visit now) session).tracker.libraries.due? key = none := by
  induction clients generalizing session with
  | nil => exact h
  | cons client clients ih => exact ih _ (due?_reconcileClient_of_none h)

/-- **A pass leaves the picture alone.** -/
theorem picture_reconcile (now : Nat) (session : Session) :
    (session.reconcile now).1.picture = session.picture := by
  rw [reconcile_fst, picture_foldl_visit, picture_beginPass]

/-- **A pass ends the quiet window**, whatever becomes of its pushes. -/
theorem timer_reconcile (now : Nat) (session : Session) :
    (session.reconcile now).1.tracker.timer = session.tracker.timer.disarm := by
  rw [reconcile_fst, timer_foldl_visit, timer_beginPass]

/-- A pass is counted. -/
theorem passes_reconcile (now : Nat) (session : Session) :
    (session.reconcile now).1.tracker.passes = session.tracker.passes + 1 := by
  rw [reconcile_fst, passes_foldl_visit, passes_beginPass]

theorem connected_reconcile (now : Nat) (session : Session) :
    (session.reconcile now).1.env.clients.connected = session.env.clients.connected := by
  rw [reconcile_fst, connected_foldl_visit, clients_beginPass]

theorem refuses_reconcile (now : Nat) (session : Session) :
    (session.reconcile now).1.env.clients.refuses = session.env.clients.refuses := by
  rw [reconcile_fst, refuses_foldl_visit, clients_beginPass]

end Session

end LibraryPaths

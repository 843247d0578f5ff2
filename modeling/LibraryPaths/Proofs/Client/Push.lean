import LibraryPaths.Client.Clients
import LibraryPaths.Library.Folders

/-!
# Pushes

A push counts, and is recorded if the connection accepts it (`Clients.accepts`); it changes neither who is
connected nor which attempts are refused.  What a client was sent (`Clients.sentTo`) is changed only by an
accepted push to that client, which then is the last.

For a folder a client has the list that the last update with a folder of that name carried
(`Clients.carried`).  An accepted push renews the lists of the folders it has and leaves all others
(`carried_push`).
-/

set_option autoImplicit false

namespace LibraryPaths.Clients

variable {clients : Clients} {now client id : Nat} {update : Update}

/-- Whether a push to a client would be recorded. -/
def accepts (clients : Clients) (client : Nat) : Bool :=
  !clients.refuses clients.attempts && clients.connected.any (·.id == client)

/-- The clients after a push. -/
theorem push_fst (clients : Clients) (now client : Nat) (update : Update) :
    (clients.push now client update).1 =
      { clients with
        attempts := clients.attempts + 1
        deliveries :=
          if clients.accepts client then clients.deliveries ++ [⟨client, update, now⟩]
          else clients.deliveries } := by
  unfold push accepts
  cases clients.refuses clients.attempts with
  | true => rfl
  | false =>
    cases clients.connected.any (·.id == client) with
    | true => rfl
    | false => rfl

/-- A push is answered with success iff it is recorded. -/
theorem isOk_push (clients : Clients) (now client : Nat) (update : Update) :
    (clients.push now client update).2.isOk = clients.accepts client := by
  unfold push accepts
  cases clients.refuses clients.attempts with
  | true => rfl
  | false =>
    cases clients.connected.any (·.id == client) with
    | true => rfl
    | false => rfl

@[simp] theorem connected_push : (clients.push now client update).1.connected = clients.connected := by
  rw [push_fst]

@[simp] theorem refuses_push : (clients.push now client update).1.refuses = clients.refuses := by
  rw [push_fst]

/-- The record grows by a push that is accepted. -/
theorem deliveries_push :
    (clients.push now client update).1.deliveries =
      if clients.accepts client then clients.deliveries ++ [⟨client, update, now⟩]
      else clients.deliveries := by
  rw [push_fst]

/-- A connection that refuses nothing accepts every push to a connected client. -/
theorem accepts_of_mem {c : Client} (hrefuses : ∀ k, clients.refuses k = false)
    (hmem : c ∈ clients.connected) : clients.accepts c.id = true := by
  unfold accepts
  rw [hrefuses]
  exact List.any_eq_true.2 ⟨c, hmem, beq_self_eq_true c.id⟩

/-- What a client was sent, oldest first. -/
def sentTo (clients : Clients) (client : Nat) : List Update :=
  (clients.deliveries.filter (·.client == client)).map (·.update)

/-- An accepted push is the latest to its client. -/
theorem sentTo_push (h : clients.accepts client = true) :
    (clients.push now client update).1.sentTo id =
      if client = id then clients.sentTo id ++ [update] else clients.sentTo id := by
  unfold sentTo
  rw [deliveries_push, if_pos h, List.filter_append, List.map_append]
  by_cases hid : client = id
  · simp [hid]
  · have hne : (client == id) = false := by simpa using hid
    simp [hid, hne]

theorem deliveries_push_of_not_accepts (h : clients.accepts client = false) :
    (clients.push now client update).1.deliveries = clients.deliveries := by
  rw [deliveries_push, if_neg (by simp [h])]

/-- A push to one client sends nothing to another. -/
theorem sentTo_push_of_ne (h : client ≠ id) :
    (clients.push now client update).1.sentTo id = clients.sentTo id := by
  cases haccepts : clients.accepts client with
  | true => rw [sentTo_push haccepts, if_neg h]
  | false =>
    unfold sentTo
    rw [deliveries_push_of_not_accepts haccepts]

theorem last?_eq_getLast? (clients : Clients) (client : Nat) :
    clients.last? client = (clients.sentTo client).getLast? := by
  unfold last? sentTo
  rw [← List.head?_filter, List.filter_reverse, List.head?_reverse, List.getLast?_map]

/-! ## What a client has for a folder -/

/-- The list that the last update to a folder's client with a folder of that name carried for it; empty if
there was none. -/
def carried (clients : Clients) (key : FolderKey) : List Path :=
  ((clients.sentTo key.client).reverse.findSome? (·.library? key.folder)).getD []

theorem carried_congr {other : Clients} (h : other.deliveries = clients.deliveries) (key : FolderKey) :
    other.carried key = clients.carried key := by
  unfold carried sentTo
  rw [h]

theorem sentTo_of_no_deliveries (h : clients.deliveries = []) (id : Nat) : clients.sentTo id = [] := by
  unfold sentTo
  rw [h]
  rfl

theorem carried_of_sentTo_nil {key : FolderKey} (h : clients.sentTo key.client = []) :
    clients.carried key = [] := by
  unfold carried
  rw [h]
  rfl

/-- A folder that is in the last update has the list that it carried. -/
theorem carried_of_sentTo {key : FolderKey} {earlier : List Update} {library : List Path}
    (h : clients.sentTo key.client = earlier ++ [update])
    (hlisted : update.library? key.folder = some library) : clients.carried key = library := by
  unfold carried
  rw [h, List.reverse_append, List.reverse_singleton, List.singleton_append, List.findSome?_cons, hlisted]
  rfl

/-- An accepted push renews the lists of the folders it has. -/
theorem carried_push (h : clients.accepts client = true) (key : FolderKey) :
    (clients.push now client update).1.carried key =
      if client = key.client then (update.library? key.folder).getD (clients.carried key)
      else clients.carried key := by
  unfold carried
  rw [sentTo_push h]
  split
  · rw [List.reverse_append, List.reverse_singleton, List.singleton_append, List.findSome?_cons]
    cases update.library? key.folder <;> rfl
  · rfl

/-- Pushes made one after the other. -/
def pushAll (now : Nat) (clients : Clients) (pushes : List (Client × Update)) : Clients :=
  pushes.foldl (fun clients (client, update) => (clients.push now client.id update).1) clients

end LibraryPaths.Clients

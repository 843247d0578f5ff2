import LibraryPaths.Client.Error
import LibraryPaths.Client.Settings

/-!
# Language server clients

The connected clients and the record of what each of them was sent.  A push to a client that is not
connected fails, and the connection may refuse any push; only what was delivered is recorded.
-/

set_option autoImplicit false

namespace LibraryPaths

/-- A connected client.  Without folders it works on single files. -/
structure Client where
  id : Nat
  name : String
  folders : Option (List Folder)
  deriving DecidableEq, Repr, Inhabited

/-- Something a client was sent. -/
structure Delivery where
  client : Nat
  update : Update
  /-- When it was sent, in milliseconds. -/
  time : Nat
  deriving DecidableEq, Repr

/-- The connected clients and the record of deliveries. -/
structure Clients where
  connected : List Client
  /-- What was delivered, oldest first. -/
  deliveries : List Delivery
  /-- How often a push was tried. -/
  attempts : Nat
  /-- Which attempts, counted from zero, the connection refuses. -/
  refuses : Nat → Bool

namespace Clients

/-- Connected clients that have not been sent anything; no push will be refused. -/
def ofList (clients : List Client) : Clients := ⟨clients, [], 0, fun _ => false⟩

/-- The clients with a name. -/
def named (clients : Clients) (name : String) : List Client :=
  clients.connected.filter (·.name == name)

/-- Sends a client an update. -/
def push (clients : Clients) (now client : Nat) (update : Update) :
    Clients × Except EditorError Unit :=
  let counted := { clients with attempts := clients.attempts + 1 }
  if clients.refuses clients.attempts then (counted, .error (.pushFailed client))
  else if clients.connected.any (·.id == client) then
    ({ counted with deliveries := clients.deliveries ++ [⟨client, update, now⟩] }, .ok ())
  else (counted, .error (.clientGone client))

/-- What a client was sent last. -/
def last? (clients : Clients) (client : Nat) : Option Update :=
  (clients.deliveries.reverse.find? (·.client == client)).map (·.update)

/-- The clients behind a connection that refuses the next pushes. -/
def refuseNext (clients : Clients) (count : Nat) : Clients :=
  { clients with
    refuses := fun k => decide (clients.attempts ≤ k ∧ k < clients.attempts + count) }

end Clients

end LibraryPaths

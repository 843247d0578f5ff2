/-!
# Requests an editor refuses

An editor answers about buffers and passes settings on to clients; each way in which it can refuse has its
own constructor, and `EditorError.message` gives the wording.
-/

set_option autoImplicit false

namespace LibraryPaths

/-- Why a subscription was refused. -/
inductive SubscribeFault where
  /-- The buffer is not open. -/
  | notLoaded
  /-- The editor did not want to. -/
  | refused
  deriving DecidableEq, Repr

/-- A refused request. -/
inductive EditorError where
  | bufferNotFound (buffer : Nat)
  | subscribeFailed (buffer : Nat) (fault : SubscribeFault)
  | clientGone (client : Nat)
  | pushFailed (client : Nat)
  deriving DecidableEq, Repr

/-- The wording of a fault. -/
def SubscribeFault.message : SubscribeFault → String
  | .notLoaded => "buffer is not loaded"
  | .refused => "host refused"

/-- The wording of a refusal. -/
def EditorError.message : EditorError → String
  | .bufferNotFound buffer => "Buffer not found: " ++ toString buffer
  | .subscribeFailed buffer fault =>
    "Failed to subscribe to buffer " ++ toString buffer ++ ": " ++ fault.message
  | .clientGone client => "Client " ++ toString client ++ " is no longer connected"
  | .pushFailed client =>
    "Failed to push configuration to client " ++ toString client ++ ": transport closed"

end LibraryPaths

/-!
# The quiet timer

A timer with one deadline.  Arming it again moves the deadline, so a run of changes that follow each other
within the window is answered once.  Times are milliseconds.
-/

set_option autoImplicit false

namespace LibraryPaths

/-- The length of the quiet window and the deadline, if the timer is armed. -/
structure QuietTimer where
  window : Nat
  deadline : Option Nat
  deriving DecidableEq, Repr

namespace QuietTimer

/-- A timer that is not armed. -/
def ofWindow (window : Nat) : QuietTimer := ⟨window, none⟩

/-- Sets the deadline one window from now. -/
def arm (timer : QuietTimer) (now : Nat) : QuietTimer :=
  { timer with deadline := some (now + timer.window) }

/-- Forgets the deadline. -/
def disarm (timer : QuietTimer) : QuietTimer :=
  { timer with deadline := none }

/-- Whether there is a deadline. -/
def isArmed (timer : QuietTimer) : Bool := timer.deadline.isSome

/-- Whether the deadline has been reached. -/
def isDue (timer : QuietTimer) (now : Nat) : Bool := timer.deadline.any (· ≤ now)

end QuietTimer

end LibraryPaths

import LibraryPaths.Session.Event

/-!
# The event loop

Events wait in a queue and are handled one at a time.  When the quiet timer's deadline has passed, a
reconcile pass runs.  If an event waits while the deadline has passed, either may come first; that choice
and the passing of time are left open by `Loop.Action`, and `Loop.run?` follows any sequence of permitted
actions.

`settle`, `sleep` and `finish` are the schedule of a loop that takes its turn at once and takes waiting
events before an expired deadline.
-/

set_option autoImplicit false

namespace LibraryPaths

/-- A session, the events that wait for it, and the time in milliseconds. -/
structure Loop where
  session : Session
  queue : List Event
  now : Nat

namespace Loop

/-- A loop at time zero without events. -/
def ofSession (session : Session) : Loop := ⟨session, [], 0⟩

/-- Puts an event behind the waiting ones. -/
def send (loop : Loop) (event : Event) : Loop :=
  { loop with queue := loop.queue ++ [event] }

/-- Lets the outside world change the environment. -/
def edit (loop : Loop) (change : Environment → Environment) : Loop :=
  { loop with session := { loop.session with env := change loop.session.env } }

/-- A reconcile pass at the present time. -/
def pass (loop : Loop) : Loop :=
  { loop with session := (loop.session.reconcile loop.now).1 }

/-- Something that may happen to a loop. -/
inductive Action where
  /-- An event is sent. -/
  | send (event : Event)
  /-- The outside world changes the environment. -/
  | edit (change : Environment → Environment)
  /-- Time passes. -/
  | wait (milliseconds : Nat)
  /-- The first waiting event is handled. -/
  | receive
  /-- The passed deadline is answered by a reconcile pass. -/
  | expire

/-- The loop after an action, if the action is permitted. -/
def act? (loop : Loop) : Action → Option Loop
  | .send event => some (loop.send event)
  | .edit change => some (loop.edit change)
  | .wait milliseconds => some { loop with now := loop.now + milliseconds }
  | .receive =>
    match loop.queue with
    | [] => none
    | event :: queue =>
      some { loop with session := loop.session.handle loop.now event, queue }
  | .expire => if loop.session.tracker.timer.isDue loop.now then some loop.pass else none

/-- The loop after a sequence of actions, if all are permitted. -/
def run? (loop : Loop) : List Action → Option Loop
  | [] => some loop
  | action :: actions => (loop.act? action).bind fun next => next.run? actions

/-- Handles the waiting events in order. -/
def drain (loop : Loop) : Loop :=
  { loop with
    session := loop.queue.foldl (fun session event => session.handle loop.now event) loop.session
    queue := [] }

/-- Runs the reconcile pass of a passed deadline. -/
def expire (loop : Loop) : Loop :=
  if loop.session.tracker.timer.isDue loop.now then loop.pass else loop

/-- Gives the loop its turn: waiting events first, then a passed deadline. -/
def settle (loop : Loop) : Loop :=
  loop.drain.expire

/-- Lets time pass.  A deadline in the interval is answered at its own time; a pass sets no new one. -/
def sleep (loop : Loop) (milliseconds : Nat) : Loop :=
  let wake := loop.now + milliseconds
  match loop.session.tracker.timer.deadline with
  | some deadline =>
    if deadline ≤ wake then { ({ loop with now := max loop.now deadline }).pass with now := wake }
    else { loop with now := wake }
  | none => { loop with now := wake }

/-- Ends the loop after the last event: what is still pending is reconciled at once. -/
def finish (loop : Loop) : Loop :=
  let drained := loop.drain
  if drained.session.tracker.timer.isArmed then drained.pass else drained

end Loop

end LibraryPaths

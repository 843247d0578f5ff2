import LibraryPaths.Proofs.Session.Runs
import LibraryPaths.Session.Loop

/-!
# What an event loop does to its session

A loop that follows permitted actions does to its session what its trace says (`Loop.trace`), and ending it
what remains (`Loop.closing`): every run of a loop is a run of its session.

* `session_run?`, `session_finish`: the session after the trace is the session of the loop;
* `events_run?`: events are handled in the order in which they were sent, each once;
* `punctual_trace`: a pass runs only when the deadline has been reached.
-/

set_option autoImplicit false

namespace LibraryPaths

namespace Session

variable {session : Session} {acts rest : List Act}

/-- The event that is handled, if one is. -/
def Act.event? : Act → Option Event
  | .event _ e => some e
  | _ => none

/-- Whether the outside world changes the environment. -/
def Act.isEdit : Act → Bool
  | .edit _ => true
  | _ => false

/-- The events handled in a run. -/
def eventsOf (acts : List Act) : List Event := acts.filterMap Act.event?

/-- Every pass runs while the timer is armed. -/
def Timely (session : Session) : List Act → Prop
  | [] => True
  | a :: acts =>
    (a.isPass = true → session.tracker.timer.isArmed = true) ∧ Timely (session.act a) acts

/-- Every pass runs when the deadline has been reached. -/
def Punctual (session : Session) : List Act → Prop
  | [] => True
  | a :: acts =>
    (∀ now, a = .pass now → session.tracker.timer.isDue now = true) ∧ Punctual (session.act a) acts

theorem eventsOf_append (acts rest : List Act) :
    eventsOf (acts ++ rest) = eventsOf acts ++ eventsOf rest :=
  List.filterMap_append

theorem eventsOf_map (now : Nat) (events : List Event) :
    eventsOf (events.map (.event now)) = events := by
  induction events with
  | nil => rfl
  | cons event events ih => exact congrArg (event :: ·) ih

theorem timely_append : Timely session (acts ++ rest) ↔
    Timely session acts ∧ Timely (session.run acts) rest := by
  induction acts generalizing session with
  | nil => exact ⟨fun h => ⟨trivial, h⟩, And.right⟩
  | cons a acts ih =>
    rw [List.cons_append, Timely, Timely, ih, run_cons, and_assoc]

theorem punctual_append : Punctual session (acts ++ rest) ↔
    Punctual session acts ∧ Punctual (session.run acts) rest := by
  induction acts generalizing session with
  | nil => exact ⟨fun h => ⟨trivial, h⟩, And.right⟩
  | cons a acts ih =>
    rw [List.cons_append, Punctual, Punctual, ih, run_cons, and_assoc]

/-- A deadline that has been reached is one. -/
theorem isArmed_of_isDue {timer : QuietTimer} {now : Nat} (h : timer.isDue now = true) :
    timer.isArmed = true := by
  unfold QuietTimer.isDue at h
  unfold QuietTimer.isArmed
  cases hdeadline : timer.deadline with
  | none => simp [hdeadline] at h
  | some deadline => rfl

theorem Punctual.timely (h : Punctual session acts) : Timely session acts := by
  induction acts generalizing session with
  | nil => trivial
  | cons a acts ih =>
    refine ⟨?_, ih h.2⟩
    intro hpass
    cases a with
    | pass now => exact isArmed_of_isDue (h.1 now rfl)
    | event now event => cases hpass
    | edit change => cases hpass

/-- Runs without passes are timely. -/
theorem timely_of_isPass (hacts : ∀ a ∈ acts, a.isPass = false) : Timely session acts := by
  induction acts generalizing session with
  | nil => trivial
  | cons a acts ih =>
    refine ⟨?_, ih fun b hb => hacts b (List.mem_cons_of_mem _ hb)⟩
    intro h
    rw [hacts a List.mem_cons_self] at h
    cases h

end Session

namespace Loop

open Session (Act eventsOf Timely Punctual)

variable {loop next last : Loop} {action : Action} {actions : List Action}

/-- What an action does to the session, if anything. -/
def actOf? (loop : Loop) : Action → Option Act
  | .send _ => none
  | .edit change => some (.edit change)
  | .wait _ => none
  | .receive => loop.queue.head?.map (.event loop.now)
  | .expire => some (.pass loop.now)

/-- What permitted actions do to the session. -/
def trace (loop : Loop) : List Action → List Act
  | [] => []
  | action :: actions =>
    match loop.act? action with
    | some next => (loop.actOf? action).toList ++ next.trace actions
    | none => []

/-- What the end of a loop does to the session. -/
def closing (loop : Loop) : List Act :=
  loop.queue.map (.event loop.now) ++
    if loop.drain.session.tracker.timer.isArmed then [.pass loop.now] else []

/-- The event an action sends, if it sends one. -/
def Action.sent? : Action → Option Event
  | .send event => some event
  | _ => none

/-- Whether an action is a change by the outside world. -/
def Action.isEdit : Action → Bool
  | .edit _ => true
  | _ => false

/-- The events sent in a run. -/
def sent (actions : List Action) : List Event := actions.filterMap Action.sent?

/-! ## One action -/

theorem session_act? (h : loop.act? action = some next) :
    next.session = loop.session.run (loop.actOf? action).toList := by
  cases action with
  | send event => cases h; rfl
  | edit change => cases h; rfl
  | wait milliseconds => cases h; rfl
  | receive =>
    unfold act? at h
    unfold actOf?
    cases hqueue : loop.queue with
    | nil => simp [hqueue] at h
    | cons event queue =>
      obtain rfl : { loop with session := loop.session.handle loop.now event, queue } = next := by
        simpa [hqueue] using h
      rfl
  | expire =>
    simp only [act?] at h
    split at h
    · cases h; rfl
    · cases h

/-- The queue passes events on in the order in which they were sent. -/
theorem events_act? (h : loop.act? action = some next) :
    eventsOf (loop.actOf? action).toList ++ next.queue = loop.queue ++ action.sent?.toList := by
  cases action with
  | send event => cases h; rfl
  | edit change => cases h; exact (List.append_nil _).symm
  | wait milliseconds => cases h; exact (List.append_nil _).symm
  | receive =>
    unfold act? at h
    unfold actOf?
    cases hqueue : loop.queue with
    | nil => simp [hqueue] at h
    | cons event queue =>
      obtain rfl : { loop with session := loop.session.handle loop.now event, queue } = next := by
        simpa [hqueue] using h
      exact (List.append_nil _).symm
  | expire =>
    simp only [act?] at h
    split at h
    · cases h; exact (List.append_nil _).symm
    · cases h

/-- A pass runs only if the deadline has been reached. -/
theorem punctual_act? (h : loop.act? action = some next) :
    Punctual loop.session (loop.actOf? action).toList := by
  cases action with
  | expire =>
    simp only [act?] at h
    split at h
    · rename_i hdue
      refine ⟨?_, trivial⟩
      intro now hnow
      cases hnow
      exact hdue
    · cases h
  | receive =>
    unfold actOf?
    cases loop.queue with
    | nil => trivial
    | cons event queue => exact ⟨fun now hnow => (by cases hnow), trivial⟩
  | send event => trivial
  | edit change => exact ⟨fun now hnow => (by cases hnow), trivial⟩
  | wait milliseconds => trivial

theorem isEdit_act? (haction : action.isEdit = false) : ∀ a ∈ (loop.actOf? action).toList,
    a.isEdit = false := by
  intro a ha
  cases action with
  | edit change => cases haction
  | receive =>
    unfold actOf? at ha
    cases hqueue : loop.queue with
    | nil => simp [hqueue] at ha
    | cons event queue =>
      obtain rfl : a = .event loop.now event := by simpa [hqueue] using ha
      rfl
  | expire =>
    obtain rfl : a = .pass loop.now := by simpa [actOf?] using ha
    rfl
  | send event => cases ha
  | wait milliseconds => cases ha

/-! ## Runs of a loop -/

theorem trace_cons (h : loop.act? action = some next) :
    loop.trace (action :: actions) = (loop.actOf? action).toList ++ next.trace actions := by
  rw [trace, h]

/-- **A run of a loop is a run of its session.** -/
theorem session_run? (h : loop.run? actions = some last) :
    last.session = loop.session.run (loop.trace actions) := by
  induction actions generalizing loop with
  | nil => cases h; rfl
  | cons action actions ih =>
    obtain ⟨next, hnext, hrest⟩ := Option.bind_eq_some_iff.1 h
    rw [trace_cons hnext, Session.run_append, ← session_act? hnext]
    exact ih hrest

/-- **Events are handled in the order in which they were sent, each once.** -/
theorem events_run? (h : loop.run? actions = some last) :
    eventsOf (loop.trace actions) ++ last.queue = loop.queue ++ sent actions := by
  induction actions generalizing loop with
  | nil => cases h; exact (List.append_nil _).symm
  | cons action actions ih =>
    obtain ⟨next, hnext, hrest⟩ := Option.bind_eq_some_iff.1 h
    have hsent : sent (action :: actions) = action.sent?.toList ++ sent actions := by
      unfold sent
      rw [List.filterMap_cons]
      cases action.sent? <;> rfl
    rw [trace_cons hnext, Session.eventsOf_append, List.append_assoc, ih hrest, ← List.append_assoc,
      events_act? hnext, hsent, List.append_assoc]

/-- **A pass runs only when the deadline has been reached.** -/
theorem punctual_trace (loop : Loop) (actions : List Action) :
    Punctual loop.session (loop.trace actions) := by
  induction actions generalizing loop with
  | nil => trivial
  | cons action actions ih =>
    unfold trace
    split
    · rename_i next hnext
      refine Session.punctual_append.2 ⟨punctual_act? hnext, ?_⟩
      rw [← session_act? hnext]
      exact ih next
    · trivial

/-- A pass runs only while the timer is armed. -/
theorem timely_trace (loop : Loop) (actions : List Action) :
    Timely loop.session (loop.trace actions) :=
  (punctual_trace loop actions).timely

theorem isEdit_trace (hactions : ∀ action ∈ actions, action.isEdit = false) :
    ∀ a ∈ loop.trace actions, a.isEdit = false := by
  induction actions generalizing loop with
  | nil => intro a ha; cases ha
  | cons action actions ih =>
    unfold trace
    split
    · intro a ha
      rcases List.mem_append.1 ha with h | h
      · exact isEdit_act? (hactions action List.mem_cons_self) a h
      · exact ih (fun b hb => hactions b (List.mem_cons_of_mem _ hb)) a h
    · intro a ha; cases ha

/-! ## The end of a loop -/

theorem session_drain (loop : Loop) :
    loop.drain.session = loop.session.run (loop.queue.map (.event loop.now)) := by
  unfold drain Session.run
  rw [List.foldl_map]
  rfl

theorem session_finish (loop : Loop) : loop.finish.session = loop.session.run loop.closing := by
  unfold finish closing
  rw [Session.run_append, ← session_drain]
  simp only
  split <;> rfl

theorem events_closing (loop : Loop) : eventsOf loop.closing = loop.queue := by
  unfold closing
  rw [Session.eventsOf_append, Session.eventsOf_map]
  split <;> exact List.append_nil _

theorem timely_closing (loop : Loop) : Timely loop.session loop.closing := by
  refine Session.timely_append.2 ⟨Session.timely_of_isPass ?_, ?_⟩
  · intro a ha
    obtain ⟨event, -, rfl⟩ := List.mem_map.1 ha
    rfl
  · rw [← session_drain]
    split
    · rename_i harmed
      exact ⟨fun _ => harmed, trivial⟩
    · trivial

theorem isEdit_closing (loop : Loop) : ∀ a ∈ loop.closing, a.isEdit = false := by
  intro a ha
  rcases List.mem_append.1 ha with h | h
  · obtain ⟨event, -, rfl⟩ := List.mem_map.1 h
    rfl
  · split at h
    · rw [List.mem_singleton.1 h]
      rfl
    · cases h

/-- What a whole run of a loop does to its session, its end included. -/
def acts (loop : Loop) (actions : List Action) (last : Loop) : List Act :=
  loop.trace actions ++ last.closing

theorem session_acts (h : loop.run? actions = some last) :
    last.finish.session = loop.session.run (loop.acts actions last) := by
  unfold acts
  rw [session_finish, session_run? h, Session.run_append]

theorem events_acts (h : loop.run? actions = some last) :
    eventsOf (loop.acts actions last) = loop.queue ++ sent actions := by
  unfold acts
  rw [Session.eventsOf_append, events_closing, events_run? h]

theorem timely_acts (h : loop.run? actions = some last) :
    Timely loop.session (loop.acts actions last) := by
  refine Session.timely_append.2 ⟨timely_trace loop actions, ?_⟩
  rw [← session_run? h]
  exact timely_closing last

theorem isEdit_acts (loop last : Loop) (hactions : ∀ action ∈ actions, action.isEdit = false) :
    ∀ a ∈ loop.acts actions last, a.isEdit = false := by
  intro a ha
  rcases List.mem_append.1 ha with h | h
  · exact isEdit_trace hactions a h
  · exact isEdit_closing last a h

/-- A loop ends with the timer disarmed. -/
theorem isArmed_finish (loop : Loop) : loop.finish.session.tracker.timer.isArmed = false := by
  unfold finish
  simp only
  split
  · show (loop.drain.session.reconcile _).1.tracker.timer.isArmed = false
    rw [Session.timer_reconcile]
    rfl
  · rename_i h
    simpa using h

end Loop

end LibraryPaths

import LibraryPaths.Proofs.Session.Trace

/-!
# The quiet window

The log of a run has a mark for every event that signals a change and for every pass, with their times
(`Session.log`).  The deadline of the timer can be read off the log: there is one iff the last mark is a
signal, and it lies one window after that signal.  So a pass finds a signal right before itself in the log,
and a pass of the timer finds one that is at least a window old.

* `deadline_run`: the deadline is one window after the last mark, if that is a signal;
* `getLast?_of_timely`, `getLast?_of_punctual`: what stands before a pass;
* `countP_isPass_le`: there are no more passes than signals;
* `log_of_unarmed`: the log of a loop, from a disarmed timer to its end.
-/

set_option autoImplicit false

namespace LibraryPaths

/-- A change that was signalled or a pass that ran, with its time. -/
inductive Mark where
  | signal (time : Nat)
  | pass (time : Nat)
  deriving DecidableEq, Repr

namespace Mark

/-- When it happened. -/
def time : Mark → Nat
  | .signal time => time
  | .pass time => time

/-- Whether a change was signalled. -/
def isSignal : Mark → Bool
  | .signal _ => true
  | .pass _ => false

/-- Whether a pass ran. -/
def isPass : Mark → Bool
  | .signal _ => false
  | .pass _ => true

/-- The deadline a mark sets: a signal sets it one window later, a pass takes it away. -/
def deadline? (window : Nat) : Mark → Option Nat
  | .signal time => some (time + window)
  | .pass _ => none

end Mark

namespace Session

/-- The mark an act leaves. -/
def mark? (session : Session) : Act → Option Mark
  | .event now event => if session.picture.signals event then some (.signal now) else none
  | .pass now => some (.pass now)
  | .edit _ => none

/-- The marks of a run, oldest first. -/
def log (session : Session) : List Act → List Mark
  | [] => []
  | a :: acts => (session.mark? a).toList ++ (session.act a).log acts

variable {session : Session} {a : Act} {acts rest : List Act} {before after : List Mark} {mark : Mark}
  {time : Nat}

theorem log_append (session : Session) (acts rest : List Act) :
    session.log (acts ++ rest) = session.log acts ++ (session.run acts).log rest := by
  induction acts generalizing session with
  | nil => rfl
  | cons a acts ih => rw [List.cons_append, log, ih, log, List.append_assoc, run_cons]

theorem log_singleton (session : Session) (a : Act) : session.log [a] = (session.mark? a).toList :=
  List.append_nil _

theorem eq_signal_of_mark? {now : Nat} {event : Event}
    (h : session.mark? (.event now event) = some mark) : mark = .signal now := by
  simp only [mark?] at h
  split at h
  · exact (Option.some.inj h).symm
  · cases h

/-- A mark in the log was left by an act of the run. -/
theorem exists_of_log_eq (h : session.log acts = before ++ mark :: after) :
    ∃ first a rest, acts = first ++ a :: rest ∧ session.log first = before ∧
      (session.run first).mark? a = some mark := by
  induction acts generalizing session before with
  | nil => exact absurd h (by simp [log])
  | cons a acts ih =>
    unfold log at h
    cases hmark : session.mark? a with
    | none =>
      rw [hmark, Option.toList_none, List.nil_append] at h
      obtain ⟨first, b, rest, rfl, hfirst, hb⟩ := ih h
      refine ⟨a :: first, b, rest, rfl, ?_, hb⟩
      rw [log, hmark, hfirst]
      rfl
    | some m =>
      rw [hmark, Option.toList_some, List.singleton_append] at h
      cases before with
      | nil =>
        obtain ⟨rfl, -⟩ := List.cons.inj h
        exact ⟨[], a, acts, rfl, rfl, hmark⟩
      | cons first before =>
        obtain ⟨rfl, hrest⟩ := List.cons.inj h
        obtain ⟨acts', b, rest, rfl, hfirst, hb⟩ := ih hrest
        refine ⟨a :: acts', b, rest, rfl, ?_, hb⟩
        rw [log, hmark, hfirst]
        rfl

/-! ## The deadline -/

theorem window_act (session : Session) (a : Act) :
    (session.act a).tracker.timer.window = session.tracker.timer.window := by
  cases a with
  | event now event =>
    show (session.handle now event).tracker.timer.window = _
    rw [timer_handle]
    split <;> rfl
  | pass now =>
    show (session.reconcile now).1.tracker.timer.window = _
    rw [timer_reconcile]
    rfl
  | edit change => rfl

theorem window_run (session : Session) (acts : List Act) :
    (session.run acts).tracker.timer.window = session.tracker.timer.window := by
  induction acts generalizing session with
  | nil => rfl
  | cons a acts ih => rw [run_cons, ih, window_act]

/-- An act sets the deadline of the mark it leaves, and none else. -/
theorem deadline_act (session : Session) (a : Act) :
    (session.act a).tracker.timer.deadline =
      match session.mark? a with
      | some mark => mark.deadline? session.tracker.timer.window
      | none => session.tracker.timer.deadline := by
  cases a with
  | event now event =>
    show (session.handle now event).tracker.timer.deadline = _
    rw [timer_handle, mark?]
    cases session.picture.signals event <;> rfl
  | pass now =>
    show (session.reconcile now).1.tracker.timer.deadline = _
    rw [timer_reconcile]
    rfl
  | edit change => rfl

/-- **The deadline is the one that the last mark sets.** -/
theorem deadline_run (session : Session) (acts : List Act) :
    (session.run acts).tracker.timer.deadline =
      match (session.log acts).getLast? with
      | some mark => mark.deadline? session.tracker.timer.window
      | none => session.tracker.timer.deadline := by
  induction acts using List.reverseRecOn with
  | nil => rfl
  | append_singleton acts a ih =>
    rw [run_append, run_cons, run_nil, deadline_act, window_run, log_append, log_singleton]
    cases (session.run acts).mark? a with
    | none => rw [Option.toList_none, List.append_nil]; exact ih
    | some mark => rw [Option.toList_some, List.getLast?_concat]

/-- If the timer was not armed at first, it has a deadline only after a signal. -/
theorem exists_signal_of_deadline {deadline : Nat}
    (hunarmed : session.tracker.timer.isArmed = false)
    (hdeadline : (session.run acts).tracker.timer.deadline = some deadline) :
    ∃ s, (session.log acts).getLast? = some (.signal s) ∧
      s + session.tracker.timer.window = deadline := by
  have hnone : session.tracker.timer.deadline = none := Option.not_isSome_iff_eq_none.1 (by
    simpa [QuietTimer.isArmed] using hunarmed)
  rw [deadline_run] at hdeadline
  cases hlast : (session.log acts).getLast? with
  | none =>
    rw [hlast, hnone] at hdeadline
    cases hdeadline
  | some mark =>
    rw [hlast] at hdeadline
    cases mark with
    | signal s => exact ⟨s, rfl, Option.some.inj hdeadline⟩
    | pass time => cases hdeadline

/-! ## What stands before a pass -/

theorem exists_pass_of_log_eq (h : session.log acts = before ++ .pass time :: after) :
    ∃ first rest, acts = first ++ .pass time :: rest ∧ session.log first = before := by
  obtain ⟨first, a, rest, rfl, hfirst, hmark⟩ := exists_of_log_eq h
  cases a with
  | pass now =>
    obtain rfl : now = time := by simpa [mark?] using hmark
    exact ⟨first, rest, rfl, hfirst⟩
  | event now event => simp [mark?] at hmark
  | edit change => cases hmark

/-- **Right before a pass stands a signal** that no pass has answered. -/
theorem getLast?_of_timely (hunarmed : session.tracker.timer.isArmed = false)
    (hacts : Timely session acts) (h : session.log acts = before ++ .pass time :: after) :
    ∃ s, before.getLast? = some (.signal s) := by
  obtain ⟨first, rest, rfl, rfl⟩ := exists_pass_of_log_eq h
  have harmed := (timely_append.1 hacts).2.1 rfl
  obtain ⟨deadline, hdeadline⟩ := Option.isSome_iff_exists.1 harmed
  obtain ⟨s, hlast, -⟩ := exists_signal_of_deadline hunarmed hdeadline
  exact ⟨s, hlast⟩

/-- **Right before a pass at the deadline stands a signal that is at least a window old.** -/
theorem getLast?_of_punctual (hunarmed : session.tracker.timer.isArmed = false)
    (hacts : Punctual session acts) (h : session.log acts = before ++ .pass time :: after) :
    ∃ s, before.getLast? = some (.signal s) ∧ s + session.tracker.timer.window ≤ time := by
  obtain ⟨first, rest, rfl, rfl⟩ := exists_pass_of_log_eq h
  have hdue := (punctual_append.1 hacts).2.1 time rfl
  obtain ⟨deadline, hdeadline⟩ := Option.isSome_iff_exists.1 (isArmed_of_isDue hdue)
  obtain ⟨s, hlast, hs⟩ := exists_signal_of_deadline hunarmed hdeadline
  refine ⟨s, hlast, ?_⟩
  rw [hs]
  simpa [QuietTimer.isDue, hdeadline] using hdue

/-- A signal that no pass follows leaves the timer armed. -/
theorem exists_pass_after_signal {s : Nat}
    (hend : (session.run acts).tracker.timer.isArmed = false)
    (h : session.log acts = before ++ .signal s :: after) : ∃ time, .pass time ∈ after := by
  have hdeadline := deadline_run session acts
  rw [h, List.getLast?_append_cons] at hdeadline
  have hnone : (session.run acts).tracker.timer.deadline = none :=
    Option.not_isSome_iff_eq_none.1 (by simpa [QuietTimer.isArmed] using hend)
  cases hlast : (Mark.signal s :: after).getLast? with
  | none => simp at hlast
  | some mark =>
    rw [hlast, hnone] at hdeadline
    cases mark with
    | signal s' => cases hdeadline
    | pass time =>
      rcases List.mem_cons.1 (List.mem_of_getLast? hlast) with heq | hmem
      · cases heq
      · exact ⟨time, hmem⟩

/-! ## Counting -/

/-- **There are no more passes than signals**; if the timer is armed at the end, there are fewer. -/
theorem countP_isPass_le (hunarmed : session.tracker.timer.isArmed = false) (hacts : Timely session acts) :
    (session.log acts).countP Mark.isPass + (session.run acts).tracker.timer.isArmed.toNat ≤
      (session.log acts).countP Mark.isSignal := by
  induction acts using List.reverseRecOn with
  | nil => simp [log, hunarmed]
  | append_singleton acts a ih =>
    obtain ⟨hearlier, htimely, -⟩ := timely_append.1 hacts
    have hcounts := ih hearlier
    have hdeadline := deadline_act (session.run acts) a
    rw [run_append, run_cons, run_nil, log_append, log_singleton, List.countP_append, List.countP_append]
    unfold QuietTimer.isArmed at hcounts ⊢
    rw [hdeadline]
    cases a with
    | event now event =>
      cases hsignals : (session.run acts).picture.signals event with
      | true =>
        simp only [mark?, hsignals, if_true, Option.toList_some, List.countP_singleton, Mark.isPass,
          Mark.isSignal, Mark.deadline?, Option.isSome_some, Bool.toNat_true]
        have hle := Nat.le_of_add_right_le hcounts
        simpa using hle
      | false => simpa [mark?, hsignals] using hcounts
    | pass now =>
      -- the pass answers the signal that has armed the timer
      have harmed : (session.run acts).tracker.timer.deadline.isSome = true := htimely rfl
      rw [harmed] at hcounts
      simpa [mark?, Mark.isPass, Mark.isSignal, Mark.deadline?] using hcounts
    | edit change => simpa [mark?] using hcounts

/-- The tracker counts the passes of the log. -/
theorem passes_run (session : Session) (acts : List Act) :
    (session.run acts).tracker.passes =
      session.tracker.passes + (session.log acts).countP Mark.isPass := by
  induction acts generalizing session with
  | nil => rfl
  | cons a acts ih =>
    rw [run_cons, ih, log, List.countP_append]
    cases a with
    | event now event =>
      have hpasses : (session.act (.event now event)).tracker.passes = session.tracker.passes :=
        passes_handle now session event
      have hmark : ((session.mark? (.event now event)).toList).countP Mark.isPass = 0 := by
        simp only [mark?]
        split <;> rfl
      rw [hpasses, hmark, Nat.zero_add]
    | pass now =>
      have hpasses : (session.act (.pass now)).tracker.passes = session.tracker.passes + 1 :=
        passes_reconcile now session
      have hmark : ((session.mark? (.pass now)).toList).countP Mark.isPass = 1 := rfl
      rw [hpasses, hmark, Nat.add_assoc]
    | edit change => exact congrArg (session.tracker.passes + ·) (Nat.zero_add _).symm

end Session

/-! ## Loops -/

namespace Loop

variable {loop next last : Loop} {action : Action} {actions : List Action}

/-- The marks of a run of a loop. -/
def log (loop : Loop) (actions : List Action) : List Mark := loop.session.log (loop.trace actions)

/-- The marks that the end of a loop leaves: the events that waited, and the pass of a pending deadline. -/
def closingLog (loop : Loop) : List Mark := loop.session.log loop.closing

theorem log_acts (h : loop.run? actions = some last) :
    loop.session.log (loop.acts actions last) = loop.log actions ++ last.closingLog := by
  unfold acts log closingLog
  rw [Session.log_append, ← session_run? h]

theorem now_act? (h : loop.act? action = some next) : loop.now ≤ next.now := by
  cases action with
  | send event => cases h; exact Nat.le_refl _
  | edit change => cases h; exact Nat.le_refl _
  | wait milliseconds => cases h; exact Nat.le_add_right _ _
  | receive =>
    unfold act? at h
    cases hqueue : loop.queue with
    | nil => simp [hqueue] at h
    | cons event queue =>
      obtain rfl : { loop with session := loop.session.handle loop.now event, queue } = next := by
        simpa [hqueue] using h
      exact Nat.le_refl _
  | expire =>
    simp only [act?] at h
    split at h
    · cases h; exact Nat.le_refl _
    · cases h

/-- An action leaves marks of its own time. -/
theorem time_act? (loop : Loop) (action : Action) :
    ∀ mark ∈ loop.session.log (loop.actOf? action).toList, mark.time = loop.now := by
  intro mark hmark
  cases action with
  | send event => cases hmark
  | wait milliseconds => cases hmark
  | edit change => cases hmark
  | expire =>
    obtain rfl : mark = .pass loop.now := List.mem_singleton.1 hmark
    rfl
  | receive =>
    unfold actOf? at hmark
    cases hqueue : loop.queue with
    | nil => rw [hqueue] at hmark; cases hmark
    | cons event queue =>
      rw [hqueue] at hmark
      have hmark' : mark ∈ (loop.session.mark? (.event loop.now event)).toList := by
        rw [← Session.log_singleton]
        exact hmark
      rw [Session.eq_signal_of_mark? (Option.mem_toList.1 hmark')]
      rfl

theorem time_closingLog (loop : Loop) : ∀ mark ∈ loop.closingLog, mark.time = loop.now := by
  have hevents : ∀ (events : List Event) (session : Session),
      ∀ mark ∈ session.log (events.map (.event loop.now)), mark.time = loop.now := by
    intro events
    induction events with
    | nil => intro session mark hmark; cases hmark
    | cons event events ih =>
      intro session mark hmark
      rcases List.mem_append.1 hmark with hmark | hmark
      · rw [Session.eq_signal_of_mark? (Option.mem_toList.1 hmark)]
        rfl
      · exact ih _ mark hmark
  intro mark hmark
  unfold closingLog closing at hmark
  rw [Session.log_append] at hmark
  rcases List.mem_append.1 hmark with hmark | hmark
  · exact hevents _ _ mark hmark
  · split at hmark
    · rw [List.mem_singleton.1 hmark]
      rfl
    · cases hmark

/-- **Time does not go back**: marks stand in the order of their times. -/
theorem pairwise_log (h : loop.run? actions = some last) :
    (∀ mark ∈ loop.log actions, loop.now ≤ mark.time ∧ mark.time ≤ last.now) ∧
      loop.now ≤ last.now ∧ (loop.log actions).Pairwise (·.time ≤ ·.time) := by
  induction actions generalizing loop with
  | nil =>
    cases h
    exact ⟨fun mark hmark => (by cases hmark), Nat.le_refl _, List.Pairwise.nil⟩
  | cons action actions ih =>
    obtain ⟨next, hnext, hrest⟩ := Option.bind_eq_some_iff.1 h
    obtain ⟨hbetween, hlater, hpairwise⟩ := ih hrest
    have hnow := now_act? hnext
    have htime := time_act? loop action
    have hlog : loop.log (action :: actions) =
        loop.session.log (loop.actOf? action).toList ++ next.log actions := by
      unfold log
      rw [trace_cons hnext, Session.log_append, ← session_act? hnext]
    rw [hlog]
    refine ⟨?_, by omega, List.pairwise_append.2 ⟨?_, hpairwise, ?_⟩⟩
    · intro mark hmark
      rcases List.mem_append.1 hmark with hmark | hmark
      · rw [htime mark hmark]
        omega
      · have := hbetween mark hmark
        omega
    · refine List.pairwise_of_forall_mem_list fun m hm m' hm' => ?_
      rw [htime m hm, htime m' hm']
    · intro m hm m' hm'
      have := (hbetween m' hm').1
      rw [htime m hm]
      omega

/-- The marks that the end leaves come last. -/
theorem pairwise_log_closing (h : loop.run? actions = some last) :
    (loop.log actions ++ last.closingLog).Pairwise (·.time ≤ ·.time) := by
  obtain ⟨hbetween, -, hpairwise⟩ := pairwise_log h
  refine List.pairwise_append.2 ⟨hpairwise, ?_, ?_⟩
  · refine List.pairwise_of_forall_mem_list fun m hm m' hm' => ?_
    rw [time_closingLog last m hm, time_closingLog last m' hm']
  · intro m hm m' hm'
    rw [time_closingLog last m' hm']
    exact (hbetween m hm).2

/-- **Passes keep the quiet window.**  A loop runs from a disarmed timer to its end; when time goes by, and
whether a waiting event or a passed deadline comes first, is left open.  In the log of the run every pass of
the timer stands right behind a signal, at least a window later; two such passes are at least a window apart.
At the end, when the events that waited have been handled and a pending deadline has been answered by a last
pass, every signal is followed by a pass and the timer is disarmed.  Every pass, the last one included, stands
right behind a signal, so there are no more passes than signals, and the passes in the log are all that the
tracker has counted. -/
theorem log_of_unarmed {window : Nat} {timed whole : List Mark}
    (hunarmed : loop.session.tracker.timer.isArmed = false)
    (hrun : loop.run? actions = some last)
    (hwindow : window = loop.session.tracker.timer.window)
    (htimed : timed = loop.log actions) (hwhole : whole = timed ++ last.closingLog) :
    (∀ before t after, timed = before ++ .pass t :: after →
      ∃ s, before.getLast? = some (.signal s) ∧ s + window ≤ t) ∧
    (∀ before t between t' after, timed = before ++ .pass t :: (between ++ .pass t' :: after) →
      t + window ≤ t') ∧
    (∀ before s after, whole = before ++ .signal s :: after → ∃ t, .pass t ∈ after ∧ s ≤ t) ∧
    last.finish.session.tracker.timer.isArmed = false ∧
    (∀ before t after, whole = before ++ .pass t :: after → ∃ s, before.getLast? = some (.signal s)) ∧
    whole.countP Mark.isPass ≤ whole.countP Mark.isSignal ∧
    last.finish.session.tracker.passes = loop.session.tracker.passes + whole.countP Mark.isPass := by
  obtain ⟨-, -, hpairwise⟩ := pairwise_log hrun
  rw [← htimed] at hpairwise
  have hend := isArmed_finish last
  have hacts : loop.session.log (loop.acts actions last) = whole := by
    rw [log_acts hrun, hwhole, htimed]
  have hsession := session_acts hrun
  have hquiet : ∀ before t after, timed = before ++ .pass t :: after →
      ∃ s, before.getLast? = some (.signal s) ∧ s + window ≤ t := by
    intro before t after h
    rw [hwindow]
    exact Session.getLast?_of_punctual hunarmed (punctual_trace loop actions) (htimed.symm.trans h)
  refine ⟨hquiet, ?_, ?_, hend, ?_, ?_, ?_⟩
  · intro before t between t' after h
    -- the signal before the second pass stands behind the first one, which is no signal
    obtain ⟨s, hlast, hs⟩ := hquiet (before ++ .pass t :: between) t' after (by
      rw [h, List.append_assoc, List.cons_append])
    rw [List.getLast?_append_cons] at hlast
    have hsignal : .signal s ∈ between :=
      (List.mem_cons.1 (List.mem_of_getLast? hlast)).resolve_left (by simp)
    rw [h] at hpairwise
    have hle := (List.pairwise_cons.1 (List.pairwise_append.1 hpairwise).2.1).1 (.signal s)
      (List.mem_append_left _ hsignal)
    exact (Nat.add_le_add_right hle window).trans hs
  · intro before s after h
    rw [hsession] at hend
    obtain ⟨t, ht⟩ := Session.exists_pass_after_signal hend (hacts.trans h)
    refine ⟨t, ht, ?_⟩
    have hsorted := pairwise_log_closing hrun
    rw [← htimed, ← hwhole, h] at hsorted
    exact (List.pairwise_cons.1 (List.pairwise_append.1 hsorted).2.1).1 (.pass t) ht
  · intro before t after h
    exact Session.getLast?_of_timely hunarmed (timely_acts hrun) (hacts.trans h)
  · rw [← hacts]
    exact Nat.le_of_add_right_le (Session.countP_isPass_le hunarmed (timely_acts hrun))
  · rw [hsession, Session.passes_run, hacts]

/-- Two signals are answered by one pass, a window after the second; what comes then is answered when the
loop ends. -/
theorem log_of_unarmed_small :
    ∃ last,
      (Loop.ofSession (Session.small 0 "require \"m\"")).run?
        [.send (.attached Session.smallClient 1), .receive, .wait 60, .send .reconcile, .receive, .wait 100,
          .expire, .send (.library (.ofString "/x"))] = some last ∧
      (Loop.ofSession (Session.small 0 "require \"m\"")).log
        [.send (.attached Session.smallClient 1), .receive, .wait 60, .send .reconcile, .receive, .wait 100,
          .expire, .send (.library (.ofString "/x"))] = [.signal 0, .signal 60, .pass 160] ∧
      last.closingLog = [.signal 160, .pass 160] ∧ 60 + 100 ≤ 160 ∧
      last.finish.session.tracker.passes = 2 := by
  obtain ⟨last, hrun⟩ : ∃ last, (Loop.ofSession (Session.small 0 "require \"m\"")).run?
      [.send (.attached Session.smallClient 1), .receive, .wait 60, .send .reconcile, .receive, .wait 100,
        .expire, .send (.library (.ofString "/x"))] = some last :=
    Option.isSome_iff_exists.1 (by decide +kernel)
  have hlog : (Loop.ofSession (Session.small 0 "require \"m\"")).log
      [.send (.attached Session.smallClient 1), .receive, .wait 60, .send .reconcile, .receive, .wait 100,
        .expire, .send (.library (.ofString "/x"))] = [.signal 0, .signal 60, .pass 160] := by
    decide +kernel
  have hclosing : last.closingLog = [.signal 160, .pass 160] := by
    have h : ((Loop.ofSession (Session.small 0 "require \"m\"")).run?
      [.send (.attached Session.smallClient 1), .receive, .wait 60, .send .reconcile, .receive, .wait 100,
        .expire, .send (.library (.ofString "/x"))]).map closingLog =
          some [.signal 160, .pass 160] := by decide +kernel
    rw [hrun] at h
    exact Option.some.inj h
  obtain ⟨hquiet, -, -, -, -, -, hpasses⟩ :=
    log_of_unarmed (by decide +kernel) hrun (rfl : 100 = _) hlog.symm rfl
  obtain ⟨s, hlast, hs⟩ := hquiet [.signal 0, .signal 60] 160 [] rfl
  obtain rfl : 60 = s := by simpa using hlast
  rw [hclosing] at hpasses
  exact ⟨last, hrun, hlog, hclosing, hs, hpasses⟩

end Loop

end LibraryPaths

import LibraryPaths.Proofs.Session.QuietWindow
import LibraryPaths.Proofs.Session.Serving

/-!
# What begins the quiet window

An event calls for a reconcile pass (`Session.CallsForPass`) if it attaches a buffer, if it asks for one, or if
some library is longer afterwards, however the event came to fill it.  These are the events that move the
deadline.

* `signals_iff`: growth is signalled, and but for attachments and wishes nothing else is;
* `deadline_handle_eq`: the deadline after an event, and why the timer is armed while a library has grown
  since the last pass.
-/

set_option autoImplicit false

namespace LibraryPaths

namespace Picture

variable {picture : Picture} {event : Event}

/-- A library is longer after an event. -/
def Grows (picture : Picture) (event : Event) : Prop :=
  ∃ scope, (picture.library scope).paths.length < ((picture.after event).library scope).paths.length

/-- An event that only reads makes a library longer if the scan reports a change. -/
theorem grows_of_any (hplace : picture.place event = picture)
    (hchanged : (picture.reads? event).any (fun (scope, lines) => (picture.scan scope lines).changed) =
      true) :
    picture.Grows event := by
  cases hreads : picture.reads? event with
  | none =>
    rw [hreads] at hchanged
    cases hchanged
  | some reading =>
    obtain ⟨scope, lines⟩ := reading
    rw [hreads] at hchanged
    refine ⟨scope, ?_⟩
    unfold after
    rw [hreads, hplace]
    simp only
    rw [library_fill, if_pos rfl]
    exact Scan.changed_run_iff.1 hchanged

/-- **Growth is signalled**, and but for attachments and wishes nothing else is. -/
theorem signals_iff :
    picture.signals event = true ↔
      (∃ client buffer, event = .attached client buffer ∧ (picture.reads? event).isSome = true) ∨
        event = .reconcile ∨ picture.Grows event := by
  constructor
  · intro hsignals
    cases event with
    | attached client buffer => exact .inl ⟨client, buffer, rfl, hsignals⟩
    | reconcile => exact .inr (.inl rfl)
    | detached buffer => cases hsignals
    | changed buffer first last => exact .inr (.inr (grows_of_any rfl hsignals))
    | reloaded buffer => exact .inr (.inr (grows_of_any rfl hsignals))
    | library p =>
      refine .inr (.inr ⟨.global, ?_⟩)
      have hgrown : ((picture.library .global).add picture.files p).paths =
          (picture.library .global).paths ++ [picture.files.normalize p] :=
        Library.paths_add_of_grows hsignals
      show _ < ((picture.place (.library p)).library .global).paths.length
      rw [library_place]
      simp only [library_withLibrary, if_true, hgrown, List.length_append, List.length_singleton]
      omega
  · intro hcalls
    cases hsignals : picture.signals event with
    | true => rfl
    | false =>
      exfalso
      rcases hcalls with ⟨client, buffer, rfl, hreads⟩ | rfl | ⟨scope, hlonger⟩
      · exact absurd (hreads.symm.trans hsignals) (by simp)
      · cases hsignals
      · rw [library_after_of_not_signals hsignals] at hlonger
        omega

end Picture

namespace Session

variable {session : Session} {now : Nat} {event : Event} {after : List Act}

/-- Why an event calls for a pass: it attaches a buffer, it asks for one, or it makes a library longer. -/
inductive CallsForPass (now : Nat) (session : Session) : Event → Prop
  | attachment {client : Client} {buffer : Nat}
      (h : (session.attach now client buffer).2 = true) :
      CallsForPass now session (.attached client buffer)
  | wish : CallsForPass now session .reconcile
  | growth {event : Event} (scope : Scope)
      (h : (session.stored scope).length < ((session.handle now event).stored scope).length) :
      CallsForPass now session event

theorem callsForPass_iff :
    CallsForPass now session event ↔ session.picture.signals event = true := by
  have hgrows : session.picture.Grows event ↔
      ∃ scope, (session.stored scope).length < ((session.handle now event).stored scope).length := by
    unfold Picture.Grows
    rw [← picture_handle now]
    rfl
  rw [Picture.signals_iff, hgrows]
  constructor
  · rintro (⟨h⟩ | _ | ⟨scope, h⟩)
    · exact .inl ⟨_, _, rfl, (snd_attach now session _ _).symm.trans h⟩
    · exact .inr (.inl rfl)
    · exact .inr (.inr ⟨scope, h⟩)
  · rintro (⟨client, buffer, rfl, h⟩ | rfl | ⟨scope, h⟩)
    · exact .attachment ((snd_attach now session client buffer).trans h)
    · exact .wish
    · exact .growth scope h

/-- While no pass comes, a library that has grown means an armed timer. -/
theorem isArmed_of_grown (hafter : ∀ a ∈ after, a.isPass = false) {scope : Scope}
    (hgrown : (session.stored scope).length < ((session.run after).stored scope).length) :
    (session.run after).tracker.timer.isArmed = true := by
  cases harmed : (session.run after).tracker.timer.isArmed with
  | true => rfl
  | false =>
    have hlibrary := congrFun (unsignalled_run hafter harmed).1 scope
    unfold stored at hgrown
    rw [hlibrary] at hgrown
    omega

/-- **Growth moves the deadline, and so do attachments and wishes, but nothing else.**  A session has run from
its start.  An event that calls for a pass sets the deadline to one window after the time at which it is
handled, and every other event leaves the deadline as it was.  So the timer is armed if some library has
grown since the last pass, or since the start if there was none. -/
theorem deadline_handle_eq {config : Config} {env : Environment} {libraries : Libraries}
    {start session : Session} {acts : List Act}
    (hstart : start = startWith config env libraries)
    (hsession : session = start.run acts) :
    (∀ now event,
      (CallsForPass now session event →
        (session.handle now event).tracker.timer.deadline = some (now + config.window)) ∧
      (¬ CallsForPass now session event →
        (session.handle now event).tracker.timer.deadline = session.tracker.timer.deadline)) ∧
    ∀ before after, acts = before ++ after → (∀ a ∈ after, a.isPass = false) →
      (∃ scope, ((start.run before).stored scope).length < (session.stored scope).length) →
      session.tracker.timer.isArmed = true := by
  have hwindow : session.tracker.timer.window = config.window := by
    rw [hsession, window_run, hstart]
    rfl
  refine ⟨fun now event => ⟨fun hcalls => ?_, fun hcalls => ?_⟩, ?_⟩
  · rw [timer_handle, if_pos (callsForPass_iff.1 hcalls), ← hwindow]
    rfl
  · rw [timer_handle, if_neg fun hsignals => hcalls (callsForPass_iff.2 hsignals)]
  · rintro before after rfl hafter ⟨scope, hgrown⟩
    rw [run_append] at hsession
    rw [hsession] at hgrown ⊢
    exact isArmed_of_grown hafter hgrown

/-- The buffer was read when it was attached, so to read it anew calls for nothing; a new path does. -/
theorem deadline_handle_eq_small :
    ∃ session, session = (small 0 "require \"m\"").run [.event 0 (.attached smallClient 1), .pass 100] ∧
      (session.handle 150 (.reloaded 1)).tracker.timer.deadline = none ∧
      (session.handle 150 (.library (.ofString "/x"))).tracker.timer.deadline = some 250 ∧
      ((small 0 "require \"m\"").run [.event 0 (.attached smallClient 1)]).tracker.timer.isArmed = true := by
  have hstart : small 0 "require \"m\"" = startWith {} (small 0 "require \"m\"").env .empty := rfl
  obtain ⟨hdeadline, -⟩ := deadline_handle_eq hstart
    (rfl : _ = (small 0 "require \"m\"").run [.event 0 (.attached smallClient 1), .pass 100])
  obtain ⟨-, harmed⟩ := deadline_handle_eq hstart
    (rfl : _ = (small 0 "require \"m\"").run [.event 0 (.attached smallClient 1)])
  refine ⟨_, rfl, ?_, ?_, ?_⟩
  · refine ((hdeadline 150 (.reloaded 1)).2 fun hcalls => ?_).trans (by decide +kernel)
    exact absurd (callsForPass_iff.1 hcalls) (by decide +kernel)
  · exact (hdeadline 150 _).1 (.growth .global (by decide +kernel))
  · exact harmed [] _ rfl (by simp [Act.isPass]) ⟨.folder ⟨1, "app"⟩, by decide +kernel⟩

end Session

end LibraryPaths

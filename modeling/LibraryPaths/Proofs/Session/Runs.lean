import LibraryPaths.Proofs.Session.Filled
import LibraryPaths.Proofs.Session.Pass

/-!
# Runs of a session

A run is any sequence of events and passes, at any times, and of changes that the outside world makes to the
environment in between (`Session.Act`).

* `prefix_run`, `apart_run`: whatever happens, libraries only grow, and no path is stored twice;
* `tracks_run`: a tracked name stays tracked;
* `unsignalled_run`: while no pass comes and no timer is armed, nothing that is offered or due changes.
-/

set_option autoImplicit false

namespace LibraryPaths.Session

/-- Something that may happen to a session. -/
inductive Act where
  /-- An event is handled at a time. -/
  | event (now : Nat) (event : Event)
  /-- A reconcile pass runs at a time. -/
  | pass (now : Nat)
  /-- The outside world changes the environment. -/
  | edit (change : Environment → Environment)

/-- Whether a reconcile pass runs. -/
def Act.isPass : Act → Bool
  | .pass _ => true
  | _ => false

/-- The session after something happened to it. -/
def act (session : Session) : Act → Session
  | .event now event => session.handle now event
  | .pass now => (session.reconcile now).1
  | .edit change => { session with env := change session.env }

/-- The session after a run. -/
def run (session : Session) (acts : List Act) : Session := acts.foldl act session

variable {session : Session} {a : Act} {acts : List Act} {key : FolderKey}

@[simp] theorem run_nil (session : Session) : session.run [] = session := rfl

@[simp] theorem run_cons (session : Session) (a : Act) (acts : List Act) :
    session.run (a :: acts) = (session.act a).run acts := rfl

theorem run_append (session : Session) (acts rest : List Act) :
    session.run (acts ++ rest) = (session.run acts).run rest := by
  unfold run
  rw [List.foldl_append]

/-- The path list of a scope's library. -/
def stored (session : Session) (scope : Scope) : List Path :=
  (session.tracker.libraries.library scope).paths

theorem stored_congr {s t : Session} (h : s.picture = t.picture) (scope : Scope) :
    s.stored scope = t.stored scope :=
  congrArg Library.paths (congrFun (congrArg Picture.library h) scope)

/-! ## What nothing changes -/

theorem config_act (session : Session) (a : Act) :
    (session.act a).tracker.config = session.tracker.config := by
  cases a with
  | event now event =>
    have hpicture : (session.handle now event).picture.config = session.picture.config := by
      rw [picture_handle, Picture.config_after]
    exact hpicture
  | pass now => exact congrArg Picture.config (picture_reconcile now session)
  | edit change => rfl

theorem config_run (session : Session) (acts : List Act) :
    (session.run acts).tracker.config = session.tracker.config := by
  induction acts generalizing session with
  | nil => rfl
  | cons a acts ih => rw [run_cons, ih, config_act]

/-- To each library an act does what some additions do. -/
theorem exists_addAll_act (session : Session) (a : Act) (scope : Scope) :
    ∃ ps, (session.act a).tracker.libraries.library scope =
      (session.tracker.libraries.library scope).addAll session.env.files ps := by
  cases a with
  | event now event =>
    obtain ⟨ps, hadded⟩ := Picture.exists_addAll_after session.picture event scope
    rw [← picture_handle now] at hadded
    exact ⟨ps, hadded⟩
  | pass now => exact ⟨[], congrFun (congrArg Picture.library (picture_reconcile now session)) scope⟩
  | edit change => exact ⟨[], rfl⟩

theorem prefix_act (session : Session) (a : Act) (scope : Scope) :
    session.stored scope <+: (session.act a).stored scope := by
  obtain ⟨ps, hadded⟩ := exists_addAll_act session a scope
  unfold stored
  rw [hadded]
  exact Library.prefix_addAll _ _ _

/-- **Whatever happens, libraries only grow.** -/
theorem prefix_run (session : Session) (acts : List Act) (scope : Scope) :
    session.stored scope <+: (session.run acts).stored scope := by
  induction acts generalizing session with
  | nil => exact List.prefix_rfl
  | cons a acts ih => exact (prefix_act session a scope).trans (ih _)

/-- Earlier moments of a run have less in their libraries. -/
theorem stored_mono (start : Session) {before acts : List Act} (h : before <+: acts)
    (scope : Scope) : (start.run before).stored scope <+: (start.run acts).stored scope := by
  obtain ⟨rest, rfl⟩ := h
  rw [run_append]
  exact prefix_run _ rest scope

theorem mem_stored_act {a : Act} {scope : Scope} {q : Path} (h : q ∈ (session.act a).stored scope) :
    q ∈ session.stored scope ∨ ∃ p, q = session.env.files.normalize p := by
  obtain ⟨ps, hadded⟩ := exists_addAll_act session a scope
  unfold stored at h
  rw [hadded] at h
  exact (Library.mem_addAll h).imp_right fun ⟨p, _, hq⟩ => ⟨p, hq⟩

/-- No path is stored twice. -/
theorem apart_run (h : ∀ scope, Apart (session.stored scope)) (acts : List Act) (scope : Scope) :
    Apart ((session.run acts).stored scope) := by
  induction acts generalizing session with
  | nil => exact h scope
  | cons a acts ih =>
    refine ih fun scope => ?_
    obtain ⟨ps, hadded⟩ := exists_addAll_act session a scope
    unfold stored
    rw [hadded]
    exact Library.apart_addAll ps (h scope)

/-- The outside world leaves a part of the environment as it is. -/
def Act.Keeps {α : Type} (part : Environment → α) : Act → Prop
  | .edit change => ∀ env : Environment, part (change env) = part env
  | _ => True

/-- What stays as it is keeps its parts. -/
theorem Act.Keeps.comp {α β : Type} {part : Environment → α} (h : a.Keeps part) (f : α → β) :
    a.Keeps fun env => f (part env) := by
  cases a with
  | edit change => exact fun env => congrArg f (h env)
  | _ => trivial

/-- The outside world changes nothing but the buffers. -/
def Act.EditsBuffers : Act → Prop
  | .edit change => ∀ env : Environment, ∃ buffers, change env = { env with buffers }
  | _ => True

theorem Act.EditsBuffers.keeps_files (ha : a.EditsBuffers) : a.Keeps (·.files) := by
  cases a with
  | edit change =>
    intro env
    obtain ⟨buffers, hchange⟩ := ha env
    simp only [hchange]
  | _ => trivial

theorem Act.EditsBuffers.keeps_clients (ha : a.EditsBuffers) : a.Keeps (·.clients) := by
  cases a with
  | edit change =>
    intro env
    obtain ⟨buffers, hchange⟩ := ha env
    simp only [hchange]
  | _ => trivial

theorem files_act (session : Session) (ha : a.Keeps (·.files)) :
    (session.act a).env.files = session.env.files := by
  cases a with
  | event now event =>
    have hfiles := congrArg Picture.files (picture_handle now session event)
    rw [Picture.files_after] at hfiles
    exact hfiles
  | pass now => exact congrArg Picture.files (picture_reconcile now session)
  | edit change => exact ha session.env

theorem connected_act (session : Session) (ha : a.Keeps (·.clients)) :
    (session.act a).env.clients.connected = session.env.clients.connected := by
  cases a with
  | event now event => exact congrArg Clients.connected (clients_handle now session event)
  | pass now => exact connected_reconcile now session
  | edit change => exact congrArg Clients.connected (ha session.env)

theorem refuses_act (session : Session) (ha : a.Keeps (·.clients)) :
    (session.act a).env.clients.refuses = session.env.clients.refuses := by
  cases a with
  | event now event => exact congrArg Clients.refuses (clients_handle now session event)
  | pass now => exact refuses_reconcile now session
  | edit change => exact congrArg Clients.refuses (ha session.env)

/-- Files change only if the outside world changes them. -/
theorem files_run (session : Session) (hacts : ∀ a ∈ acts, a.Keeps (·.files)) :
    (session.run acts).env.files = session.env.files := by
  induction acts generalizing session with
  | nil => rfl
  | cons a acts ih =>
    rw [run_cons, ih _ fun b hb => hacts b (List.mem_cons_of_mem _ hb),
      files_act session (hacts a List.mem_cons_self)]

/-- Nobody comes or goes, and no other pushes are refused, unless the outside world sees to it. -/
theorem clients_fixed_run (session : Session) (hacts : ∀ a ∈ acts, a.Keeps (·.clients)) :
    (session.run acts).env.clients.connected = session.env.clients.connected ∧
      (session.run acts).env.clients.refuses = session.env.clients.refuses := by
  induction acts generalizing session with
  | nil => exact ⟨rfl, rfl⟩
  | cons a acts ih =>
    have ha := hacts a List.mem_cons_self
    obtain ⟨hconnected, hrefuses⟩ := ih (session.act a) fun b hb => hacts b (List.mem_cons_of_mem _ hb)
    exact ⟨hconnected.trans (connected_act session ha), hrefuses.trans (refuses_act session ha)⟩

/-- What only the outside world changes, other than the buffers, stays if it changes the buffers alone. -/
theorem world_run (session : Session) (hacts : ∀ a ∈ acts, a.EditsBuffers) :
    (session.run acts).env.files = session.env.files ∧
      (session.run acts).env.clients.connected = session.env.clients.connected ∧
      (session.run acts).env.clients.refuses = session.env.clients.refuses := by
  obtain ⟨hconnected, hrefuses⟩ := clients_fixed_run session fun a ha => (hacts a ha).keeps_clients
  exact ⟨files_run session fun a ha => (hacts a ha).keeps_files, hconnected, hrefuses⟩

/-- The policy stays if the outside world changes the buffers alone. -/
theorem isEnabled_run (session : Session) (hacts : ∀ a ∈ acts, a.EditsBuffers) (root : Path) :
    (session.run acts).isEnabled root = session.isEnabled root := by
  unfold isEnabled
  rw [(world_run session hacts).1, config_run]

theorem enabled_run (session : Session) (hacts : ∀ a ∈ acts, a.EditsBuffers) (client : Client) :
    (session.run acts).enabled client = session.enabled client :=
  enabled_of_isEnabled (isEnabled_run session hacts) client

theorem tracks_act {scope : Scope} {name : String} (ha : a.EditsBuffers)
    (h : session.picture.Tracks scope name) :
    (session.act a).picture.Tracks scope name := by
  cases a with
  | event now event =>
    show (session.handle now event).picture.Tracks scope name
    rw [picture_handle]
    exact h.after event
  | pass now =>
    show (session.reconcile now).1.picture.Tracks scope name
    rw [picture_reconcile]
    exact h
  | edit change =>
    have hfiles : (session.act (.edit change)).picture.files = session.picture.files :=
      files_act session ha.keeps_files
    obtain ⟨answer, hfind, hroot⟩ := h
    refine ⟨answer, hfind, ?_⟩
    rw [hfiles]
    exact hroot

/-- **What is tracked stays tracked** as long as the outside world changes only the buffers. -/
theorem tracks_run {scope : Scope} {name : String} (hacts : ∀ a ∈ acts, a.EditsBuffers)
    (h : session.picture.Tracks scope name) :
    (session.run acts).picture.Tracks scope name := by
  induction acts generalizing session with
  | nil => exact h
  | cons a acts ih =>
    exact ih (fun b hb => hacts b (List.mem_cons_of_mem _ hb))
      (tracks_act (hacts a List.mem_cons_self) h)

/-! ## Between passes -/

theorem isArmed_act (ha : Act.isPass a = false) (h : session.tracker.timer.isArmed = true) :
    (session.act a).tracker.timer.isArmed = true := by
  cases a with
  | event now event =>
    show (session.handle now event).tracker.timer.isArmed = true
    rw [timer_handle]
    split
    · rfl
    · exact h
  | pass now => cases ha
  | edit change => exact h

/-- Nothing but a pass disarms the timer. -/
theorem isArmed_run (hacts : ∀ a ∈ acts, a.isPass = false)
    (h : session.tracker.timer.isArmed = true) :
    (session.run acts).tracker.timer.isArmed = true := by
  induction acts generalizing session with
  | nil => exact h
  | cons a acts ih =>
    exact ih (fun b hb => hacts b (List.mem_cons_of_mem _ hb))
      (isArmed_act (hacts a List.mem_cons_self) h)

theorem unsignalled_act (ha : Act.isPass a = false)
    (hunarmed : (session.act a).tracker.timer.isArmed = false) :
    (session.act a).tracker.libraries.library = session.tracker.libraries.library ∧
      (session.act a).tracker.libraries.delivered = session.tracker.libraries.delivered := by
  cases a with
  | event now event =>
    have hsignals : session.picture.signals event = false := by
      cases h : session.picture.signals event with
      | false => rfl
      | true =>
        have htimer := timer_handle now session event
        rw [if_pos h] at htimer
        have harmed : (session.handle now event).tracker.timer.isArmed = true := by
          rw [htimer]; rfl
        exact absurd (harmed.symm.trans hunarmed) (by simp)
    have hlibrary := congrArg Picture.library (picture_handle now session event)
    rw [Picture.library_after_of_not_signals hsignals] at hlibrary
    exact ⟨hlibrary, funext fun key => delivered_handle now session event key⟩
  | pass now => cases ha
  | edit change => exact ⟨rfl, rfl⟩

/-- **Without a pass, an unarmed timer means that nothing has changed**: what is in the libraries and what
counts as delivered is what it was. -/
theorem unsignalled_run (hacts : ∀ a ∈ acts, a.isPass = false)
    (hunarmed : (session.run acts).tracker.timer.isArmed = false) :
    (session.run acts).tracker.libraries.library = session.tracker.libraries.library ∧
      (session.run acts).tracker.libraries.delivered = session.tracker.libraries.delivered := by
  induction acts generalizing session with
  | nil => exact ⟨rfl, rfl⟩
  | cons a acts ih =>
    have hrest : ∀ b ∈ acts, b.isPass = false := fun b hb => hacts b (List.mem_cons_of_mem _ hb)
    obtain ⟨hlibrary, hdelivered⟩ := ih hrest hunarmed
    have hnext : (session.act a).tracker.timer.isArmed = false := by
      cases h : (session.act a).tracker.timer.isArmed with
      | false => rfl
      | true => exact absurd ((isArmed_run hrest h).symm.trans hunarmed) (by simp)
    obtain ⟨hlibrary', hdelivered'⟩ := unsignalled_act (hacts a List.mem_cons_self) hnext
    exact ⟨hlibrary.trans hlibrary', hdelivered.trans hdelivered'⟩

/-! ## A small session -/

/-- A folder on disk. -/
def smallFolder : Folder := ⟨"app", .file "" ["work", "app"] ""⟩

/-- A client that works on that folder. -/
def smallClient : Client := ⟨1, "lua_ls", some [smallFolder]⟩

/-- A fresh session with that client, which refuses a number of pushes, one loaded module, and a buffer in
the folder. -/
def small (refused : Nat) (text : String) : Session :=
  start {}
    { files := .empty
      loaded := [("m", .ofString "/plugins/m/lua/m.lua")]
      packages := .ofRoots []
      buffers := Buffers.empty.load 1 (some (.ofString "/work/app/a.lua")) text
      clients := (Clients.ofList [smallClient]).refuseNext refused }

theorem refuses_small (text : String) (k : Nat) : (small 0 text).env.clients.refuses k = false := by
  simp [small, start, startWith, Clients.refuseNext, Clients.ofList]

end LibraryPaths.Session

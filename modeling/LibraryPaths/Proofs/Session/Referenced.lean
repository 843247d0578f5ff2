import LibraryPaths.Proofs.Resolution.Collected
import LibraryPaths.Proofs.Session.Runs

/-!
# Folder libraries hold what was referenced

A folder's own library is made by the scans for it and by nothing else.  The log of a run for a scope
(`Session.readFor`) has the names in the lines that were read for it, in order: on attaching a buffer all its
lines, later those of changed ranges and of buffers read anew, while the buffer is attached with that scope.

* `Collects.after`, `Collects.run`: an event collects the names it reads, and a run those of its log;
* `stored_run_eq`: so the library is the roots of the names in the log, in normal form, each once, and what
  reads nothing for the folder does not change it.
-/

set_option autoImplicit false

namespace LibraryPaths

namespace Picture

variable {picture : Picture} {key : FolderKey} {names : List String}

/-- The names that an event makes the session read for a scope. -/
def readBy (picture : Picture) (scope : Scope) (event : Event) : List String :=
  match picture.reads? event with
  | some (s, lines) => if s = scope then Reference.namesInLines lines else []
  | none => []

/-- The library of a folder is what the roots of some names make it. -/
structure Collects (picture : Picture) (key : FolderKey) (names : List String) : Prop where
  normal : picture.resolutions.Normal picture.files
  library : Collected picture.files picture.resolutions (picture.library (.folder key)) names

/-- But for its scan, an event leaves the libraries of folders alone. -/
theorem library_place_folder (picture : Picture) (event : Event) (key : FolderKey) :
    (picture.place event).library (.folder key) = picture.library (.folder key) := by
  rw [library_place]
  cases event with
  | library p => simp [library_withLibrary]
  | _ => rfl

theorem Collects.place (h : picture.Collects key names) (event : Event) :
    (picture.place event).Collects key names := by
  have hlibrary := library_place_folder picture event key
  obtain ⟨buffers, attachments, library, hplace⟩ := place_eq picture event
  rw [hplace] at hlibrary ⊢
  exact ⟨h.normal, hlibrary.symm ▸ h.library⟩

/-- A scan for a scope collects names if the scope is that of the folder. -/
theorem Collects.fill (hwork : ∀ n ∈ picture.files.workingDirectory, PlainName n)
    (h : picture.Collects key names) (scope : Scope) (lines : List String) :
    (picture.fill scope lines).Collects key
      (names ++ if scope = .folder key then Reference.namesInLines lines else []) := by
  have hnormal : picture.resolutions.Normal picture.places.files := h.normal
  refine ⟨Scan.normal_run hnormal _ lines, ?_⟩
  rw [library_fill]
  by_cases hscope : scope = .folder key
  · subst hscope
    rw [if_pos rfl, if_pos rfl]
    have hlibrary : Collected picture.places.files picture.resolutions (picture.library (.folder key))
        names := h.library
    exact hlibrary.run hwork hnormal lines
  · rw [if_neg (Ne.symm hscope), if_neg hscope, List.append_nil]
    exact h.library.later fun name answer hfind => Scan.find?_run_of_some hfind lines

/-- **An event collects the names that it reads for the folder.** -/
theorem Collects.after (hwork : ∀ n ∈ picture.files.workingDirectory, PlainName n)
    (h : picture.Collects key names) (event : Event) :
    (picture.after event).Collects key (names ++ picture.readBy (.folder key) event) := by
  unfold Picture.after readBy
  cases picture.reads? event with
  | none =>
    rw [List.append_nil]
    exact h.place event
  | some reading =>
    obtain ⟨scope, lines⟩ := reading
    exact (h.place event).fill (files_place picture event ▸ hwork) scope lines

/-- An event that reads no name for a folder leaves its library alone. -/
theorem library_after_of_readBy (event : Event) (hreads : picture.readBy (.folder key) event = []) :
    (picture.after event).library (.folder key) = picture.library (.folder key) := by
  unfold readBy at hreads
  unfold Picture.after
  cases hreading : picture.reads? event with
  | none => exact library_place_folder picture event key
  | some reading =>
    obtain ⟨scope, lines⟩ := reading
    rw [hreading] at hreads
    simp only at hreads ⊢
    rw [library_fill]
    split
    · rename_i hscope
      rw [if_pos hscope.symm] at hreads
      rw [← hscope, scan, Scan.run, hreads]
      exact library_place_folder picture event key
    · exact library_place_folder picture event key

end Picture

namespace Session

variable {session : Session} {key : FolderKey} {names : List String} {acts : List Act} {a : Act}

/-- The names that an act makes the session read for a scope. -/
def readBy (session : Session) (scope : Scope) : Act → List String
  | .event _ event => session.picture.readBy scope event
  | _ => []

/-- The names that were read for a scope in a run, in order. -/
def readFor (session : Session) (scope : Scope) : List Act → List String
  | [] => []
  | a :: acts => session.readBy scope a ++ (session.act a).readFor scope acts

theorem collects_act (hwork : ∀ n ∈ session.env.files.workingDirectory, PlainName n)
    (h : session.picture.Collects key names) (ha : a.Keeps (·.files)) :
    (session.act a).picture.Collects key (names ++ session.readBy (.folder key) a) := by
  cases a with
  | event now event =>
    show (session.handle now event).picture.Collects key _
    rw [picture_handle]
    exact h.after hwork event
  | pass now =>
    show (session.reconcile now).1.picture.Collects key (names ++ [])
    rw [picture_reconcile, List.append_nil]
    exact h
  | edit change =>
    have hfiles : (change session.env).files = session.env.files := ha session.env
    show Picture.Collects _ key (names ++ [])
    rw [List.append_nil]
    refine ⟨?_, ?_⟩
    · show session.tracker.resolutions.Normal (change session.env).files
      rw [hfiles]
      exact h.normal
    · show Collected (change session.env).files _ _ names
      rw [hfiles]
      exact h.library

/-- **A run collects the names of its log**, while the files stay. -/
theorem collects_run (hwork : ∀ n ∈ session.env.files.workingDirectory, PlainName n)
    (h : session.picture.Collects key names) (hacts : ∀ a ∈ acts, a.Keeps (·.files)) :
    (session.run acts).picture.Collects key (names ++ session.readFor (.folder key) acts) := by
  induction acts generalizing session names with
  | nil =>
    rw [readFor, List.append_nil]
    exact h
  | cons a acts ih =>
    have ha := hacts a List.mem_cons_self
    rw [run_cons, readFor, ← List.append_assoc]
    refine ih ?_ (collects_act hwork h ha) fun b hb => hacts b (List.mem_cons_of_mem _ hb)
    rw [files_act session ha]
    exact hwork

/-- What reads no name for a folder leaves its library alone. -/
theorem stored_act_of_readBy (session : Session) (a : Act)
    (hreads : session.readBy (.folder key) a = []) :
    (session.act a).stored (.folder key) = session.stored (.folder key) := by
  cases a with
  | event now event =>
    have hlibrary := Picture.library_after_of_readBy event hreads
    rw [← picture_handle now] at hlibrary
    exact congrArg Library.paths hlibrary
  | pass now => exact stored_congr (picture_reconcile now session) _
  | edit change => rfl

/-- **A folder's library holds what was read for the folder, and nothing else.**  A fresh session runs while
the files stay; the working directory has plain names.  Every name that was read for a folder is known, and
the folder's own library is the roots of those that were resolved, in normal form, each at its first place and
not repeated.  It is not changed by anything that reads no name for the
folder: passes, other events, a buffer that was not attached or is attached elsewhere. -/
theorem stored_run_eq {config : Config} {env : Environment} {start last : Session} {acts : List Act}
    (key : FolderKey)
    (hstart : start = Session.start config env)
    (hwork : ∀ n ∈ env.files.workingDirectory, PlainName n)
    (hacts : ∀ a ∈ acts, a.Keeps (·.files))
    (hlast : last = start.run acts) :
    (∀ name ∈ start.readFor (.folder key) acts, (last.tracker.resolutions.find? name).isSome) ∧
      last.stored (.folder key) =
        ((last.tracker.resolutions.roots (start.readFor (.folder key) acts)).map
          env.files.normalize).eraseDups ∧
      ∀ a, last.readBy (.folder key) a = [] →
        (last.act a).stored (.folder key) = last.stored (.folder key) := by
  have henv : start.env = env := by rw [hstart]; rfl
  have hfresh : start.picture.Collects key [] := by
    rw [hstart]
    refine ⟨fun name answer root hfind => ?_, ⟨fun name hname => absurd hname List.not_mem_nil, rfl⟩⟩
    cases hfind
  have hcollects := collects_run (henv ▸ hwork) hfresh hacts
  have hfiles : last.env.files = env.files := by rw [hlast, files_run start hacts, henv]
  rw [← hlast, List.nil_append] at hcollects
  refine ⟨hcollects.library.known, ?_, fun a => stored_act_of_readBy last a⟩
  rw [← hfiles]
  exact hcollects.library.paths

/-- The module is referred to twice, by a buffer read on its attachment and then anew. -/
theorem stored_run_eq_small :
    ((small 0 "require \"m\"").run [.event 0 (.attached smallClient 1), .pass 100,
        .event 150 (.reloaded 1)]).stored (.folder ⟨1, "app"⟩) =
      [FileSystem.empty.normalize (.ofString "/plugins/m/lua")] := by
  have hkeeps : ∀ a ∈ [Act.event 0 (.attached smallClient 1), .pass 100, .event 150 (.reloaded 1)],
      a.Keeps (·.files) := by simp [Act.Keeps]
  obtain ⟨-, hstored, -⟩ := stored_run_eq ⟨1, "app"⟩
    (rfl : small 0 "require \"m\"" = Session.start {} (small 0 "require \"m\"").env)
    (fun _ hn => absurd hn List.not_mem_nil) hkeeps rfl
  rw [hstored]
  decide +kernel

end Session

end LibraryPaths

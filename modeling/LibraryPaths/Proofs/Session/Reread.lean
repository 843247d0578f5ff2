import LibraryPaths.Proofs.Resolution.Collected
import LibraryPaths.Proofs.Session.Replaced

/-!
# Reading known names again

Once the names in some lines are known, a scan of the same lines asks nothing, but it may still store
something: the root of a name is kept in the normal form it had when the name was resolved, and stored in the
normal form it has when it is stored.  A library that was filled for a root while a link stood on its way
holds another path than the one that is kept, so the root is looked up on disk at every later scan.

* `changed_run_eq_false_iff`: when a scan of known names stores nothing;
* `plain_roots_run`: the roots that are kept are spelled plainly;
* `findsNothing_iff`: an event that reads known names again;
* `findsNothing_again_iff`: when a range can be read again whatever has changed on disk;
* `not_forall_findsNothing`: it cannot always.
-/

set_option autoImplicit false

namespace LibraryPaths

/-! ## Scans of known names -/

namespace Scan

variable {places : Places} {scan : Scan} {resolutions : Resolutions} {library : Library}
  {names : List String} {lines : List String}

theorem resolutions_foldl_of_known (names : List String) (scan : Scan)
    (hknown : ∀ name ∈ names, (scan.resolutions.find? name).isSome) :
    (names.foldl (note places) scan).resolutions = scan.resolutions := by
  induction names generalizing scan with
  | nil => rfl
  | cons first names ih =>
    obtain ⟨answer, hfind⟩ := Option.isSome_iff_exists.1 (hknown first List.mem_cons_self)
    have hfirst : (scan.note places first).resolutions = scan.resolutions := by
      rw [resolutions_note, Resolutions.resolve_of_find? places hfind]
    rw [List.foldl_cons, ih _ fun name hname => ?_, hfirst]
    rw [hfirst]
    exact hknown name (List.mem_cons_of_mem _ hname)

/-- Known names are not asked for. -/
theorem resolutions_run_of_known
    (hknown : ∀ name ∈ Reference.namesInLines lines, (resolutions.find? name).isSome)
    (library : Library) : (run places resolutions library lines).resolutions = resolutions :=
  resolutions_foldl_of_known _ (start resolutions library) hknown

/-- **A scan of known names stores something iff the library does not know one of their roots.** -/
theorem changed_run_eq_false_iff
    (hknown : ∀ name ∈ Reference.namesInLines lines, (resolutions.find? name).isSome) :
    (run places resolutions library lines).changed = false ↔
      ∀ root ∈ resolutions.roots (Reference.namesInLines lines),
        library.grows places.files root = false := by
  constructor
  · intro hunchanged root hroot
    obtain ⟨name, hname, answer, hfind, hanswer⟩ := Resolutions.mem_roots_iff.1 hroot
    have htracked : Tracked places.files (run places resolutions library lines).resolutions
        (run places resolutions library lines).library name := tracked_run hname
    rw [resolutions_run_of_known hknown, library_run_of_not_changed hunchanged] at htracked
    obtain ⟨answer', hfind', hroots⟩ := htracked
    obtain rfl := Option.some.inj (hfind.symm.trans hfind')
    exact hroots root hanswer
  · intro hroots
    have halike : Alike (run places resolutions library lines) (start resolutions library) := by
      refine alike_foldl_of_tracked _ _ fun name hname => ?_
      obtain ⟨answer, hfind⟩ := Option.isSome_iff_exists.1 (hknown name hname)
      exact ⟨answer, hfind, fun root hanswer =>
        hroots root (Resolutions.mem_roots_iff.2 ⟨name, hname, answer, hfind, hanswer⟩)⟩
    exact halike.changed

end Scan

namespace Picture

variable {picture : Picture} {scope : Scope} {lines : List String} {event : Event}

/-- Reading lines does nothing else, unless a buffer is attached. -/
theorem after_of_reads (hevent : ∀ client buffer, event ≠ .attached client buffer)
    (hreads : picture.reads? event = some (scope, lines)) :
    picture.after event = picture.fill scope lines ∧
      picture.signals event = (picture.scan scope lines).changed := by
  unfold after
  rw [hreads]
  cases event with
  | attached client buffer => exact absurd rfl (hevent client buffer)
  | changed buffer first last =>
    unfold signals
    rw [hreads]
    exact ⟨rfl, rfl⟩
  | reloaded buffer =>
    unfold signals
    rw [hreads]
    exact ⟨rfl, rfl⟩
  | _ => cases hreads

/-- What is known about a name stays. -/
theorem find?_resolutions_after {name : String} {answer : Resolution}
    (h : picture.resolutions.find? name = some answer) (event : Event) :
    (picture.after event).resolutions.find? name = some answer := by
  rw [← resolutions_place picture event] at h
  unfold after
  split
  · exact Scan.find?_run_of_some h _
  · exact h

/-- What all normal forms have, the roots have that an event finds. -/
theorem rooted_after {good : Path → Prop} (hgood : ∀ p, good (picture.files.normalize p))
    (h : picture.resolutions.Rooted good) (event : Event) :
    (picture.after event).resolutions.Rooted good := by
  rw [← resolutions_place picture event] at h
  rw [← files_place picture event] at hgood
  have hplaces : ∀ p, good ((picture.place event).places.files.normalize p) := hgood
  unfold after
  split
  · exact Scan.rooted_run hplaces h _ _
  · exact h

end Picture

namespace Session

variable {session start : Session} {now : Nat} {acts : List Act} {scope : Scope} {lines : List String}
  {event : Event}

/-! ## What is kept in a run -/

theorem find?_resolutions_act {name : String} {answer : Resolution} (a : Act)
    (h : session.tracker.resolutions.find? name = some answer) :
    (session.act a).tracker.resolutions.find? name = some answer := by
  cases a with
  | event now event =>
    show (session.handle now event).picture.resolutions.find? name = some answer
    rw [picture_handle]
    exact Picture.find?_resolutions_after h event
  | pass now =>
    show (session.reconcile now).1.picture.resolutions.find? name = some answer
    rw [picture_reconcile]
    exact h
  | edit change => exact h

/-- **What is known about a name stays**, whatever happens. -/
theorem find?_resolutions_run {name : String} {answer : Resolution} (acts : List Act)
    (h : session.tracker.resolutions.find? name = some answer) :
    (session.run acts).tracker.resolutions.find? name = some answer := by
  induction acts generalizing session with
  | nil => exact h
  | cons a acts ih => exact ih (find?_resolutions_act a h)

theorem rooted_act {good : Path → Prop} (hgood : ∀ p, good (session.env.files.normalize p))
    (h : session.tracker.resolutions.Rooted good) (a : Act) :
    (session.act a).tracker.resolutions.Rooted good := by
  have hpicture : ∀ p, good (session.picture.files.normalize p) := hgood
  cases a with
  | event now event =>
    show (session.handle now event).picture.resolutions.Rooted good
    rw [picture_handle]
    exact Picture.rooted_after hpicture h event
  | pass now =>
    show (session.reconcile now).1.picture.resolutions.Rooted good
    rw [picture_reconcile]
    exact h
  | edit change => exact h

/-- **The roots that are kept are spelled plainly**, while the working directory is. -/
theorem plain_roots_run (h : session.tracker.resolutions.Rooted Path.Plain)
    (hwork : ∀ earlier, earlier <+: acts →
      ∀ n ∈ (session.run earlier).env.files.workingDirectory, PlainName n) :
    (session.run acts).tracker.resolutions.Rooted Path.Plain := by
  induction acts generalizing session with
  | nil => exact h
  | cons a acts ih =>
    refine ih (rooted_act (FileSystem.plain_normalize (hwork [] List.nil_prefix)) h a) ?_
    intro earlier hearlier
    exact hwork (a :: earlier) (List.cons_prefix_cons.2 ⟨rfl, hearlier⟩)

/-! ## Reading again -/

/-- An event stores nothing, finds nothing out and leaves the timer alone. -/
def FindsNothing (session : Session) (now : Nat) (event : Event) : Prop :=
  (∀ scope, (session.handle now event).stored scope = session.stored scope) ∧
    (session.handle now event).tracker.resolutions = session.tracker.resolutions ∧
    (session.handle now event).tracker.timer = session.tracker.timer

/-- To read known names again finds nothing out. -/
theorem resolutions_handle_of_known (hevent : ∀ client buffer, event ≠ .attached client buffer)
    (hreads : session.picture.reads? event = some (scope, lines))
    (hknown : ∀ name ∈ Reference.namesInLines lines,
      (session.tracker.resolutions.find? name).isSome) :
    (session.handle now event).tracker.resolutions = session.tracker.resolutions := by
  show (session.handle now event).picture.resolutions = _
  rw [picture_handle, (Picture.after_of_reads hevent hreads).1]
  exact Scan.resolutions_run_of_known hknown _

/-- **An event that reads known names again finds nothing iff the library knows all their roots.** -/
theorem findsNothing_iff (hevent : ∀ client buffer, event ≠ .attached client buffer)
    (hreads : session.picture.reads? event = some (scope, lines))
    (hknown : ∀ name ∈ Reference.namesInLines lines,
      (session.tracker.resolutions.find? name).isSome) :
    session.FindsNothing now event ↔
      ∀ root ∈ session.tracker.resolutions.roots (Reference.namesInLines lines),
        (session.tracker.libraries.library scope).grows session.env.files root = false := by
  obtain ⟨hafter, hsignals⟩ := Picture.after_of_reads hevent hreads
  have hlibrary : ∀ s, (session.handle now event).tracker.libraries.library s =
      if s = scope then (session.picture.scan scope lines).library
      else session.tracker.libraries.library s := by
    intro s
    have hpicture := (picture_handle now session event).trans hafter
    exact (congrFun (congrArg Picture.library hpicture) s).trans (Picture.library_fill _ _ _ _)
  have hchanged : (session.picture.scan scope lines).changed = false ↔ _ :=
    Scan.changed_run_eq_false_iff hknown
  refine Iff.trans ⟨fun hnothing => ?_, fun hunchanged => ⟨fun s => ?_, ?_, ?_⟩⟩ hchanged
  · rw [← Bool.not_eq_true]
    intro hscan
    have hlonger := Scan.changed_run_iff.1 hscan
    have hsame := congrArg List.length (hnothing.1 scope)
    unfold stored at hsame
    rw [hlibrary, if_pos rfl] at hsame
    exact absurd hsame (Nat.ne_of_gt hlonger)
  · unfold stored
    rw [hlibrary]
    split
    · rename_i hs
      rw [hs]
      exact congrArg Library.paths (Scan.library_run_of_not_changed hunchanged)
    · rfl
  · exact resolutions_handle_of_known hevent hreads hknown
  · rw [timer_handle, hsignals, hunchanged]
    rfl

/-- Known names can be read again in every environment with the same buffers iff the library holds their roots
as they are spelled. -/
theorem findsNothing_everywhere_iff (hevent : ∀ client buffer, event ≠ .attached client buffer)
    (hreads : ∀ world : Environment, world.buffers = session.env.buffers →
      { session with env := world }.picture.reads? event = some (scope, lines))
    (hknown : ∀ name ∈ Reference.namesInLines lines,
      (session.tracker.resolutions.find? name).isSome)
    (hplain : session.tracker.resolutions.Rooted Path.Plain) :
    (∀ now (world : Environment), world.buffers = session.env.buffers →
        { session with env := world }.FindsNothing now event) ↔
      ∀ root ∈ session.tracker.resolutions.roots (Reference.namesInLines lines),
        holdsPath (session.stored scope) root = true := by
  constructor
  · -- on an empty disk every root is its own normal form
    intro hnothing root hroot
    have hgrows := (findsNothing_iff hevent (hreads { session.env with files := .empty } rfl) hknown).1
      (hnothing 0 _ rfl) root hroot
    rw [Library.grows_of_normal (FileSystem.normalize_empty (hplain.of_mem_roots hroot)),
      Bool.not_eq_false'] at hgrows
    exact hgrows
  · intro hheld now world hbuffers
    refine (findsNothing_iff hevent (hreads world hbuffers) hknown).2 fun root hroot => ?_
    exact Library.not_grows_of_holds world.files (hheld root hroot)

/-- The names in lines that were read are known from then on, by the same answers. -/
theorem exists_find?_of_reads (hreads : session.picture.reads? event = some (scope, lines))
    {name : String} (hname : name ∈ Reference.namesInLines lines) (now : Nat) (rest : List Act) :
    ∃ answer, (session.handle now event).tracker.resolutions.find? name = some answer ∧
      ((session.handle now event).run rest).tracker.resolutions.find? name = some answer := by
  obtain ⟨answer, hfind, -⟩ := Picture.tracks_after_of_reads hreads hname
  rw [← picture_handle now] at hfind
  exact ⟨answer, hfind, find?_resolutions_run rest hfind⟩

/-- A root that was its own normal form when its name was read is held from then on. -/
theorem holdsPath_of_reads (hreads : session.picture.reads? event = some (scope, lines)) {root : Path}
    (hroot : root ∈ (session.handle now event).tracker.resolutions.roots
      (Reference.namesInLines lines))
    (hnormal : session.env.files.normalize root = root) (rest : List Act) :
    holdsPath (((session.handle now event).run rest).stored scope) root = true := by
  obtain ⟨name, hname, answer, hfind, hanswer⟩ := Resolutions.mem_roots_iff.1 hroot
  obtain ⟨answer', hfind', hknows⟩ := Picture.tracks_after_of_reads hreads hname
  have hgrows : ((session.handle now event).picture.library scope).grows session.env.files root =
      false := by
    rw [picture_handle]
    rw [← picture_handle now] at hfind'
    obtain rfl := Option.some.inj (hfind.symm.trans hfind')
    have hknown := hknows root hanswer
    rw [Picture.files_after] at hknown
    exact hknown
  rw [Library.grows_of_normal hnormal, Bool.not_eq_false'] at hgrows
  obtain ⟨q, hq, hsame⟩ := List.any_eq_true.1 hgrows
  exact List.any_eq_true.2 ⟨q, (prefix_run _ rest scope).subset hq, hsame⟩

/-- **When a range can be read again whatever has changed on disk.**  A fresh session runs, in a working
directory that has plain names.  An event reads some lines for a scope, and their names have some roots from
then on.  Later, in any environment that has the same buffers, an event reads the same lines for the same
scope, and attaches nothing.  It finds nothing out; it stores nothing and leaves the timer alone iff the
library of the scope knows each of the roots, as it is spelled or in the normal form it has there.  So it
finds nothing in every such environment iff the library holds each of the roots as it is spelled.  It does
hold those that were their own normal form when the lines were read first. -/
theorem findsNothing_again_iff {config : Config} {env : Environment} {libraries : Libraries}
    {start last : Session} {before rest : List Act} {time : Nat} {event : Event} {scope : Scope}
    {lines : List String} {roots : List Path}
    (hstart : start = startWith config env libraries)
    (hlast : last = start.run (before ++ .event time event :: rest))
    (hwork : ∀ earlier, earlier <+: before ++ .event time event :: rest →
      ∀ n ∈ (start.run earlier).env.files.workingDirectory, PlainName n)
    (hreads : (start.run before).picture.reads? event = some (scope, lines))
    (hroots : roots = ((start.run before).handle time event).tracker.resolutions.roots
      (Reference.namesInLines lines)) :
    (∀ again, (∀ client buffer, again ≠ .attached client buffer) →
      last.picture.reads? again = some (scope, lines) →
      (∀ now world, world.buffers = last.env.buffers →
        ({ last with env := world }.handle now again).tracker.resolutions = last.tracker.resolutions ∧
        ({ last with env := world }.FindsNothing now again ↔
          ∀ root ∈ roots,
            (last.tracker.libraries.library scope).grows world.files root = false)) ∧
      ((∀ now world, world.buffers = last.env.buffers →
          { last with env := world }.FindsNothing now again) ↔
        ∀ root ∈ roots, holdsPath (last.stored scope) root = true)) ∧
    ∀ root ∈ roots, (start.run before).env.files.normalize root = root →
      holdsPath (last.stored scope) root = true := by
  have hlater : last = ((start.run before).handle time event).run rest := by
    rw [hlast, run_append]
    rfl
  have hkept : last.tracker.resolutions.roots (Reference.namesInLines lines) = roots := by
    rw [hroots, hlater]
    refine Resolutions.roots_congr fun name hname => ?_
    obtain ⟨answer, hthen, hnow⟩ := exists_find?_of_reads hreads hname time rest
    rw [hthen, hnow]
  have hknown : ∀ name ∈ Reference.namesInLines lines,
      (last.tracker.resolutions.find? name).isSome := by
    intro name hname
    obtain ⟨answer, -, hnow⟩ := exists_find?_of_reads hreads hname time rest
    rw [hlater, hnow]
    rfl
  have hplain : last.tracker.resolutions.Rooted Path.Plain := by
    rw [hlast]
    refine plain_roots_run ?_ hwork
    rw [hstart]
    intro name answer root hfind
    cases hfind
  refine ⟨fun again hagain hreads' => ?_, fun root hroot hnormal => ?_⟩
  · have hreadsIn : ∀ world : Environment, world.buffers = last.env.buffers →
        { last with env := world }.picture.reads? again = some (scope, lines) := by
      intro world hbuffers
      rw [← hreads']
      cases again with
      | attached client buffer => exact absurd rfl (hagain client buffer)
      | _ => simp [Picture.reads?, picture, hbuffers]
    rw [← hkept]
    exact ⟨fun now world hbuffers =>
      ⟨resolutions_handle_of_known hagain (hreadsIn world hbuffers) hknown,
        findsNothing_iff hagain (hreadsIn world hbuffers) hknown⟩,
      findsNothing_everywhere_iff hagain hreadsIn hknown hplain⟩
  · rw [hlater]
    exact holdsPath_of_reads hreads (hroots ▸ hroot) hnormal rest

/-! ## A link that comes and goes -/

/-- A fresh session with two folders, a loaded module, and a buffer in each folder that refers to it. -/
def linking : Session :=
  Session.start {}
    { files := FileSystem.empty.makeDirectory (.ofString "/one/lua")
      loaded := [("m", .ofString "/plug/lua/m.lua")]
      packages := .ofRoots []
      buffers := (Buffers.empty.load 1 (some (.ofString "/work/app/a.lua")) "require \"m\"").load 2
        (some (.ofString "/work/lib/b.lua")) "require \"m\""
      clients := .ofList [pairClient] }

/-- Puts a link where the module was loaded from. -/
def linked (env : Environment) : Environment :=
  { env with files := env.files.makeLink (.ofString "/plug") (.ofString "one") }

/-- Takes the link away again. -/
def unlinked (env : Environment) : Environment :=
  { env with files := env.files.remove (.ofString "/plug") }

/-- The second buffer is attached while the link is there. -/
def linkedOnce : List Act :=
  [.event 0 (.attached pairClient 1), .edit linked, .event 50 (.attached pairClient 2), .pass 200,
    .edit unlinked]

theorem plainName_linkedOnce : ∀ earlier, earlier <+: linkedOnce →
    ∀ n ∈ (linking.run earlier).env.files.workingDirectory, PlainName n := by
  intro earlier hearlier
  have hempty : (linking.run earlier).env.files.workingDirectory = [] := by
    rw [← List.mem_inits] at hearlier
    simp only [linkedOnce, List.inits, List.map_cons, List.map_nil, List.mem_cons, List.not_mem_nil,
      or_false] at hearlier
    rcases hearlier with rfl | rfl | rfl | rfl | rfl | rfl <;> decide +kernel
  rw [hempty]
  intro n hn
  cases hn

/-- Both buffers are read for the same root, and are to be read again in the end. -/
theorem reads?_linkedOnce :
    linking.picture.reads? (.attached pairClient 1) =
        some (.folder ⟨1, "app"⟩, ["require \"m\""]) ∧
      (linking.run [.event 0 (.attached pairClient 1), .edit linked]).picture.reads?
          (.attached pairClient 2) = some (.folder ⟨1, "lib"⟩, ["require \"m\""]) ∧
      (linking.run linkedOnce).picture.reads? (.reloaded 1) =
        some (.folder ⟨1, "app"⟩, ["require \"m\""]) ∧
      (linking.run linkedOnce).picture.reads? (.reloaded 2) =
        some (.folder ⟨1, "lib"⟩, ["require \"m\""]) := by
  decide +kernel

/-- The first folder holds the root as it is kept, so its buffer can be read again whatever changes on disk;
the second one holds where the link led, so its buffer cannot. -/
theorem findsNothing_again_iff_linked :
    ∃ last, last = linking.run linkedOnce ∧
      (∀ now world, world.buffers = last.env.buffers →
        { last with env := world }.FindsNothing now (.reloaded 1)) ∧
      ¬ ∀ now world, world.buffers = last.env.buffers →
        { last with env := world }.FindsNothing now (.reloaded 2) := by
  obtain ⟨hfirst, hsecond, hfirst', hsecond'⟩ := reads?_linkedOnce
  have hstart : linking = startWith {} linking.env .empty := rfl
  have hsplit : linking.run linkedOnce = linking.run ([] ++ .event 0 (.attached pairClient 1) ::
      [.edit linked, .event 50 (.attached pairClient 2), .pass 200, .edit unlinked]) := rfl
  have hsplit' : linking.run linkedOnce =
      linking.run ([.event 0 (.attached pairClient 1), .edit linked] ++
        .event 50 (.attached pairClient 2) :: [.pass 200, .edit unlinked]) := rfl
  obtain ⟨happ, -⟩ := findsNothing_again_iff hstart hsplit plainName_linkedOnce hfirst rfl
  obtain ⟨hlib, -⟩ := findsNothing_again_iff hstart hsplit' plainName_linkedOnce hsecond rfl
  refine ⟨_, rfl, ?_, fun hnothing => ?_⟩
  · exact (happ (.reloaded 1) (by simp) hfirst').2.2 (by decide +kernel)
  · exact absurd ((hlib (.reloaded 2) (by simp) hsecond').2.1 hnothing) (by decide +kernel)

/-- A buffer cannot always be read again without finding anything, though its text is the same. -/
theorem not_forall_findsNothing :
    ¬ ∀ (config : Config) (env : Environment) (before rest : List Act) (time now : Nat)
        (event again : Event) (scope : Scope) (lines : List String) (last : Session),
      last = (Session.start config env).run (before ++ .event time event :: rest) →
      ((Session.start config env).run before).picture.reads? event = some (scope, lines) →
      (∀ client buffer, again ≠ .attached client buffer) →
      last.picture.reads? again = some (scope, lines) → last.FindsNothing now again := by
  intro h
  obtain ⟨-, hsecond, -, hsecond'⟩ := reads?_linkedOnce
  have hnothing : (linking.run linkedOnce).FindsNothing 300 (.reloaded 2) :=
    h {} linking.env [.event 0 (.attached pairClient 1), .edit linked] [.pass 200, .edit unlinked] 50
      300 (.attached pairClient 2) (.reloaded 2) (.folder ⟨1, "lib"⟩) ["require \"m\""] _ rfl hsecond
      (by simp) hsecond'
  exact absurd (hnothing.1 (.folder ⟨1, "lib"⟩)) (by decide +kernel)

end Session

end LibraryPaths

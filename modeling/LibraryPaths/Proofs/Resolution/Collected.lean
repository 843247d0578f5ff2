import LibraryPaths.Proofs.FileSystem.Settled
import LibraryPaths.Proofs.Resolution.Tracked

/-!
# What a library is made of

Roots are kept in normal form and stored in normal form once more.  A library that nothing but scans have
filled consists of the roots of the names that were read, in normal form, each at its first place
(`Collected`).  A root is also recognised as it is spelled, without a look at the disk; while the files stay
that makes no difference, as a stored path is its own normal form (`normalize_normalize`).

* `Rooted.resolve`, `Scan.rooted_run`: what all normal forms have, all roots have;
* `Library.paths_add_eq`: adding a root that is in normal form;
* `Collected.note`, `Collected.run`: one reference collects its name, and a scan the names in its lines.
-/

set_option autoImplicit false

namespace LibraryPaths

/-- The roots of the resolved ones among some names. -/
def Resolutions.roots (resolutions : Resolutions) (names : List String) : List Path :=
  names.filterMap fun name => (resolutions.find? name).bind Resolution.root?

/-- All roots have a property. -/
def Resolutions.Rooted (resolutions : Resolutions) (good : Path → Prop) : Prop :=
  ∀ name answer root, resolutions.find? name = some answer → answer.root? = some root → good root

/-- All roots are normal forms. -/
def Resolutions.Normal (resolutions : Resolutions) (fs : FileSystem) : Prop :=
  ∀ name answer root, resolutions.find? name = some answer → answer.root? = some root →
    ∃ p, root = fs.normalize p

/-- Some names are known, and a library is what their roots make it. -/
structure Collected (fs : FileSystem) (resolutions : Resolutions) (library : Library)
    (names : List String) : Prop where
  known : ∀ name ∈ names, (resolutions.find? name).isSome
  paths : library.paths = ((resolutions.roots names).map fs.normalize).eraseDups

/-! ## One root -/

namespace Library

variable {fs : FileSystem} {library : Library} {roots : List Path} {root : Path}

/-- **A root in normal form is stored iff no root before has the same normal form.** -/
theorem paths_add_eq (hwork : ∀ n ∈ fs.workingDirectory, PlainName n)
    (hpaths : library.paths = (roots.map fs.normalize).eraseDups)
    (hroots : ∀ r ∈ roots, ∃ p, r = fs.normalize p) (hroot : ∃ p, root = fs.normalize p) :
    (library.add fs root).paths = ((roots ++ [root]).map fs.normalize).eraseDups := by
  have hstored : ∀ q ∈ library.paths, ∃ r ∈ roots, fs.normalize r = q := by
    intro q hq
    rw [hpaths, List.mem_eraseDups] at hq
    exact List.mem_map.1 hq
  rw [List.map_append, List.map_singleton]
  by_cases hmem : fs.normalize root ∈ roots.map fs.normalize
  · have hgrows : library.grows fs root = false := by
      refine not_grows_iff.2 ⟨fs.normalize root, ?_, .inr (Path.same_iff.2 rfl)⟩
      rw [hpaths, List.mem_eraseDups]
      exact hmem
    rw [add_of_not_grows hgrows, eraseDups_concat, if_pos hmem]
    exact hpaths
  · have hgrows : library.grows fs root = true := by
      rw [← Bool.not_eq_false]
      intro hnot
      obtain ⟨q, hq, hsame⟩ := not_grows_iff.1 hnot
      obtain ⟨r, hr, rfl⟩ := hstored q hq
      have hplain := FileSystem.plain_normalize hwork r
      rcases hsame with hsame | hsame
      · -- a stored path that the root is spelled like is its own normal form, and so is the root
        obtain ⟨p, rfl⟩ := hroot
        obtain ⟨p', rfl⟩ := hroots r hr
        have heq := hplain.eq_of_same (FileSystem.plain_normalize hwork p) (Path.same_iff.1 hsame)
        refine hmem (List.mem_map.2 ⟨_, hr, ?_⟩)
        rw [← heq, FileSystem.normalize_normalize hwork (FileSystem.plain_normalize hwork p')]
      · have heq := hplain.eq_of_same (FileSystem.plain_normalize hwork root) (Path.same_iff.1 hsame)
        exact hmem (List.mem_map.2 ⟨r, hr, heq⟩)
    rw [paths_add_of_grows hgrows, eraseDups_concat, if_neg hmem, hpaths]

end Library

/-! ## One reference -/

namespace Resolutions

variable {places : Places} {resolutions next : Resolutions} {names : List String} {fs : FileSystem}
  {good : Path → Prop}

theorem roots_append (resolutions : Resolutions) (names more : List String) :
    resolutions.roots (names ++ more) = resolutions.roots names ++ resolutions.roots more :=
  List.filterMap_append

theorem roots_congr (h : ∀ name ∈ names, next.find? name = resolutions.find? name) :
    next.roots names = resolutions.roots names :=
  List.filterMap_congr fun name hname => by rw [h name hname]

theorem mem_roots_iff {root : Path} :
    root ∈ resolutions.roots names ↔
      ∃ name ∈ names, ∃ answer, resolutions.find? name = some answer ∧ answer.root? = some root := by
  simp [roots, List.mem_filterMap, Option.bind_eq_some_iff]

theorem Rooted.of_mem_roots (h : resolutions.Rooted good) {root : Path}
    (hroot : root ∈ resolutions.roots names) : good root := by
  obtain ⟨name, -, answer, hfind, hanswer⟩ := mem_roots_iff.1 hroot
  exact h name answer root hfind hanswer

/-- What is found out about a name is what its file says, if it has one. -/
theorem lookUp_snd (places : Places) (resolutions : Resolutions) (name : String) :
    ∃ file?, (resolutions.lookUp places name).2 = places.resolutionOf file? := by
  unfold lookUp
  split
  · exact ⟨none, rfl⟩
  · split
    · exact ⟨some _, rfl⟩
    · exact ⟨_, rfl⟩

/-- A file's library root is kept in normal form. -/
theorem exists_of_resolutionOf {file? : Option Path} {root : Path}
    (h : (places.resolutionOf file?).root? = some root) : ∃ p, root = places.files.normalize p := by
  cases file? with
  | none => cases h
  | some file => exact ⟨_, (Option.some.inj h).symm⟩

/-- What all normal forms have, the root of a name has that is resolved now, and all others keep it. -/
theorem Rooted.resolve (h : resolutions.Rooted good) (hgood : ∀ p, good (places.files.normalize p))
    (name : String) :
    (resolutions.resolve places name).1.Rooted good ∧
      ∀ root, (resolutions.resolve places name).2.root? = some root → good root := by
  have hroot : ∀ root, (resolutions.resolve places name).2.root? = some root → good root := by
    intro root hroot
    unfold Resolutions.resolve at hroot
    split at hroot
    · rename_i answer hfind
      exact h name answer root hfind hroot
    · obtain ⟨file?, hanswer⟩ := lookUp_snd places resolutions name
      rw [hanswer] at hroot
      obtain ⟨p, rfl⟩ := exists_of_resolutionOf hroot
      exact hgood p
  refine ⟨?_, hroot⟩
  intro n answer root hfind hanswer
  rw [find?_resolve] at hfind
  split at hfind
  · rw [← Option.some.inj hfind] at hanswer
    exact hroot root hanswer
  · exact h n answer root hfind hanswer

end Resolutions

namespace Scan

variable {places : Places} {scan : Scan} {resolutions : Resolutions} {good : Path → Prop}

theorem rooted_foldl (hgood : ∀ p, good (places.files.normalize p)) (names : List String) (scan : Scan)
    (h : scan.resolutions.Rooted good) : (names.foldl (note places) scan).resolutions.Rooted good := by
  induction names generalizing scan with
  | nil => exact h
  | cons name names ih =>
    refine ih _ ?_
    rw [resolutions_note]
    exact (h.resolve hgood name).1

/-- What all normal forms have, the roots have that a scan finds. -/
theorem rooted_run (hgood : ∀ p, good (places.files.normalize p)) (h : resolutions.Rooted good)
    (library : Library) (lines : List String) :
    (run places resolutions library lines).resolutions.Rooted good :=
  rooted_foldl hgood _ (start resolutions library) h

theorem normal_note (hnormal : scan.resolutions.Normal places.files) (name : String) :
    (scan.note places name).resolutions.Normal places.files := by
  rw [resolutions_note]
  exact (Resolutions.Rooted.resolve hnormal (fun p => ⟨p, rfl⟩) name).1

/-- A scan finds roots in normal form. -/
theorem normal_run (hnormal : resolutions.Normal places.files) (library : Library)
    (lines : List String) : (run places resolutions library lines).resolutions.Normal places.files :=
  rooted_run (fun p => ⟨p, rfl⟩) hnormal library lines

end Scan

namespace Collected

variable {places : Places} {scan : Scan} {resolutions next : Resolutions} {library : Library}
  {names : List String} {fs : FileSystem}

/-- Answers that are kept make no difference. -/
theorem later (h : Collected fs resolutions library names)
    (hkept : ∀ name answer, resolutions.find? name = some answer → next.find? name = some answer) :
    Collected fs next library names := by
  have hsame : ∀ name ∈ names, next.find? name = resolutions.find? name := by
    intro name hname
    obtain ⟨answer, hfind⟩ := Option.isSome_iff_exists.1 (h.known name hname)
    rw [hfind, hkept name answer hfind]
  refine ⟨fun name hname => ?_, ?_⟩
  · rw [hsame name hname]
    exact h.known name hname
  · rw [Resolutions.roots_congr hsame]
    exact h.paths

/-- **One reference collects its name.** -/
theorem note (hwork : ∀ n ∈ places.files.workingDirectory, PlainName n)
    (h : Collected places.files scan.resolutions scan.library names)
    (hnormal : scan.resolutions.Normal places.files) (name : String) :
    Collected places.files (scan.note places name).resolutions (scan.note places name).library
      (names ++ [name]) := by
  have hfind : (scan.note places name).resolutions.find? name =
      some (scan.resolutions.resolve places name).2 := by
    rw [Scan.resolutions_note, Resolutions.find?_resolve, if_pos rfl]
  have hlater : Collected places.files (scan.note places name).resolutions scan.library names := by
    refine h.later fun n answer hn => ?_
    rw [Scan.resolutions_note]
    exact Resolutions.find?_resolve_of_some hn
  have hone : (scan.note places name).resolutions.roots [name] =
      (scan.resolutions.resolve places name).2.root?.toList := by
    unfold Resolutions.roots
    rw [List.filterMap_cons, List.filterMap_nil, hfind, Option.bind_some]
    cases (scan.resolutions.resolve places name).2.root? <;> rfl
  refine ⟨?_, ?_⟩
  · intro n hn
    rcases List.mem_append.1 hn with hn | hn
    · exact hlater.known n hn
    · rw [List.mem_singleton.1 hn, hfind]
      rfl
  · rw [Resolutions.roots_append, hone, Scan.filled_note]
    cases hanswer : (scan.resolutions.resolve places name).2.root? with
    | none =>
      rw [Option.toList_none, List.append_nil]
      exact hlater.paths
    | some root =>
      exact Library.paths_add_eq hwork hlater.paths
        (fun r hr => Resolutions.Rooted.of_mem_roots (Scan.normal_note hnormal name) hr)
        ((Resolutions.Rooted.resolve hnormal (fun p => ⟨p, rfl⟩) name).2 root hanswer)

theorem foldl (hwork : ∀ n ∈ places.files.workingDirectory, PlainName n)
    (h : Collected places.files scan.resolutions scan.library names)
    (hnormal : scan.resolutions.Normal places.files) (more : List String) :
    Collected places.files (more.foldl (Scan.note places) scan).resolutions
      (more.foldl (Scan.note places) scan).library (names ++ more) := by
  induction more generalizing scan names with
  | nil =>
    rw [List.append_nil]
    exact h
  | cons name more ih =>
    have hrest := ih (h.note hwork hnormal name) (Scan.normal_note hnormal name)
    rw [List.append_assoc, List.singleton_append] at hrest
    exact hrest

/-- **A scan collects the names its lines refer to.** -/
theorem run (hwork : ∀ n ∈ places.files.workingDirectory, PlainName n)
    (h : Collected places.files resolutions library names) (hnormal : resolutions.Normal places.files)
    (lines : List String) :
    Collected places.files (Scan.run places resolutions library lines).resolutions
      (Scan.run places resolutions library lines).library (names ++ Reference.namesInLines lines) :=
  foldl hwork h hnormal _

end Collected

end LibraryPaths

import Mathlib.Data.List.Nodup
import Mathlib.Data.List.Pairwise
import LibraryPaths.Proofs.FileSystem.Fixed
import LibraryPaths.Proofs.Library.Growth

/-!
# Adding and asking

A library tells twice whether it knows a path: when the path is added, and when it is asked for.  Only the
second one always takes the normal form; the first one looks at the path as it is spelled before.  Both say the
same as long as a library holds the normal forms of its own paths.  A path that cannot be made canonical may be
stored under a spelling that can: then the library does not know what it holds, and the place that the spelling
leads to is stored beside it.

* `grows_eq_iff`: adding and asking agree iff every stored path is known;
* `agrees_iff_fixed`: what that takes, read off the stored paths;
* `normalize_mem_addAll`, `fixed_addAll_iff`: what is stored by a run of additions;
* `agrees_iff`: what it takes, read off the added paths.
-/

set_option autoImplicit false

namespace LibraryPaths

theorem Apart.nodup {ps : List Path} (h : Apart ps) : ps.Nodup := h.nodup_components.of_map _

/-- Two paths do not lead to one place. -/
def FileSystem.LeadApart (fs : FileSystem) (p q : Path) : Prop :=
  ∀ location, fs.follow p = .ok (.found location) → fs.follow q ≠ .ok (.found location)

instance (fs : FileSystem) : Std.Symm fs.LeadApart :=
  ⟨fun _ _ h location hfollow hother => h location hother hfollow⟩

namespace Library

variable {fs : FileSystem} {library : Library} {p q : Path} {ps : List Path}

/-- What a library tells when a path is added is what it told when it was asked before, whatever the path is; it
knows what it holds, and it holds no two paths of one place. -/
structure Agrees (fs : FileSystem) (library : Library) : Prop where
  grows : ∀ p, library.grows fs p = !library.contains fs p
  contains : ∀ q ∈ library.paths, library.contains fs q = true
  distinct : library.paths.Pairwise fs.LeadApart

/-! ## Stored paths -/

theorem holds_iff_mem (hplain : ∀ q ∈ library.paths, q.Plain) (hp : p.Plain) :
    library.holds p = true ↔ p ∈ library.paths := by
  unfold holds
  rw [holdsPath_iff, List.mem_map]
  constructor
  · rintro ⟨q, hq, hcomponents⟩
    rwa [← (hplain q hq).eq_of_same hp hcomponents]
  · exact fun hp => ⟨p, hp, rfl⟩

/-- **Adding and asking agree** iff a library of plain paths knows each of them. -/
theorem grows_eq_iff (hplain : ∀ q ∈ library.paths, q.Plain) :
    (∀ p, library.grows fs p = !library.contains fs p) ↔
      ∀ q ∈ library.paths, library.contains fs q = true := by
  constructor
  · intro h q hq
    have hholds : library.holds q = true := (holds_iff_mem hplain (hplain q hq)).2 hq
    have hgrows := not_grows_of_holds fs hholds
    rw [h q] at hgrows
    simpa using hgrows
  · intro h p
    cases hcontains : library.contains fs p with
    | true => simp [grows, show library.holds (fs.normalize p) = true from hcontains]
    | false =>
      -- a path that is held as it is spelled has the normal form of a stored path, or that path for its own
      have hspelled : library.holds p = false := by
        refine Bool.eq_false_iff.2 fun hholds => ?_
        obtain ⟨q, hq, hcomponents⟩ := List.mem_map.1 (holdsPath_iff.1 hholds)
        rw [← Bool.not_eq_true] at hcontains
        refine hcontains ?_
        unfold contains
        rcases FileSystem.normalize_of_components fs (hplain q hq) hcomponents.symm with hsame | hself
        · rw [hsame]
          exact h q hq
        · rw [hself]
          exact (holds_iff_mem hplain (hplain q hq)).2 hq
      simp [grows, hspelled, show library.holds (fs.normalize p) = false from hcontains]

/-- No two paths of a list lead to one place iff those that do are equal. -/
theorem pairwise_leadApart_iff (h : Apart ps) :
    ps.Pairwise fs.LeadApart ↔ ∀ p ∈ ps, ∀ q ∈ ps, ∀ location,
      fs.follow p = .ok (.found location) → fs.follow q = .ok (.found location) → p = q := by
  constructor
  · intro hpairwise p hp q hq location hfollow hother
    by_contra hne
    exact hpairwise.forall hp hq hne location hfollow hother
  · intro hall
    exact h.nodup.pairwise_of_forall_ne fun p hp q hq hne location hfollow hother =>
      hne (hall p hp q hq location hfollow hother)

/-- **When adding and asking agree**, read off the stored paths: each of them is its own normal form, and none
that cannot be made canonical leads where another one leads. -/
theorem agrees_iff_fixed (hgenuine : fs.Genuine) (hanchored : fs.Anchored) (hapart : Apart library.paths)
    (hplain : ∀ q ∈ library.paths, q.Plain) :
    library.Agrees fs ↔
      (∀ q ∈ library.paths, fs.normalize q = q) ∧
      ∀ p ∈ library.paths, ∀ q ∈ library.paths, ∀ location fault,
        fs.follow p = .ok (.found location) → fs.follow q = .ok (.found location) →
        fs.canonical p = .error fault → p = q := by
  constructor
  · rintro ⟨-, hcontains, hdistinct⟩
    have hequal := (pairwise_leadApart_iff hapart).1 hdistinct
    refine ⟨fun q hq => ?_, fun p hp q hq location _ hfollow hother _ =>
      hequal p hp q hq location hfollow hother⟩
    have hnormal : fs.normalize q ∈ library.paths :=
      (holds_iff_mem hplain (FileSystem.plain_normalize hanchored.plain q)).1 (hcontains q hq)
    rcases FileSystem.normalize_cases fs q with ⟨location, hfollow, hresult⟩ | hresult
    · -- the canonical path is stored too, and leads to the same place
      rw [hresult] at hnormal ⊢
      have hagain := FileSystem.follow_ofNames (hgenuine.entryName_of_follow hfollow)
        (FileSystem.settled_of_follow (fun _ => hanchored.directory) hfollow)
      exact hequal _ hnormal q hq location hagain hfollow
    · exact hresult.trans (Path.clean_of_plain (hplain q hq) _)
  · rintro ⟨hfixed, hfault⟩
    have hcontains : ∀ q ∈ library.paths, library.contains fs q = true := fun q hq => by
      unfold contains
      rw [hfixed q hq]
      exact (holds_iff_mem hplain (hplain q hq)).2 hq
    refine ⟨(grows_eq_iff hplain).2 hcontains, hcontains, (pairwise_leadApart_iff hapart).2 ?_⟩
    intro p hp q hq location hfollow hother
    -- two canonical paths that lead to one place spell its names
    cases hpcanonical : fs.canonical p with
    | error fault => exact hfault p hp q hq location fault hfollow hother hpcanonical
    | ok pcanonical =>
      cases hqcanonical : fs.canonical q with
      | error fault => exact (hfault q hq p hp location fault hother hfollow hqcanonical).symm
      | ok qcanonical =>
        have hpnormal := hfixed p hp
        have hqnormal := hfixed q hq
        rw [FileSystem.normalize_of_canonical_of_follow hpcanonical hfollow] at hpnormal
        rw [FileSystem.normalize_of_canonical_of_follow hqcanonical hother] at hqnormal
        rw [← hpnormal, ← hqnormal]

/-! ## Runs of additions -/

theorem plain_addAll (hanchored : fs.Anchored) (ps : List Path) :
    ∀ q ∈ (empty.addAll fs ps).paths, q.Plain := by
  intro q hq
  rcases mem_addAll hq with hnone | ⟨p, -, rfl⟩
  · cases hnone
  · exact FileSystem.plain_normalize hanchored.plain p

/-- The normal form of an added path is stored, or it is the normal form of a stored path. -/
theorem normalize_mem_addAll (hanchored : fs.Anchored) (hp : p ∈ ps) :
    fs.normalize p ∈ (empty.addAll fs ps).paths ∨
      ∃ q ∈ (empty.addAll fs ps).paths, fs.normalize p = fs.normalize q := by
  have hknown : (empty.addAll fs ps).grows fs p = false := grows_addAll hp
  obtain ⟨q, hq, hsame⟩ := not_grows_iff.1 hknown
  have hplain := plain_addAll hanchored ps q hq
  rcases hsame with hspelled | hnormal
  · rcases FileSystem.normalize_of_components fs hplain (Path.same_iff.1 hspelled).symm with hsame | hself
    · exact .inr ⟨q, hq, hsame⟩
    · exact .inl (hself ▸ hq)
  · have heq := hplain.eq_of_same (FileSystem.plain_normalize hanchored.plain p) (Path.same_iff.1 hnormal)
    exact .inl (heq ▸ hq)

/-- If all stored paths are their own normal forms, the normal forms of the added ones are stored. -/
theorem normalize_mem_of_fixed (hanchored : fs.Anchored)
    (hfixed : ∀ q ∈ (empty.addAll fs ps).paths, fs.normalize q = q) (hp : p ∈ ps) :
    fs.normalize p ∈ (empty.addAll fs ps).paths := by
  rcases normalize_mem_addAll hanchored hp with hmem | ⟨q, hq, hsame⟩
  · exact hmem
  · rwa [hsame, hfixed q hq]

/-- All stored paths are their own normal forms iff the normal forms of all added ones are. -/
theorem fixed_addAll_iff (hanchored : fs.Anchored) :
    (∀ q ∈ (empty.addAll fs ps).paths, fs.normalize q = q) ↔
      ∀ p ∈ ps, fs.normalize (fs.normalize p) = fs.normalize p := by
  constructor
  · exact fun hfixed p hp => hfixed _ (normalize_mem_of_fixed hanchored hfixed hp)
  · intro hfixed q hq
    rcases mem_addAll hq with hnone | ⟨p, hp, rfl⟩
    · cases hnone
    · exact hfixed p hp

/-- **When adding and asking agree.**  After any additions to an empty library, on a disk that stays as it is,
adding and asking agree on every path, and the library knows what it holds and holds each place once, exactly if
two things hold.  Whenever an added path cannot be made canonical but its clean form can, that form is canonical
already.  And a normal form that cannot be made canonical leads to no place that another one leads to. -/
theorem agrees_iff (hgenuine : fs.Genuine)
    (hdirectory : fs.entry? fs.workingDirectory = some .directory) (ps : List Path) :
    (empty.addAll fs ps).Agrees fs ↔
      (∀ p ∈ ps, ∀ fault canonical, fs.canonical p = .error fault →
        fs.canonical (p.clean fs.workingDirectory) = .ok canonical →
        canonical = p.clean fs.workingDirectory) ∧
      ∀ p ∈ ps, ∀ q ∈ ps, ∀ location fault,
        fs.follow (fs.normalize p) = .ok (.found location) →
        fs.follow (fs.normalize q) = .ok (.found location) →
        fs.canonical (fs.normalize p) = .error fault → fs.normalize p = fs.normalize q := by
  have hanchored : fs.Anchored := ⟨hgenuine.workingDirectory, hdirectory⟩
  have hempty : Apart empty.paths := List.Pairwise.nil
  rw [agrees_iff_fixed hgenuine hanchored (apart_addAll ps hempty) (plain_addAll hanchored ps),
    fixed_addAll_iff hanchored]
  simp only [hanchored.normalize_normalize_iff]
  refine and_congr_right fun hfixed => ?_
  simp only [← hanchored.normalize_normalize_iff] at hfixed
  have hstored := (fixed_addAll_iff hanchored).2 hfixed
  constructor
  · intro hfault p hp q hq
    exact hfault _ (normalize_mem_of_fixed hanchored hstored hp) _ (normalize_mem_of_fixed hanchored hstored hq)
  · intro hfault p hp q hq
    rcases mem_addAll hp with hnone | ⟨first, hfirst, rfl⟩
    · cases hnone
    rcases mem_addAll hq with hnone | ⟨second, hsecond, rfl⟩
    · cases hnone
    exact hfault first hfirst second hsecond

/-- A disk with the directory `/d` and a link `/l` to it. -/
def twoNames : FileSystem := ⟨[([100], .directory []), ([108], .link (.ofString "d"))], []⟩

theorem genuine_twoNames : twoNames.Genuine where
  links := by
    refine .directory _ fun member hmember => ?_
    have hmembers : member = ([100], .directory []) ∨ member = ([108], .link (.ofString "d")) := by
      simpa [twoNames, FileSystem.root] using hmember
    rcases hmembers with rfl | rfl
    · exact .directory [] (by simp)
    · exact .link _ (by decide +kernel)
  workingDirectory n hn := by cases hn

/-- The directory can be added by the name of the link, and over a name that is missing; over a missing name, the
link cannot. -/
theorem agrees_iff_twoNames :
    (empty.addAll twoNames [.ofString "/l", .ofString "/x/../d"]).Agrees twoNames ∧
      ¬ (empty.addAll twoNames [.ofString "/x/../l"]).Agrees twoNames := by
  constructor
  · refine (agrees_iff genuine_twoNames rfl _).2 ⟨?_, ?_⟩
    · simp only [List.forall_mem_cons, List.not_mem_nil, false_implies, implies_true, and_true]
      refine ⟨fun fault canonical herror => ?_, fun fault canonical _ hclean => ?_⟩
      · have hexists : twoNames.canonical (.ofString "/l") = .ok (.ofString "/d") := by decide +kernel
        rw [hexists] at herror
        cases herror
      · have hcanonical : twoNames.canonical ((Path.ofString "/x/../d").clean twoNames.workingDirectory) =
            .ok ((Path.ofString "/x/../d").clean twoNames.workingDirectory) := by decide +kernel
        rw [hcanonical] at hclean
        exact (Except.ok.inj hclean).symm
    · have hnormal : ∀ p ∈ [Path.ofString "/l", Path.ofString "/x/../d"],
          twoNames.normalize p = .ofString "/d" := by decide +kernel
      intro p hp q hq _ _ _ _ _
      rw [hnormal p hp, hnormal q hq]
  · intro h
    have hcanonical := ((agrees_iff genuine_twoNames rfl _).1 h).1 _ List.mem_cons_self .notFound
      (.ofString "/d") (by decide +kernel) (by decide +kernel)
    exact absurd hcanonical (by decide +kernel)

/-- Adding and asking need not agree, a library need not know what it holds, and it may hold one place twice. -/
theorem not_forall_agrees :
    (¬ ∀ (fs : FileSystem) (ps : List Path) (p : Path),
      fs.Genuine → fs.entry? fs.workingDirectory = some .directory →
      (empty.addAll fs ps).grows fs p = !(empty.addAll fs ps).contains fs p) ∧
    (¬ ∀ (fs : FileSystem) (ps : List Path),
      fs.Genuine → fs.entry? fs.workingDirectory = some .directory →
      ∀ q ∈ (empty.addAll fs ps).paths, (empty.addAll fs ps).contains fs q = true) ∧
    ¬ ∀ (fs : FileSystem) (ps : List Path),
      fs.Genuine → fs.entry? fs.workingDirectory = some .directory →
      (empty.addAll fs ps).paths.Pairwise fs.LeadApart := by
  refine ⟨fun h => ?_, fun h => ?_, fun h => ?_⟩
  · exact absurd (h twoNames [.ofString "/x/../l"] (.ofString "/l") genuine_twoNames rfl) (by decide +kernel)
  · exact absurd (h twoNames [.ofString "/x/../l"] genuine_twoNames rfl) (by decide +kernel)
  · have hpaths : (empty.addAll twoNames [.ofString "/x/../l", .ofString "/d"]).paths =
        [.ofString "/l", .ofString "/d"] := by decide +kernel
    have hpairwise := h twoNames [.ofString "/x/../l", .ofString "/d"] genuine_twoNames rfl
    rw [hpaths] at hpairwise
    exact List.rel_of_pairwise_cons hpairwise List.mem_cons_self [[100]] (by decide +kernel)
      (by decide +kernel)

end Library

end LibraryPaths

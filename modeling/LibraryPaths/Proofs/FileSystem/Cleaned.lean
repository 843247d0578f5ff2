import LibraryPaths.Proofs.FileSystem.Directories
import LibraryPaths.Proofs.Path.Respelled

/-!
# Paths that are not there

The normal form of a path that cannot be made canonical is read off its spelling.  It is a plain absolute path,
the same for every respelling that cannot be made canonical either, and it is itself a respelling: nothing of
the path is lost but what leads nowhere.  A relative path is read from the working directory, and that makes no
difference from the path joined to it.

* `canonical_of_join`, `normalize_join`: relative paths, and paths joined to the working directory;
* `normalize_respelled`: the normal forms of paths that are not there.
-/

set_option autoImplicit false

namespace LibraryPaths.FileSystem

variable {fs : FileSystem} {p q : Path} {fault : IoError}

/-- The path of the working directory is absolute and canonical: its names are those of directories, none of
which is a link. -/
structure Anchored (fs : FileSystem) : Prop where
  names : ∀ n ∈ fs.workingDirectory, EntryName n
  directory : fs.entry? fs.workingDirectory = some .directory

theorem Anchored.plain (h : fs.Anchored) : ∀ n ∈ fs.workingDirectory, PlainName n :=
  fun n hn => (h.names n hn).1

/-! ## Relative paths -/

theorem Anchored.nul_mem_join_iff (h : fs.Anchored) (hp : p.isAbsolute = false) :
    0 ∈ ((Path.ofNames fs.workingDirectory).join p).bytes ↔ 0 ∈ p.bytes := by
  have hnames : 0 ∉ (Path.ofNames fs.workingDirectory).bytes :=
    Path.notMem_ofNames (by decide) fun n hn => (h.names n hn).2.2
  have hbase : 0 ∉ (Path.ofNames fs.workingDirectory).base := by
    unfold Path.base
    split
    · exact hnames
    · simpa [slash] using hnames
  rw [Path.join_eq _ hp, List.mem_append]
  exact or_iff_right hbase

/-- **What is canonical when it is joined to the working directory** is so as a relative path. -/
theorem Anchored.canonical_of_join (h : fs.Anchored) (hp : p.isAbsolute = false) (hne : p.bytes ≠ [])
    (hjoin : fs.canonical ((Path.ofNames fs.workingDirectory).join p) = .ok q) : fs.canonical p = .ok q := by
  obtain ⟨location, hfound, rfl⟩ := canonical_eq_ok_iff.1 hjoin
  obtain ⟨hnul, -, hwalk⟩ := followBy_eq_ok_iff.1 hfound
  refine canonical_eq_ok_iff.2 ⟨location, followBy_eq_ok_iff.2 ⟨?_, hne, ?_⟩, rfl⟩
  · exact mt (h.nul_mem_join_iff hp).2 hnul
  · rw [if_pos (Path.isAbsolute_join_ofNames fs.workingDirectory hp),
      Path.pieces_join_ofNames h.plain hp] at hwalk
    rw [hp, if_neg Bool.false_ne_true]
    -- the text before the first slash is empty, and then the working directory is entered
    change descendBy fs.byPath (walkBy fs.byPath 39) [] ([] :: (fs.workingDirectory ++ p.pieces)) = _ at hwalk
    rw [descendBy, if_pos (.inl rfl)] at hwalk
    exact descend_names_byPath h.plain h.directory hwalk

theorem Anchored.clean_join (h : fs.Anchored) (hp : p.isAbsolute = false) (hne : p.bytes ≠ []) :
    ((Path.ofNames fs.workingDirectory).join p).clean fs.workingDirectory = p.clean fs.workingDirectory := by
  have hjoined := Path.bytes_ne_nil_of_isAbsolute (Path.isAbsolute_join_ofNames fs.workingDirectory hp)
  unfold Path.clean
  rw [if_neg hne, if_neg hjoined, Path.namesFrom_join h.plain hp]

/-- A relative path that cannot be made canonical has the normal form of the joined path. -/
theorem Anchored.normalize_join (h : fs.Anchored) (hp : p.isAbsolute = false) (hne : p.bytes ≠ [])
    (hmissing : fs.canonical p = .error fault) :
    fs.normalize ((Path.ofNames fs.workingDirectory).join p) = fs.normalize p := by
  rw [normalize_of_error hmissing, ← h.clean_join hp hne]
  cases hjoin : fs.canonical ((Path.ofNames fs.workingDirectory).join p) with
  | error other => exact normalize_of_error hjoin
  | ok q =>
    rw [h.canonical_of_join hp hne hjoin] at hmissing
    cases hmissing

/-! ## Paths that cannot be made canonical -/

/-- **How a path that is not there is spelled makes no difference.**  The working directory is a directory with
a canonical path, and a path that is not empty cannot be made canonical.  Then its normal form is spelled by
plain names from the root, so it is absolute and has no `.`, no `..` and no superfluous slash.  It is the normal
form of every other spelling that is not empty and cannot be made canonical, and of the path joined to the
working directory, if it is relative.  And it is a spelling of that path itself. -/
theorem normalize_respelled (h : fs.Anchored) (hne : p.bytes ≠ [])
    (hmissing : fs.canonical p = .error fault) :
    (∃ names, (∀ n ∈ names, PlainName n) ∧ fs.normalize p = .ofNames names) ∧
    (∀ q other, Path.Respelled p q → q.bytes ≠ [] → fs.canonical q = .error other →
      fs.normalize q = fs.normalize p) ∧
    (p.isAbsolute = false →
      fs.normalize ((Path.ofNames fs.workingDirectory).join p) = fs.normalize p) ∧
    Path.Respelled ((Path.ofNames fs.workingDirectory).join p) (fs.normalize p) := by
  have hclean := normalize_of_error hmissing
  refine ⟨?_, fun q other hq hqne hqmissing => ?_, fun hp => h.normalize_join hp hne hmissing, ?_⟩
  · rw [hclean]
    unfold Path.clean
    rw [if_neg hne]
    exact ⟨_, Path.plainName_of_mem_namesFrom h.plain, rfl⟩
  · rw [hclean, normalize_of_error hqmissing]
    exact (hq.clean hne hqne fs.workingDirectory).symm
  · cases hp : p.isAbsolute with
    | true =>
      have hjoin : (Path.ofNames fs.workingDirectory).join p = p := if_pos hp
      rw [hjoin, hclean]
      exact Path.respelled_clean hp fs.workingDirectory
    | false =>
      rw [hclean, ← h.clean_join hp hne]
      exact Path.respelled_clean (Path.isAbsolute_join_ofNames _ hp) _

/-- A disk that holds the working directory `/w` alone. -/
def workplace : FileSystem := ⟨[([119], .directory [])], [[119]]⟩

theorem anchored_workplace : workplace.Anchored :=
  ⟨by unfold EntryName PlainName; decide, rfl⟩

/-- A path that is not there, one of its respellings, and the same path from the root. -/
theorem normalize_respelled_small :
    workplace.canonical (.ofString "a") = .error .notFound ∧
    Path.Respelled (.ofString "a") (.ofString "b/../a/") ∧
    workplace.normalize (.ofString "b/../a/") = .ofString "/w/a" ∧
    workplace.normalize (.ofString "/w/a") = .ofString "/w/a" ∧
    Path.Respelled (.ofString "/w/a") (.ofString "/w/a") := by
  have hmissing : workplace.canonical (.ofString "a") = .error .notFound := by decide +kernel
  have hplain : workplace.normalize (.ofString "a") = .ofString "/w/a" := by decide +kernel
  have hrespelled : Path.Respelled (.ofString "a") (.ofString "b/../a/") := by
    have hfirst := Path.Respelling.first (.ofString "a") _ (.back [98] (by unfold PlainName; decide))
      (by decide +kernel)
    have htrailing := Path.Respelling.trailing (.ofString "b/../a") (by decide +kernel)
    exact hfirst.respelled.trans htrailing.respelled
  obtain ⟨-, hspelled, hjoined, hsame⟩ :=
    normalize_respelled anchored_workplace (p := .ofString "a") (by decide +kernel) hmissing
  refine ⟨hmissing, hrespelled, ?_, ?_, ?_⟩
  · exact (hspelled _ .notFound hrespelled (by decide +kernel) (by decide +kernel)).trans hplain
  · exact (hjoined (by decide +kernel)).trans hplain
  · exact hplain ▸ hsame

end LibraryPaths.FileSystem

import LibraryPaths.Proofs.Library.Growth

/-!
# Additions while the disk changes

Every addition finds the disk as it is at its moment.  Whatever it finds, a library is a list that is only
appended to and never repeats itself, and a path that was added once is known for as long as the disk stays as
it was then: the path that was stored for it, or in its place, is still there.

* `add_cases`: what one addition does;
* `prefix_addEach`, `apart_addEach`: what a run of additions keeps;
* `grows_addEach`: an addition that is made again;
* `add_appends`: all of it together.
-/

set_option autoImplicit false

namespace LibraryPaths.Library

variable {fs : FileSystem} {library : Library} {p : Path}

/-- The library with paths added one after the other, each under the file system of its moment. -/
def addEach (library : Library) (additions : List (FileSystem × Path)) : Library :=
  additions.foldl (fun library (fs, p) => library.add fs p) library

/-! ## One addition -/

/-- An addition changes nothing and says so, or puts the normal form of the path behind the others. -/
theorem add_cases (fs : FileSystem) (library : Library) (p : Path) :
    (library.grows fs p = false ∧ library.add fs p = library) ∨
      (library.grows fs p = true ∧ library.add fs p ≠ library ∧
        (library.add fs p).paths = library.paths ++ [fs.normalize p]) := by
  cases h : library.grows fs p with
  | false => exact .inl ⟨rfl, add_of_not_grows h⟩
  | true =>
    have hpaths := paths_add_of_grows h
    refine .inr ⟨rfl, fun hsame => ?_, hpaths⟩
    rw [hsame] at hpaths
    simp at hpaths

/-! ## Runs of additions -/

theorem prefix_addEach (library : Library) (additions : List (FileSystem × Path)) :
    library.paths <+: (library.addEach additions).paths := by
  induction additions generalizing library with
  | nil => exact List.prefix_rfl
  | cons addition rest ih => exact (prefix_add addition.1 library addition.2).trans (ih _)

theorem apart_addEach (additions : List (FileSystem × Path)) (h : Apart library.paths) :
    Apart (library.addEach additions).paths := by
  induction additions generalizing library with
  | nil => exact h
  | cons addition rest ih => exact ih (apart_add addition.1 addition.2 h)

/-- **An addition that is made again**, on the disk as it was, finds the path known. -/
theorem grows_addEach (fs : FileSystem) (library : Library) (p : Path)
    (between : List (FileSystem × Path)) :
    ((library.add fs p).addEach between).grows fs p = false :=
  grows_of_prefix (prefix_addEach _ between) (grows_add fs library p)

/-! ## All of it -/

/-- **Additions append.**  After any additions, under whatever file systems, a library holds no two paths with
the same components.  One more addition keeps the list as it was in front; it tells that the library grew
exactly if it put one path behind the others, and that path is the normal form of the one that was added, on
the disk of that moment.  Made again on the same disk, after any additions in between, it tells that nothing
grew, and changes nothing. -/
theorem add_appends (before between : List (FileSystem × Path)) (fs : FileSystem) (p : Path) :
    Apart (empty.addEach before).paths ∧
    (empty.addEach before).paths <+: ((empty.addEach before).add fs p).paths ∧
    ((empty.addEach before).grows fs p = true ↔
      ∃ q, ((empty.addEach before).add fs p).paths = (empty.addEach before).paths ++ [q]) ∧
    ((empty.addEach before).grows fs p = true ↔
      ((empty.addEach before).add fs p).paths =
        (empty.addEach before).paths ++ [fs.normalize p]) ∧
    ((empty.addEach before).grows fs p = false ↔
      (empty.addEach before).add fs p = empty.addEach before) ∧
    (((empty.addEach before).add fs p).addEach between).grows fs p = false ∧
    (((empty.addEach before).add fs p).addEach between).add fs p =
      ((empty.addEach before).add fs p).addEach between := by
  refine ⟨apart_addEach before List.Pairwise.nil, prefix_add fs _ p, ?_, ?_, ?_,
    grows_addEach fs _ p between, add_of_not_grows (grows_addEach fs _ p between)⟩
  all_goals
    rcases add_cases fs (empty.addEach before) p with ⟨hgrows, hadd⟩ | ⟨hgrows, hne, hpaths⟩
  · simp [hgrows, hadd]
  · simp [hgrows, hpaths]
  · simp [hgrows, hadd]
  · simp [hgrows, hpaths]
  · simp [hgrows, hadd]
  · simp [hgrows, hne]

end LibraryPaths.Library

import LibraryPaths.Proofs.Library.Distinct

/-!
# How libraries grow

Adding a path to a library leaves it as it was or puts one path behind the others, and afterwards the path
is known for good:

* `prefix_add`, `grows_add`: what one addition does;
* `grows_of_prefix`: a path that a library knows stays known while the library grows;
* `prefix_addAll`, `mem_addAll`, `grows_addAll`, `apart_addAll`, `exists_sublist_addAll`: what many additions
  do.
-/

set_option autoImplicit false

namespace LibraryPaths.Library

variable {fs : FileSystem} {library next : Library} {p : Path}

/-- A path does not make a library grow iff a stored path is the same, as spelled or in normal form. -/
theorem not_grows_iff :
    library.grows fs p = false ↔
      ∃ q ∈ library.paths, q.same p = true ∨ q.same (fs.normalize p) = true := by
  unfold grows holds holdsPath
  rw [← Bool.not_or, Bool.not_eq_false', Bool.or_eq_true, List.any_eq_true, List.any_eq_true]
  constructor
  · rintro (⟨q, hq, h⟩ | ⟨q, hq, h⟩)
    · exact ⟨q, hq, .inl h⟩
    · exact ⟨q, hq, .inr h⟩
  · rintro ⟨q, hq, h | h⟩
    · exact .inl ⟨q, hq, h⟩
    · exact .inr ⟨q, hq, h⟩

/-- A path that is held as spelled is not looked up on disk. -/
theorem not_grows_of_holds (fs : FileSystem) (h : library.holds p = true) :
    library.grows fs p = false := by
  unfold grows
  rw [h]
  rfl

/-- A path in normal form is known iff it is held as spelled. -/
theorem grows_of_normal (h : fs.normalize p = p) : library.grows fs p = !library.holds p := by
  unfold grows
  rw [h, Bool.and_self]

theorem add_of_not_grows (h : library.grows fs p = false) : library.add fs p = library := by
  simp [add, h]

theorem paths_add_of_grows (h : library.grows fs p = true) :
    (library.add fs p).paths = library.paths ++ [fs.normalize p] := by
  simp [add, h]

theorem prefix_add (fs : FileSystem) (library : Library) (p : Path) :
    library.paths <+: (library.add fs p).paths := by
  unfold add
  split
  · exact List.prefix_append _ _
  · exact List.prefix_rfl

/-- An addition stores nothing but the normal form of its path. -/
theorem mem_add {q : Path} (h : q ∈ (library.add fs p).paths) :
    q ∈ library.paths ∨ q = fs.normalize p := by
  cases hgrows : library.grows fs p with
  | false => exact .inl (add_of_not_grows hgrows ▸ h)
  | true =>
    rw [paths_add_of_grows hgrows] at h
    exact (List.mem_append.1 h).imp_right List.mem_singleton.1

/-- An addition does not store a path twice. -/
theorem apart_add (fs : FileSystem) (p : Path) (h : Apart library.paths) :
    Apart (library.add fs p).paths := by
  cases hgrows : library.grows fs p with
  | false => rw [add_of_not_grows hgrows]; exact h
  | true =>
    have hnew : library.holds (fs.normalize p) = false := by
      unfold grows at hgrows
      rw [Bool.and_eq_true] at hgrows
      simpa using hgrows.2
    rw [paths_add_of_grows hgrows]
    exact h.concat hnew

/-- A path that was added is known. -/
theorem grows_add (fs : FileSystem) (library : Library) (p : Path) :
    (library.add fs p).grows fs p = false := by
  cases h : library.grows fs p with
  | false => rw [add_of_not_grows h, h]
  | true =>
    refine not_grows_iff.2 ⟨fs.normalize p, ?_, .inr (Path.same_iff.2 rfl)⟩
    rw [paths_add_of_grows h]
    simp

/-- What a library knows it knows however it grows. -/
theorem grows_of_prefix (hp : library.paths <+: next.paths) (h : library.grows fs p = false) :
    next.grows fs p = false := by
  obtain ⟨q, hq, hqp⟩ := not_grows_iff.1 h
  exact not_grows_iff.2 ⟨q, hp.subset hq, hqp⟩

/-! ## Many additions -/

theorem addAll_cons (fs : FileSystem) (library : Library) (p : Path) (ps : List Path) :
    library.addAll fs (p :: ps) = (library.add fs p).addAll fs ps := rfl

theorem addAll_append (fs : FileSystem) (library : Library) (ps qs : List Path) :
    library.addAll fs (ps ++ qs) = (library.addAll fs ps).addAll fs qs :=
  List.foldl_append

theorem prefix_addAll (fs : FileSystem) (library : Library) (ps : List Path) :
    library.paths <+: (library.addAll fs ps).paths := by
  induction ps generalizing library with
  | nil => exact List.prefix_rfl
  | cons p ps ih => exact (prefix_add fs library p).trans (ih _)

/-- Additions store nothing but the normal forms of their paths. -/
theorem mem_addAll {ps : List Path} {q : Path} (h : q ∈ (library.addAll fs ps).paths) :
    q ∈ library.paths ∨ ∃ p ∈ ps, q = fs.normalize p := by
  induction ps generalizing library with
  | nil => exact .inl h
  | cons p ps ih =>
    rcases ih h with h | ⟨r, hr, hq⟩
    · exact (mem_add h).imp_right fun hq => ⟨p, List.mem_cons_self, hq⟩
    · exact .inr ⟨r, List.mem_cons_of_mem _ hr, hq⟩

/-- Whatever was added is known. -/
theorem grows_addAll {ps : List Path} (h : p ∈ ps) : (library.addAll fs ps).grows fs p = false := by
  induction ps generalizing library with
  | nil => cases h
  | cons q ps ih =>
    rcases List.mem_cons.1 h with rfl | h
    · exact grows_of_prefix (prefix_addAll fs _ ps) (grows_add fs library p)
    · exact ih h

/-- Additions do not store a path twice. -/
theorem apart_addAll (ps : List Path) (h : Apart library.paths) :
    Apart (library.addAll fs ps).paths := by
  induction ps generalizing library with
  | nil => exact h
  | cons p ps ih => exact ih (apart_add fs p h)

/-- **What is added stands in the order in which it came**, behind what was there. -/
theorem exists_sublist_addAll (fs : FileSystem) (library : Library) (ps : List Path) :
    ∃ added, (library.addAll fs ps).paths = library.paths ++ added ∧
      added.Sublist (ps.map fs.normalize) := by
  induction ps generalizing library with
  | nil => exact ⟨[], (List.append_nil _).symm, .slnil⟩
  | cons p ps ih =>
    obtain ⟨added, hpaths, hsub⟩ := ih (library.add fs p)
    rw [addAll_cons, hpaths, List.map_cons]
    cases hgrows : library.grows fs p with
    | false => exact ⟨added, by rw [add_of_not_grows hgrows], hsub.cons _⟩
    | true =>
      refine ⟨fs.normalize p :: added, ?_, hsub.cons_cons _⟩
      rw [paths_add_of_grows hgrows, List.append_assoc, List.singleton_append]

end LibraryPaths.Library

import LibraryPaths.FileSystem.Normal

/-!
# Reading entries by their paths

A canonical path is made by reading every entry on the way by its own path.  The entries are those that are
there in place, so both ways of following a path come to the same, unless a path on the way is too long.

* `descendBy_related`: two ways of following texts;
* `walk_byPath_cases`: following texts by paths and in place;
* `canonical_cases`: the canonical path spells where a path leads, or a path on the way is too long;
* `exists_follow_of_canonical`, `normalize_cases`: what canonical paths and normal forms spell.
-/

set_option autoImplicit false

namespace LibraryPaths.FileSystem

variable {fs : FileSystem} {p q : Path} {here location : Location}

/-- **What it takes to follow a path**: it is not empty and has no octet 0, and its texts are followed from the
root or from the working directory. -/
theorem followBy_eq_ok_iff {read : Reading} {landing : Landing} :
    fs.followBy read p = .ok landing ↔ 0 ∉ p.bytes ∧ p.bytes ≠ [] ∧
      walkBy read maxLinks (if p.isAbsolute then [] else fs.workingDirectory) p.pieces = .ok landing := by
  unfold followBy
  by_cases hnul : 0 ∈ p.bytes
  · simp [hnul]
  by_cases hempty : p.bytes = []
  · simp [hempty]
  · simp [hnul, hempty]

theorem follow_eq_ok_iff {landing : Landing} :
    fs.follow p = .ok landing ↔ 0 ∉ p.bytes ∧ p.bytes ≠ [] ∧
      fs.walk maxLinks (if p.isAbsolute then [] else fs.workingDirectory) p.pieces = .ok landing :=
  followBy_eq_ok_iff

/-! ## Two ways of following texts -/

section Related

variable {read other : Reading} {R : Except IoError Landing → Except IoError Landing → Prop}

/-- **Two ways of following texts have related results**, if what they come to behind links is related and where
they read an entry differently, the first of them fails with something that is related to everything. -/
theorem descendBy_related {follow further : Location → List Name → Except IoError Landing}
    (hsame : ∀ result, R result result)
    (hread : ∀ location rest, read location rest = other location rest ∨
      ∃ fault, read location rest = .error fault ∧ ∀ result, R (.error fault) result)
    (hfollow : ∀ here xs, R (follow here xs) (further here xs)) (here : Location) (xs : List Name) :
    R (descendBy read follow here xs) (descendBy other further here xs) := by
  induction xs generalizing here with
  | nil => exact hsame _
  | cons piece rest ih =>
    rw [descendBy, descendBy]
    by_cases hfiller : piece = [] ∨ piece = [dot]
    · rw [if_pos hfiller, if_pos hfiller]
      exact ih _
    rw [if_neg hfiller, if_neg hfiller]
    by_cases hup : piece = [dot, dot]
    · rw [if_pos hup, if_pos hup]
      exact ih _
    rw [if_neg hup, if_neg hup]
    by_cases hlong : maxName < piece.length
    · rw [if_pos hlong, if_pos hlong]
      exact hsame _
    rw [if_neg hlong, if_neg hlong]
    rcases hread (here ++ [piece]) rest with hagree | ⟨fault, hfails, hrelated⟩
    · rw [hagree]
      cases other (here ++ [piece]) rest with
      | error fault => exact hsame _
      | ok entry =>
        cases entry with
        | none => exact hsame _
        | some entry =>
          cases entry with
          | directory => exact ih _
          | file content => exact hsame _
          | link target => exact hfollow _ _
    · rw [hfails]
      exact hrelated _

theorem walkBy_related (hsame : ∀ result, R result result)
    (hread : ∀ location rest, read location rest = other location rest ∨
      ∃ fault, read location rest = .error fault ∧ ∀ result, R (.error fault) result)
    (links : Nat) (here : Location) (xs : List Name) :
    R (walkBy read links here xs) (walkBy other links here xs) := by
  induction links generalizing here xs with
  | zero => exact descendBy_related hsame hread (fun _ _ => hsame _) here xs
  | succ links ih => exact descendBy_related hsame hread ih here xs

end Related

/-! ## By paths and in place -/

/-- What is read by a path is what is there, unless the path is too long. -/
theorem byPath_cases (fs : FileSystem) (location : Location) (rest : List Name) :
    fs.byPath location rest = .ok (fs.entry? location) ∨ fs.byPath location rest = .error .nameTooLong := by
  unfold byPath
  split
  · exact .inr rfl
  · exact .inl rfl

/-- **Following texts by paths** comes to what it comes to in place, or a path is too long. -/
theorem walk_byPath_cases (links : Nat) (here : Location) (xs : List Name) :
    walkBy fs.byPath links here xs = fs.walk links here xs ∨
      walkBy fs.byPath links here xs = .error .nameTooLong := by
  refine walkBy_related (R := fun byPaths inPlaces => byPaths = inPlaces ∨ byPaths = .error .nameTooLong)
    (fun _ => .inl rfl) (fun location rest => ?_) links here xs
  rcases fs.byPath_cases location rest with hread | hread
  · exact .inl hread
  · exact .inr ⟨.nameTooLong, hread, fun _ => .inr rfl⟩

theorem followBy_byPath_cases (fs : FileSystem) (p : Path) :
    fs.followBy fs.byPath p = fs.follow p ∨ fs.followBy fs.byPath p = .error .nameTooLong := by
  unfold follow followBy
  split
  · exact .inl rfl
  split
  · exact .inl rfl
  · exact walk_byPath_cases _ _ _

/-! ## Canonical paths -/

/-- **The canonical path spells where a path leads**, or a path on the way is too long. -/
theorem canonical_cases (fs : FileSystem) (p : Path) :
    fs.canonical p = Path.ofNames <$> (fs.follow p >>= Landing.location) ∨
      fs.canonical p = .error .nameTooLong := by
  unfold canonical
  rcases fs.followBy_byPath_cases p with h | h
  · rw [h]
    exact .inl (bind_pure_comp _ _)
  · rw [h]
    exact .inr rfl

theorem canonical_eq_ok_iff :
    fs.canonical p = .ok q ↔
      ∃ location, fs.followBy fs.byPath p = .ok (.found location) ∧ q = .ofNames location := by
  unfold canonical
  cases fs.followBy fs.byPath p with
  | error fault => simp [bind, Except.bind]
  | ok landing =>
    cases landing with
    | missing directory name => simp [bind, Except.bind, Landing.location]
    | found location =>
      simp only [bind, Except.bind, Landing.location, pure, Except.pure, Except.ok.injEq, Landing.found.injEq,
        exists_eq_left']
      exact eq_comm

/-- A canonical path spells where the path leads. -/
theorem exists_follow_of_canonical (h : fs.canonical p = .ok q) :
    ∃ location, fs.follow p = .ok (.found location) ∧ q = .ofNames location := by
  obtain ⟨location, hfound, rfl⟩ := canonical_eq_ok_iff.1 h
  refine ⟨location, ?_, rfl⟩
  rcases fs.followBy_byPath_cases p with hsame | hlong
  · rw [← hsame, hfound]
  · rw [hlong] at hfound
    cases hfound

/-- The canonical path of what exists spells its place, or a path on the way is too long. -/
theorem canonical_of_follow (h : fs.follow p = .ok (.found location)) :
    fs.canonical p = .ok (.ofNames location) ∨ fs.canonical p = .error .nameTooLong := by
  rcases fs.canonical_cases p with hcanonical | hlong
  · rw [hcanonical, h]
    exact .inl rfl
  · exact .inr hlong

/-! ## Normal forms -/

theorem normalize_of_ok (h : fs.canonical p = .ok q) : fs.normalize p = q := by
  unfold normalize
  rw [h]

theorem normalize_of_error {fault : IoError} (h : fs.canonical p = .error fault) :
    fs.normalize p = p.clean fs.workingDirectory := by
  unfold normalize
  rw [h]

/-- The normal form of a path that has a canonical one spells where it leads. -/
theorem normalize_of_canonical_of_follow (h : fs.canonical p = .ok q)
    (hfollow : fs.follow p = .ok (.found location)) : fs.normalize p = .ofNames location := by
  obtain ⟨other, hother, rfl⟩ := exists_follow_of_canonical h
  obtain rfl : other = location := Landing.found.inj (Except.ok.inj (hother.symm.trans hfollow))
  exact normalize_of_ok h

/-- A normal form spells where the path leads, or is the path cleaned. -/
theorem normalize_cases (fs : FileSystem) (p : Path) :
    (∃ location, fs.follow p = .ok (.found location) ∧ fs.normalize p = .ofNames location) ∨
      fs.normalize p = p.clean fs.workingDirectory := by
  cases h : fs.canonical p with
  | error fault => exact .inr (normalize_of_error h)
  | ok canonical =>
    rw [normalize_of_ok h]
    exact .inl (exists_follow_of_canonical h)

end LibraryPaths.FileSystem

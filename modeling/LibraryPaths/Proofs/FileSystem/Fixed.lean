import LibraryPaths.Proofs.FileSystem.Cleaned
import LibraryPaths.Proofs.FileSystem.Fillers

/-!
# Paths that are their own normal form

The normal form of an existing path is its own normal form: its names lead where the path does.  The clean form
of a path that cannot be made canonical need not be, since it may exist although the path does not.  How a path
is spelled between its names hardly matters: all that a longer spelling can do is to have no canonical path.

* `follow_ofNames`: a place is reached by its own names;
* `normalize_of_components`: the normal forms of the spellings of a plain path;
* `normalize_normalize_iff`: which normal forms are their own normal forms.
-/

set_option autoImplicit false

namespace LibraryPaths.FileSystem

variable {fs : FileSystem} {p q : Path} {location : Location}

/-! ## Following names again -/

/-- **A place where no link lies is reached by its own names.** -/
theorem follow_ofNames (hnames : ∀ n ∈ location, EntryName n) (hsettled : fs.Settled location) :
    fs.follow (.ofNames location) = .ok (.found location) := by
  obtain ⟨entry, hentry, hlink⟩ := hsettled
  rcases List.eq_nil_or_concat location with rfl | ⟨d, n, rfl⟩
  · exact follow_ofNames_eq (by simp) (by simp)
  rw [List.concat_eq_append] at hnames hentry ⊢
  obtain ⟨hplain, hshort, hnul⟩ := hnames n (by simp)
  have hd : fs.entry? d = some .directory := entry?_of_append (by simp) hentry
  rw [follow_ofNames_append hd (fun m hm => hnames m (List.mem_append_left _ hm))
    (List.forall_mem_singleton.2 hplain) (List.forall_mem_singleton.2 hnul)]
  change fs.descend (fs.walk 39) d [n] = _
  obtain ⟨hnil, hdot, hup, -⟩ := hplain
  rw [descend_cons, if_neg (by simp [hnil, hdot]), if_neg hup, if_neg (Nat.not_lt.2 hshort), hentry]
  cases entry with
  | directory => rfl
  | file content => rfl
  | link target => exact absurd rfl (hlink target)

/-- **The normal forms of the spellings of a plain path**: the one that the path has itself, or the path, if
nothing is found by the longer spelling. -/
theorem normalize_of_components (fs : FileSystem) (hq : q.Plain) (hcomponents : p.components = q.components) :
    fs.normalize p = fs.normalize q ∨ fs.normalize p = q := by
  cases hp : fs.canonical p with
  | error fault =>
    rw [normalize_of_error hp, Path.clean_of_components hcomponents, Path.clean_of_plain hq]
    exact .inr rfl
  | ok canonical =>
    rcases hq with hempty | ⟨names, hnames, rfl⟩
    · obtain ⟨location, hfollow, -⟩ := exists_follow_of_canonical hp
      have hpempty := Path.components_eq_nil_iff.1 (hcomponents.trans (Path.components_eq_nil_iff.2 hempty))
      exact absurd hpempty (follow_eq_ok_iff.1 hfollow).2.1
    · left
      rw [normalize_of_ok hp, normalize_of_ok (canonical_ofNames_of_components hnames hcomponents hp)]

/-! ## Normal forms taken twice -/

/-- A canonical path is its own normal form. -/
theorem Anchored.normalize_canonical (h : fs.Anchored) (hp : fs.canonical p = .ok q) :
    fs.normalize q = q := by
  obtain ⟨location, hfollow, rfl⟩ := exists_follow_of_canonical hp
  have hsettled := settled_of_follow (fun _ => h.directory) hfollow
  exact normalize_ofNames (plainName_of_follow h.plain hfollow) hsettled

/-- **Which normal forms are their own normal forms**: all but those of a path that cannot be made canonical
though its clean form can, and is not canonical yet. -/
theorem Anchored.normalize_normalize_iff (h : fs.Anchored) (p : Path) :
    fs.normalize (fs.normalize p) = fs.normalize p ↔
      ∀ fault canonical, fs.canonical p = .error fault →
        fs.canonical (p.clean fs.workingDirectory) = .ok canonical →
        canonical = p.clean fs.workingDirectory := by
  have hplain := plain_normalize h.plain p
  cases hp : fs.canonical p with
  | ok canonical =>
    simp [normalize_of_ok hp, h.normalize_canonical hp]
  | error fault =>
    rw [normalize_of_error hp] at hplain ⊢
    cases hclean : fs.canonical (p.clean fs.workingDirectory) with
    | error other => simp [normalize_of_error hclean, Path.clean_of_plain hplain]
    | ok canonical => simp [normalize_of_ok hclean]

end LibraryPaths.FileSystem

import LibraryPaths.Proofs.Path.Spelling

/-!
# Normal forms settle

Taking the normal form of a normal form need not give it back: a path that does not exist is cleaned by its
spelling, and what is left may lead to a symbolic link.  But taken once more nothing changes.  A path that was
followed to its end is spelled by names none of which stands for a link, so following it again ends at the
same place; a plain path that cannot be followed is clean already.

* `settled_of_follow`: where a path leads lies no link;
* `normalize_ofNames`: a plain path to such a place is its own normal form;
* `normalize_normalize`: the normal form of a plain path is its own normal form;
* `normalize_empty`: on an empty disk every plain path is.
-/

set_option autoImplicit false

namespace LibraryPaths

namespace Path

/-- A plain path is clean. -/
theorem clean_of_plain {p : Path} (h : p.Plain) (start : List Name) : p.clean start = p := by
  have hfold : ∀ (names before : List Name),
      (names.map Component.name).foldl stepNames before = before ++ names := by
    intro names
    induction names with
    | nil => simp
    | cons n names ih =>
      intro before
      rw [List.map_cons, List.foldl_cons, ih]
      simp [stepNames]
  unfold clean
  rcases h with hempty | ⟨names, hnames, rfl⟩
  · rw [if_pos hempty]
  · rw [if_neg (by simp [ofNames]), namesFrom, components_ofNames hnames, List.foldl_cons, hfold]
    rfl

end Path

namespace FileSystem

variable {fs : FileSystem} {here location names : Location} {pieces : List Name} {entry : Entry}

/-- At a location lies something that is no link. -/
def Settled (fs : FileSystem) (location : Location) : Prop :=
  ∃ entry, fs.entry? location = some entry ∧ ∀ target, entry ≠ .link target

theorem entry?_nil (fs : FileSystem) : fs.entry? [] = some .directory := by
  unfold entry?
  rw [Node.find?_nil]
  rfl

/-- What has something below it is a directory. -/
theorem entry?_of_append {below : Location} (hbelow : below ≠ [])
    (h : fs.entry? (location ++ below) = some entry) : fs.entry? location = some .directory := by
  obtain ⟨node, hnode, -⟩ := Option.map_eq_some_iff.1 h
  cases below with
  | nil => exact absurd rfl hbelow
  | cons name rest =>
    rw [List.append_cons, Node.find?_append] at hnode
    obtain ⟨inner, hinner, -⟩ := Option.bind_eq_some_iff.1 hnode
    obtain ⟨members, hdirectory⟩ := Node.isDirectory_of_find?_concat hinner
    unfold entry?
    rw [hdirectory]
    rfl

/-- On the way to a directory every name stands for one. -/
theorem entry?_of_cons {name : Name} {rest : List Name}
    (h : fs.entry? (here ++ name :: rest) = some .directory) : fs.entry? (here ++ [name]) = some .directory := by
  cases rest with
  | nil => exact h
  | cons next rest =>
    rw [List.append_cons] at h
    exact entry?_of_append (by simp) h

theorem entry?_dropLast (h : fs.entry? here = some .directory) :
    fs.entry? here.dropLast = some .directory := by
  rcases List.eq_nil_or_concat here with rfl | ⟨before, name, rfl⟩
  · exact h
  · rw [List.concat_eq_append] at h ⊢
    rw [List.dropLast_concat]
    exact entry?_of_append (by simp) h

/-! ## Where a path leads -/

/-- Following texts from a directory never ends at a link. -/
theorem settled_of_descend {follow : Location → List Name → Except IoError Landing}
    (hfollow : ∀ here pieces, fs.entry? here = some .directory →
      follow here pieces = .ok (.found location) → fs.Settled location)
    (hhere : fs.entry? here = some .directory)
    (h : fs.descend follow here pieces = .ok (.found location)) : fs.Settled location := by
  induction pieces generalizing here with
  | nil =>
    obtain rfl : here = location := by simpa using h
    exact ⟨.directory, hhere, by simp⟩
  | cons piece rest ih =>
    rw [descend_cons] at h
    split at h
    · exact ih hhere h
    split at h
    · exact ih (entry?_dropLast hhere) h
    split at h
    · cases h
    split at h
    · split at h <;> cases h
    · rename_i hentry
      exact ih hentry h
    · rename_i content hentry
      split at h
      · obtain rfl : here ++ [piece] = location := by simpa using h
        exact ⟨.file content, hentry, by simp⟩
      · cases h
    · refine hfollow _ _ ?_ h
      split
      · exact entry?_nil fs
      · exact hhere

theorem settled_of_walk (links : Nat) (hhere : fs.entry? here = some .directory)
    (h : fs.walk links here pieces = .ok (.found location)) : fs.Settled location := by
  induction links generalizing here pieces with
  | zero => exact settled_of_descend (fun _ _ _ hnone => by cases hnone) hhere h
  | succ links ih => exact settled_of_descend (fun _ _ => ih) hhere h

/-- **A path that is read from a directory does not lead to a link.** -/
theorem settled_of_follow {p : Path}
    (hstart : p.isAbsolute = false → fs.entry? fs.workingDirectory = some .directory)
    (h : fs.follow p = .ok (.found location)) : fs.Settled location := by
  refine settled_of_walk maxLinks ?_ (follow_eq_ok_iff.1 h).2.2
  cases habsolute : p.isAbsolute with
  | true => exact entry?_nil fs
  | false => exact hstart habsolute

/-! ## Following a path again -/

/-- Names that lead to no link are followed to where they lead. -/
theorem eq_found_of_descend {follow : Location → List Name → Except IoError Landing} {landing : Landing}
    (hnames : ∀ n ∈ names, PlainName n) (hsettled : fs.Settled (here ++ names))
    (h : fs.descend follow here names = .ok landing) : landing = .found (here ++ names) := by
  induction names generalizing here with
  | nil =>
    obtain rfl : .found here = landing := by simpa using h
    rw [List.append_nil]
  | cons name rest ih =>
    obtain ⟨hnil, hdot, hup, -⟩ := hnames name List.mem_cons_self
    have hrest : ∀ n ∈ rest, PlainName n := fun n hn => hnames n (List.mem_cons_of_mem _ hn)
    rw [List.append_cons] at hsettled ⊢
    obtain ⟨entry, hentry, hlink⟩ := hsettled
    rw [descend_cons] at h
    rw [if_neg (by simp [hnil, hdot]), if_neg hup] at h
    split at h
    · cases h
    cases rest with
    | nil =>
      rw [List.append_nil] at hentry ⊢
      rw [hentry] at h
      cases entry with
      | directory =>
        obtain rfl : .found (here ++ [name]) = landing := by simpa using h
        rfl
      | file content =>
        obtain rfl : .found (here ++ [name]) = landing := by simpa using h
        rfl
      | link target => exact absurd rfl (hlink target)
    | cons next rest =>
      have hdirectory : fs.entry? (here ++ [name]) = some .directory :=
        entry?_of_append (by simp) hentry
      rw [hdirectory] at h
      exact ih hrest ⟨entry, hentry, hlink⟩ h

/-- The texts of a plain path are followed like its names. -/
theorem walkBy_pieces_ofNames (read : Reading) (hnames : ∀ n ∈ names, PlainName n) :
    walkBy read maxLinks [] (Path.ofNames names).pieces = walkBy read maxLinks [] names := by
  cases names with
  | nil => rfl
  | cons name rest =>
    -- the text before the first slash is empty
    rw [Path.pieces_ofNames hnames (by simp)]
    change descendBy read (walkBy read 39) [] ([] :: name :: rest) = _
    rw [descendBy, if_pos (.inl rfl)]
    rfl

/-- A plain path is followed along its names. -/
theorem walk_of_follow {landing : Landing} (hnames : ∀ n ∈ names, PlainName n)
    (h : fs.follow (.ofNames names) = .ok landing) : fs.walk maxLinks [] names = .ok landing := by
  have hpieces := (follow_eq_ok_iff.1 h).2.2
  exact (walkBy_pieces_ofNames fs.inPlace hnames).symm.trans hpieces

/-- A plain path to a place where no link lies leads there, if anywhere. -/
theorem eq_found_of_follow {landing : Landing} (hnames : ∀ n ∈ names, PlainName n)
    (hsettled : fs.Settled names) (h : fs.follow (.ofNames names) = .ok landing) :
    landing = .found names :=
  eq_found_of_descend hnames hsettled (walk_of_follow hnames h)

/-- A plain path to a place where no link lies is its own normal form. -/
theorem normalize_ofNames (hnames : ∀ n ∈ names, PlainName n) (hsettled : fs.Settled names) :
    fs.normalize (.ofNames names) = .ofNames names := by
  rcases normalize_cases fs (.ofNames names) with ⟨location, hfollow, hresult⟩ | hresult
  · obtain rfl : location = names := Landing.found.inj (eq_found_of_follow hnames hsettled hfollow)
    exact hresult
  · exact hresult.trans (Path.clean_of_plain (.inr ⟨names, hnames, rfl⟩) fs.workingDirectory)

/-- **The normal form of a plain path is its own normal form.** -/
theorem normalize_normalize (hwork : ∀ n ∈ fs.workingDirectory, PlainName n) {p : Path}
    (hplain : p.Plain) : fs.normalize (fs.normalize p) = fs.normalize p := by
  rcases normalize_cases fs p with ⟨location, hfollow, hresult⟩ | hresult
  · rcases hplain with hempty | ⟨names, hnames, rfl⟩
    · exact absurd hempty (follow_eq_ok_iff.1 hfollow).2.1
    · have hsettled := settled_of_follow (by simp [Path.isAbsolute_ofNames]) hfollow
      rw [hresult]
      exact normalize_ofNames (plainName_of_follow hwork hfollow) hsettled
  · -- a plain path is clean, so the path is its own normal form
    rw [Path.clean_of_plain hplain] at hresult
    rw [hresult, hresult]

/-- Where nothing is but the root, a plain path is its own normal form. -/
theorem normalize_empty {p : Path} (h : p.Plain) : empty.normalize p = p := by
  rcases normalize_cases empty p with ⟨location, hfollow, -⟩ | hresult
  · rcases h with hempty | ⟨names, hnames, rfl⟩
    · exact absurd hempty (follow_eq_ok_iff.1 hfollow).2.1
    cases names with
    | nil => exact normalize_ofNames hnames ⟨_, entry?_nil empty, fun _ => by simp⟩
    | cons name rest =>
      -- the first name leads nowhere
      obtain ⟨hnil, hdot, hup, -⟩ := hnames name List.mem_cons_self
      have hnone : empty.entry? ([] ++ [name]) = none := rfl
      have hdescend : empty.descend (empty.walk 39) [] (name :: rest) = .ok (.found location) :=
        walk_of_follow hnames hfollow
      rw [descend_cons, if_neg (by simp [hnil, hdot]), if_neg hup] at hdescend
      simp only [hnone] at hdescend
      split at hdescend
      · cases hdescend
      · split at hdescend <;> cases hdescend
  · exact hresult.trans (Path.clean_of_plain h _)

end FileSystem

end LibraryPaths

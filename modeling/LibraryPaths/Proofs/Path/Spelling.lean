import Mathlib.Data.List.Basic
import LibraryPaths.Proofs.FileSystem.ByPath
import LibraryPaths.Proofs.Library.Distinct

/-!
# Plainly spelled paths

A path is *plain* if it is empty or spells the way from the root with names only, one slash before each
(`Path.Plain`).  Plain paths that mean the same are spelled the same, and where the working directory has
plain names every normal form is plain.

* `components_ofNames`: the components of a plain path are the root and its names;
* `Plain.eq_of_same`, `eq_of_sameList`: plain paths with the same components are equal, and so are lists of
  them;
* `plain_normalize`: normal forms are plain.
-/

set_option autoImplicit false

namespace LibraryPaths

/-! ## Names -/

/-- A text that can stand between two slashes and is an ordinary name there. -/
def PlainName (n : Name) : Prop :=
  n ≠ [] ∧ n ≠ [dot] ∧ n ≠ [dot, dot] ∧ slash ∉ n

theorem ofPiece?_of_plainName {n : Name} (h : PlainName n) : Component.ofPiece? n = some (.name n) := by
  obtain ⟨hnil, hdot, hup, -⟩ := h
  simp [Component.ofPiece?, hnil, hdot, hup]

/-- Plain names between slashes are the components. -/
theorem filterMap_ofPiece? {names : List Name} (h : ∀ n ∈ names, PlainName n) :
    names.filterMap Component.ofPiece? = names.map .name := by
  induction names with
  | nil => rfl
  | cons n names ih =>
    rw [List.filterMap_cons, ofPiece?_of_plainName (h n List.mem_cons_self), List.map_cons,
      ih fun m hm => h m (List.mem_cons_of_mem _ hm)]

/-- A text without slashes stands for a plain name, if for a name at all. -/
theorem plainName_of_ofPiece? {piece n : Name} (hslash : slash ∉ piece)
    (h : Component.ofPiece? piece = some (.name n)) : PlainName n := by
  unfold Component.ofPiece? at h
  split at h
  · cases h
  rename_i hfiller
  split at h
  · cases h
  rename_i hup
  obtain rfl : piece = n := by simpa using h
  exact ⟨fun hnil => hfiller (.inl hnil), fun hdot => hfiller (.inr hdot), hup, hslash⟩

/-- No separator is left in a piece. -/
theorem not_sep_of_mem_splitOnP {α : Type} {sep : α → Bool} {xs piece : List α} {x : α}
    (hpiece : piece ∈ xs.splitOnP sep) (hx : x ∈ piece) : sep x = false := by
  induction xs generalizing piece with
  | nil =>
    obtain rfl : piece = [] := by simpa using hpiece
    cases hx
  | cons y ys ih =>
    rw [List.splitOnP_cons_eq_if_modifyHead] at hpiece
    by_cases hy : sep y = true
    · rw [if_pos hy] at hpiece
      rcases List.mem_cons.1 hpiece with rfl | hpiece
      · cases hx
      · exact ih hpiece hx
    · rw [if_neg hy] at hpiece
      cases hys : ys.splitOnP sep with
      | nil => exact absurd hys (List.splitOnP_ne_nil sep ys)
      | cons first pieces =>
        rw [hys] at hpiece ih
        rcases List.mem_cons.1 hpiece with rfl | hpiece
        · rcases List.mem_cons.1 hx with rfl | hx
          · simpa using hy
          · exact ih List.mem_cons_self hx
        · exact ih (List.mem_cons_of_mem _ hpiece) hx

theorem slash_notMem_of_mem_pieces {p : Path} {piece : Name} (h : piece ∈ p.pieces) : slash ∉ piece := by
  intro hmem
  have hsep := not_sep_of_mem_splitOnP h hmem
  simp at hsep

/-! ## Plain paths -/

namespace Path

/-- A path that is empty or spelled by names from the root. -/
def Plain (p : Path) : Prop :=
  p.bytes = [] ∨ ∃ names, (∀ n ∈ names, PlainName n) ∧ p = ofNames names

/-- Between the slashes of a plain path stand its names, after an empty text. -/
theorem pieces_ofNames {names : List Name} (h : ∀ n ∈ names, PlainName n) (hne : names ≠ []) :
    (ofNames names).pieces = [] :: names := by
  have hsplit : (ofNames names).pieces = [] :: ([slash].intercalate names).splitOn slash := by
    simp [pieces, ofNames, List.splitOn_cons_eq_if_modifyHead]
  rw [hsplit, List.splitOn_intercalate slash (fun n hn => (h n hn).2.2.2) hne]

theorem isAbsolute_ofNames (names : List Name) : (ofNames names).isAbsolute = true := rfl

/-- The components of a plain path are the root and its names. -/
theorem components_ofNames {names : List Name} (h : ∀ n ∈ names, PlainName n) :
    (ofNames names).components = .root :: names.map .name := by
  cases names with
  | nil => rfl
  | cons n names =>
    unfold components
    rw [pieces_ofNames h (by simp)]
    simp [componentsOfPieces, filterMap_ofPiece? h]

/-- **Plain paths that mean the same are spelled the same.** -/
theorem Plain.eq_of_same {p q : Path} (hp : p.Plain) (hq : q.Plain)
    (h : p.components = q.components) : p = q := by
  have hempty : ∀ r : Path, r.bytes = [] → r.components = [] := by
    intro r hr
    simp [components, pieces, hr, componentsOfPieces]
  rcases hp with hp | ⟨names, hnames, rfl⟩
  · rcases hq with hq | ⟨names, hnames, rfl⟩
    · cases p; cases q; simp_all
    · rw [hempty p hp, components_ofNames hnames] at h
      cases h
  · rcases hq with hq | ⟨others, hothers, rfl⟩
    · rw [hempty q hq, components_ofNames hnames] at h
      cases h
    · rw [components_ofNames hnames, components_ofNames hothers] at h
      have hnames' : names = others :=
        List.map_injective_iff.2 (fun a b hab => Component.name.inj hab) (List.cons.inj h).2
      rw [hnames']

end Path

/-! ## Lists of plain paths -/

theorem eq_of_map_eq_map {α β : Type} {f : α → β} {xs ys : List α}
    (hinj : ∀ x ∈ xs, ∀ y ∈ ys, f x = f y → x = y) (h : xs.map f = ys.map f) : xs = ys := by
  induction xs generalizing ys with
  | nil => exact (List.map_eq_nil_iff.1 h.symm).symm
  | cons x xs ih =>
    cases ys with
    | nil => cases h
    | cons y ys =>
      rw [List.map_cons, List.map_cons] at h
      obtain ⟨hhead, htail⟩ := List.cons.inj h
      rw [hinj x List.mem_cons_self y List.mem_cons_self hhead,
        ih (fun a ha b hb => hinj a (List.mem_cons_of_mem _ ha) b (List.mem_cons_of_mem _ hb)) htail]

/-- Lists of plain paths that are the same place by place are equal. -/
theorem eq_of_sameList {ps qs : List Path} (hps : ∀ p ∈ ps, p.Plain) (hqs : ∀ q ∈ qs, q.Plain)
    (h : Path.sameList ps qs = true) : ps = qs :=
  eq_of_map_eq_map (fun p hp q hq => (hps p hp).eq_of_same (hqs q hq)) (sameList_iff.1 h)

/-! ## Normal forms -/

namespace Path

theorem plainName_of_mem_components {p : Path} {n : Name} (h : .name n ∈ p.components) :
    PlainName n := by
  have hpieces : ∀ piece ∈ p.pieces, slash ∉ piece := fun piece => slash_notMem_of_mem_pieces
  unfold components at h
  cases hp : p.pieces with
  | nil => simp [hp, componentsOfPieces] at h
  | cons first rest =>
    rw [hp] at h hpieces
    have htail : .name n ∈ rest.filterMap Component.ofPiece? → PlainName n := by
      intro hmem
      obtain ⟨piece, hpiece, heq⟩ := List.mem_filterMap.1 hmem
      exact plainName_of_ofPiece? (hpieces piece (List.mem_cons_of_mem _ hpiece)) heq
    unfold componentsOfPieces at h
    simp only at h
    split at h
    · split at h
      · cases h
      · exact htail (by simpa using h)
    · split at h
      · exact htail (by simpa using h)
      · rcases List.mem_append.1 h with h | h
        · exact plainName_of_ofPiece? (hpieces first List.mem_cons_self) (by simpa using h)
        · exact htail h

theorem plainName_of_mem_namesFrom {start : List Name} {p : Path}
    (hstart : ∀ n ∈ start, PlainName n) : ∀ n ∈ p.namesFrom start, PlainName n := by
  have hfold : ∀ (components : List Component) (names : List Name),
      (∀ n, .name n ∈ components → PlainName n) → (∀ n ∈ names, PlainName n) →
      ∀ n ∈ components.foldl stepNames names, PlainName n := by
    intro components
    induction components with
    | nil => exact fun names _ hnames => hnames
    | cons c components ih =>
      intro names hcomponents hnames
      refine ih _ (fun n hn => hcomponents n (List.mem_cons_of_mem _ hn)) ?_
      cases c with
      | root => intro n hn; cases hn
      | here => exact hnames
      | up => exact fun n hn => hnames n (List.dropLast_subset _ hn)
      | name m =>
        intro n hn
        rcases List.mem_append.1 hn with hn | hn
        · exact hnames n hn
        · rw [List.mem_singleton.1 hn]
          exact hcomponents m List.mem_cons_self
  exact hfold _ _ (fun n => plainName_of_mem_components) hstart

end Path

namespace FileSystem

variable {fs : FileSystem} {here location : Location} {pieces : List Name}

/-- What passes from the texts of a path and of the links on its way to the names that it leads to: each of
them was a text that is followed down. -/
structure Carries (fs : FileSystem) (Text Good : Name → Prop) : Prop where
  links : ∀ location target, fs.entry? location = some (.link target) → ∀ piece ∈ target.pieces, Text piece
  names : ∀ piece, Text piece → piece ≠ [] → piece ≠ [dot] → piece ≠ [dot, dot] →
    piece.length ≤ maxName → Good piece

variable {Text Good : Name → Prop}

/-- Following texts from a directory of good names leads to good names only. -/
theorem names_of_descend {follow : Location → List Name → Except IoError Landing}
    (hcarries : fs.Carries Text Good)
    (hfollow : ∀ here pieces, (∀ n ∈ here, Good n) → (∀ piece ∈ pieces, Text piece) →
      follow here pieces = .ok (.found location) → ∀ n ∈ location, Good n)
    (hhere : ∀ n ∈ here, Good n) (hpieces : ∀ piece ∈ pieces, Text piece)
    (h : fs.descend follow here pieces = .ok (.found location)) : ∀ n ∈ location, Good n := by
  induction pieces generalizing here with
  | nil =>
    obtain rfl : here = location := by simpa using h
    exact hhere
  | cons piece rest ih =>
    have hrest : ∀ p ∈ rest, Text p := fun p hp => hpieces p (List.mem_cons_of_mem _ hp)
    rw [descend_cons] at h
    split at h
    · exact ih hhere hrest h
    rename_i hfiller
    split at h
    · exact ih (fun n hn => hhere n (List.dropLast_subset _ hn)) hrest h
    rename_i hup
    split at h
    · cases h
    rename_i hlong
    have hpiece : Good piece :=
      hcarries.names piece (hpieces piece List.mem_cons_self) (fun hnil => hfiller (.inl hnil))
        (fun hdot => hfiller (.inr hdot)) hup (Nat.le_of_not_lt hlong)
    have hnext : ∀ n ∈ here ++ [piece], Good n := by
      intro n hn
      rcases List.mem_append.1 hn with hn | hn
      · exact hhere n hn
      · rw [List.mem_singleton.1 hn]
        exact hpiece
    split at h
    · split at h <;> cases h
    · exact ih hnext hrest h
    · split at h
      · obtain rfl : here ++ [piece] = location := by simpa using h
        exact hnext
      · cases h
    · rename_i target hentry
      refine hfollow _ _ ?_ ?_ h
      · split
        · intro n hn; cases hn
        · exact hhere
      · intro p hp
        rcases List.mem_append.1 hp with hp | hp
        · exact hcarries.links _ target hentry p hp
        · exact hrest p hp

theorem names_of_walk (hcarries : fs.Carries Text Good) (links : Nat) (hhere : ∀ n ∈ here, Good n)
    (hpieces : ∀ piece ∈ pieces, Text piece)
    (h : fs.walk links here pieces = .ok (.found location)) : ∀ n ∈ location, Good n := by
  induction links generalizing here pieces with
  | zero => exact names_of_descend hcarries (fun _ _ _ _ hnone => by cases hnone) hhere hpieces h
  | succ links ih => exact names_of_descend hcarries (fun _ _ => ih) hhere hpieces h

theorem names_of_follow {p : Path} (hcarries : fs.Carries Text Good)
    (hwork : ∀ n ∈ fs.workingDirectory, Good n) (hpieces : ∀ piece ∈ p.pieces, Text piece)
    (h : fs.follow p = .ok (.found location)) : ∀ n ∈ location, Good n := by
  refine names_of_walk hcarries maxLinks ?_ hpieces (follow_eq_ok_iff.1 h).2.2
  split
  · intro n hn; cases hn
  · exact hwork

/-- Texts without slashes lead to plain names. -/
theorem carries_plainName (fs : FileSystem) : fs.Carries (slash ∉ ·) PlainName where
  links _ _ _ _ := slash_notMem_of_mem_pieces
  names _ hslash hnil hdot hup _ := ⟨hnil, hdot, hup, hslash⟩

theorem plainName_of_follow {p : Path} (hwork : ∀ n ∈ fs.workingDirectory, PlainName n)
    (h : fs.follow p = .ok (.found location)) : ∀ n ∈ location, PlainName n :=
  names_of_follow fs.carries_plainName hwork (fun _ => slash_notMem_of_mem_pieces) h

/-- **Where the working directory has plain names, normal forms are plain.** -/
theorem plain_normalize (hwork : ∀ n ∈ fs.workingDirectory, PlainName n) (p : Path) :
    (fs.normalize p).Plain := by
  rcases normalize_cases fs p with ⟨location, hfollow, hresult⟩ | hresult
  · exact .inr ⟨location, plainName_of_follow hwork hfollow, hresult⟩
  · rw [hresult, Path.clean]
    split
    · rename_i hempty
      exact .inl hempty
    · exact .inr ⟨_, Path.plainName_of_mem_namesFrom hwork, rfl⟩

end FileSystem

end LibraryPaths

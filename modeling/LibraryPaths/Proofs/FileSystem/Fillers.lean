import LibraryPaths.Proofs.FileSystem.Directories

/-!
# Fillers on the way of a canonical path

Doubled slashes and the segment `.` leave no component, and leaving them out keeps the canonical path of what
has one.  All that a filler does is to ask whether a directory is before it, and only where no name comes later:
in front of a name it makes no difference at all.

* `Thinned`, `walk_thinned`: what is found is found without some of the fillers;
* `walk_filter`: texts that end with a name are followed as they are without fillers;
* `canonical_of_components`: the canonical path of paths that end with a name depends on their components only;
* `canonical_ofNames_of_components`: the canonical path of a plain path is that of its other spellings.
-/

set_option autoImplicit false

namespace LibraryPaths

namespace Path

/-- Texts from which some fillers are left out. -/
inductive Thinned : List Name → List Name → Prop
  | nil : Thinned [] []
  | keep (piece : Name) {xs ys : List Name} (h : Thinned xs ys) : Thinned (piece :: xs) (piece :: ys)
  | drop {piece : Name} {xs ys : List Name} (hfiller : isFiller piece = true) (h : Thinned xs ys) :
      Thinned (piece :: xs) ys

variable {xs ys : List Name} {piece : Name}

theorem thinned_filter (xs : List Name) : Thinned xs (xs.filter (!isFiller ·)) := by
  induction xs with
  | nil => exact .nil
  | cons piece xs ih =>
    cases hfiller : isFiller piece with
    | true =>
      rw [List.filter_cons_of_neg (by simp [hfiller])]
      exact .drop hfiller ih
    | false =>
      rw [List.filter_cons_of_pos (by simp [hfiller])]
      exact .keep piece ih

theorem Thinned.append_left (front : List Name) (h : Thinned xs ys) : Thinned (front ++ xs) (front ++ ys) := by
  induction front with
  | nil => exact h
  | cons piece front ih => exact .keep piece ih

/-- The first text that leaves a component is not left out. -/
theorem Thinned.find?_eq (h : Thinned xs ys) : ys.find? (!isFiller ·) = xs.find? (!isFiller ·) := by
  induction h with
  | nil => rfl
  | keep piece _ ih =>
    rw [List.find?_cons, List.find?_cons, ih]
  | drop hfiller _ ih => rw [List.find?_cons_of_neg (by simp [hfiller]), ih]

/-- Texts the last of which leaves a component. -/
def EndsSolid (xs : List Name) : Prop := ∃ n, xs.getLast? = some n ∧ isFiller n = false

theorem EndsSolid.append_left (front : List Name) (h : EndsSolid xs) : EndsSolid (front ++ xs) := by
  obtain ⟨n, hlast, hn⟩ := h
  exact ⟨n, by rw [List.getLast?_append, hlast]; rfl, hn⟩

theorem EndsSolid.of_cons (h : EndsSolid (piece :: xs)) (hne : xs ≠ []) : EndsSolid xs := by
  obtain ⟨n, hlast, hn⟩ := h
  rw [List.getLast?_cons_of_ne_nil hne] at hlast
  exact ⟨n, hlast, hn⟩

theorem EndsSolid.filter (h : EndsSolid xs) : EndsSolid (xs.filter (!isFiller ·)) := by
  obtain ⟨n, hlast, hn⟩ := h
  obtain ⟨front, rfl⟩ := List.getLast?_eq_some_iff.1 hlast
  exact ⟨n, by simp [hn], hn⟩

theorem EndsSolid.ne_nil (h : EndsSolid xs) : xs ≠ [] := by
  rintro rfl
  obtain ⟨n, hlast, -⟩ := h
  cases hlast

end Path

namespace FileSystem

variable {fs : FileSystem} {p q : Path} {here location names : Location} {xs ys : List Name} {entry : Option Entry}
  {follow : Location → List Name → Except IoError Landing}

/-! ## What is read behind an entry -/

theorem octetsBehind_le_of_thinned (entry : Option Entry) (h : Path.Thinned xs ys) :
    octetsBehind entry ys ≤ octetsBehind entry xs := by
  have hnil : xs = [] → ys = [] := by
    rintro rfl
    cases h
    rfl
  unfold octetsBehind
  rw [h.find?_eq]
  split
  · exact Nat.le_refl _
  · split
    · exact Nat.zero_le _
    · rename_i hys
      rw [if_neg (mt hnil hys)]
  · exact Nat.le_refl _
  · exact Nat.le_refl _

/-- Without some of the fillers an entry is read as before. -/
theorem byPath_thinned (hthinned : Path.Thinned xs ys) (h : fs.byPath location xs = .ok entry) :
    fs.byPath location ys = .ok entry := by
  have hle := octetsBehind_le_of_thinned (fs.entry? location) hthinned
  unfold byPath at h ⊢
  split at h
  · cases h
  · rwa [if_neg (by omega)]

/-- In front of a name no filler is read. -/
theorem byPath_filter (location : Location) (h : Path.EndsSolid xs) :
    fs.byPath location (xs.filter (!Path.isFiller ·)) = fs.byPath location xs := by
  have hnext : octetsBehind (fs.entry? location) (xs.filter (!Path.isFiller ·)) =
      octetsBehind (fs.entry? location) xs := by
    unfold octetsBehind
    rw [(Path.thinned_filter xs).find?_eq, if_neg h.ne_nil, if_neg h.filter.ne_nil]
  unfold byPath
  rw [hnext]

/-! ## Leaving out fillers -/

/-- Whatever is found is found without some of the fillers, if it is so behind links. -/
theorem descend_thinned
    (hfollow : ∀ here xs ys, Path.Thinned xs ys →
      follow here xs = .ok (.found location) → follow here ys = .ok (.found location))
    (hthinned : Path.Thinned xs ys) (h : descendBy fs.byPath follow here xs = .ok (.found location)) :
    descendBy fs.byPath follow here ys = .ok (.found location) := by
  induction hthinned generalizing here with
  | nil => exact h
  | drop hfiller _ ih =>
    rw [descendBy, if_pos (by simpa [Path.isFiller] using hfiller)] at h
    exact ih h
  | @keep piece xs ys hthinned ih =>
    rw [descendBy] at h ⊢
    by_cases hfiller : piece = [] ∨ piece = [dot]
    · rw [if_pos hfiller] at h ⊢
      exact ih h
    rw [if_neg hfiller] at h ⊢
    by_cases hup : piece = [dot, dot]
    · rw [if_pos hup] at h ⊢
      exact ih h
    rw [if_neg hup] at h ⊢
    by_cases hlong : maxName < piece.length
    · rw [if_pos hlong] at h
      cases h
    rw [if_neg hlong] at h ⊢
    cases hread : fs.byPath (here ++ [piece]) xs with
    | error fault =>
      rw [hread] at h
      cases h
    | ok entry =>
      rw [hread] at h
      rw [byPath_thinned hthinned hread]
      cases entry with
      | none =>
        simp only at h
        split at h <;> cases h
      | some entry =>
        cases entry with
        | directory => exact ih h
        | file content =>
          -- behind a file nothing is left, and nothing can be left out
          cases hthinned with
          | nil => exact h
          | _ => simp at h
        | link target => exact hfollow _ _ _ (hthinned.append_left target.pieces) h

/-- **Whatever is found is found without some of the fillers.** -/
theorem walk_thinned (links : Nat) (hthinned : Path.Thinned xs ys)
    (h : walkBy fs.byPath links here xs = .ok (.found location)) :
    walkBy fs.byPath links here ys = .ok (.found location) := by
  induction links generalizing here xs ys with
  | zero => exact descend_thinned (fun _ _ _ _ hnone => by cases hnone) hthinned h
  | succ links ih => exact descend_thinned (fun _ _ _ => ih) hthinned h

/-- Texts that end with a name are followed as they are without fillers, if it is so behind links. -/
theorem descend_filter
    (hfollow : ∀ here xs ys, Path.EndsSolid xs → Path.EndsSolid ys →
      xs.filter (!Path.isFiller ·) = ys.filter (!Path.isFiller ·) → follow here xs = follow here ys)
    (h : Path.EndsSolid xs) :
    descendBy fs.byPath follow here (xs.filter (!Path.isFiller ·)) = descendBy fs.byPath follow here xs := by
  induction xs generalizing here with
  | nil => exact absurd rfl h.ne_nil
  | cons piece rest ih =>
    rcases eq_or_ne rest [] with rfl | hmore
    · obtain ⟨n, hlast, hn⟩ := h
      obtain rfl : piece = n := Option.some.inj hlast
      rw [List.filter_cons_of_pos (by simp [hn]), List.filter_nil]
    have hrest := h.of_cons hmore
    by_cases hfiller : piece = [] ∨ piece = [dot]
    · have hskip : Path.isFiller piece = true := by simpa [Path.isFiller] using hfiller
      rw [List.filter_cons_of_neg (by simp [hskip]), ih hrest, descendBy, if_pos hfiller]
    have hkeep : Path.isFiller piece = false := by simpa [Path.isFiller] using hfiller
    rw [List.filter_cons_of_pos (by simp [hkeep]), descendBy, descendBy, if_neg hfiller, if_neg hfiller,
      ih hrest, ih hrest, byPath_filter _ hrest, if_neg hmore, if_neg hmore, if_neg hrest.filter.ne_nil,
      if_neg hrest.filter.ne_nil]
    have hlinks : ∀ (next : Location) (target : Path),
        follow next (target.pieces ++ rest.filter (!Path.isFiller ·)) = follow next (target.pieces ++ rest) :=
      fun next target => hfollow _ _ _ (hrest.filter.append_left _) (hrest.append_left _) (by simp)
    simp only [hlinks]

/-- **Texts that end with a name are followed as they are without fillers.** -/
theorem walk_filter (links : Nat) (h : Path.EndsSolid xs) :
    walkBy fs.byPath links here (xs.filter (!Path.isFiller ·)) = walkBy fs.byPath links here xs := by
  induction links generalizing here xs with
  | zero => exact descend_filter (fun _ _ _ _ _ _ => rfl) h
  | succ links ih =>
    exact descend_filter (fun here xs ys hxs hys heq => by rw [← ih hxs, heq, ih hys]) h

/-! ## Canonical paths of the same components -/

/-- **The canonical path of a path that ends with a name** depends on its components only. -/
theorem canonical_of_components (hp : Path.EndsSolid p.pieces) (hq : Path.EndsSolid q.pieces)
    (hpnul : 0 ∉ p.bytes) (hqnul : 0 ∉ q.bytes) (h : p.components = q.components) :
    fs.canonical p = fs.canonical q := by
  have hne : ∀ r : Path, Path.EndsSolid r.pieces → r.bytes ≠ [] := by
    rintro r ⟨n, hlast, hn⟩ hempty
    have hpieces : r.pieces = [[]] := by simp [Path.pieces, hempty]
    obtain rfl : [] = n := by simpa [hpieces] using hlast
    cases hn
  unfold canonical followBy
  rw [if_neg hpnul, if_neg hqnul, if_neg (hne p hp), if_neg (hne q hq), ← walk_filter maxLinks hp,
    ← walk_filter maxLinks hq, Path.filter_pieces, Path.filter_pieces, Path.isAbsolute_eq, Path.isAbsolute_eq, h]

/-- **The canonical path of a plain path** is that of every path with its components that has one. -/
theorem canonical_ofNames_of_components (hnames : ∀ n ∈ names, PlainName n)
    (hcomponents : p.components = (Path.ofNames names).components) (h : fs.canonical p = .ok q) :
    fs.canonical (.ofNames names) = .ok q := by
  rw [Path.components_ofNames hnames] at hcomponents
  have habsolute : p.isAbsolute = true := by
    rw [Path.isAbsolute_eq, hcomponents]
    rfl
  have hpieces : p.pieces.filter (!Path.isFiller ·) = names := by
    have hpiece : Component.piece? ∘ Component.name = some := rfl
    rw [Path.filter_pieces, hcomponents, List.filterMap_cons_none rfl, List.filterMap_map, hpiece,
      List.filterMap_some]
  obtain ⟨location, hfound, rfl⟩ := canonical_eq_ok_iff.1 h
  obtain ⟨hnul, -, hwalk⟩ := followBy_eq_ok_iff.1 hfound
  rw [if_pos habsolute] at hwalk
  have hthin := walk_thinned maxLinks (Path.thinned_filter p.pieces) hwalk
  rw [hpieces] at hthin
  refine canonical_eq_ok_iff.2 ⟨location, ?_, rfl⟩
  rw [followBy_ofNames fs.byPath hnames, hthin]
  intro n hn hzero
  rw [← hpieces] at hn
  exact hnul (Path.mem_bytes_of_mem_pieces (List.mem_filter.1 hn).1 hzero)

end FileSystem

end LibraryPaths

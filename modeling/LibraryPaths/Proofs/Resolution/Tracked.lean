import LibraryPaths.Proofs.Association
import LibraryPaths.Proofs.Library.Growth
import LibraryPaths.Resolution.Scan

/-!
# What a scan leaves behind

A name is *tracked* (`Tracked`) when it has been resolved and its root, if it has one, is in the library
being filled.

* `tracked_run`: after a scan every name referenced in the lines is tracked;
* `Tracked.run`: what was tracked before a scan is tracked after it, whatever the lines;
* `find?_run`: a name that is known after a scan was known before or is referenced in the lines;
* `changed_run_iff`: a scan reports a change iff it made the library longer;
* `alike_run`: lines that refer to tracked names only can be left out of a scan.
-/

set_option autoImplicit false

namespace LibraryPaths

/-- A name has been resolved, and a library knows its root if it has one. -/
def Tracked (fs : FileSystem) (resolutions : Resolutions) (library : Library) (name : String) : Prop :=
  ∃ answer, resolutions.find? name = some answer ∧
    ∀ root, answer.root? = some root → library.grows fs root = false

namespace Resolutions

variable {places : Places} {resolutions : Resolutions} {name n : String} {answer : Resolution}

theorem resolve_of_find? (places : Places) (h : resolutions.find? name = some answer) :
    resolutions.resolve places name = (resolutions, answer) := by
  unfold resolve
  rw [h]

theorem find?_lookUp (places : Places) (hn : resolutions.find? name = none) (n : String) :
    (resolutions.lookUp places name).1.find? n =
      if n = name then some (resolutions.lookUp places name).2 else resolutions.find? n := by
  unfold lookUp
  split
  · exact Association.lookup_concat resolutions.known name n _ hn
  · split
    · exact Association.lookup_concat resolutions.known name n _ hn
    · exact Association.lookup_concat resolutions.known name n _ hn

/-- Resolving a name makes its answer known and changes nothing about other names. -/
theorem find?_resolve (places : Places) (resolutions : Resolutions) (name n : String) :
    (resolutions.resolve places name).1.find? n =
      if n = name then some (resolutions.resolve places name).2 else resolutions.find? n := by
  unfold resolve
  cases h : resolutions.find? name with
  | some answer =>
    by_cases hn : n = name
    · subst hn; simp [h]
    · simp [hn]
  | none => exact find?_lookUp places h n

theorem find?_resolve_of_some (h : resolutions.find? n = some answer) :
    (resolutions.resolve places name).1.find? n = some answer := by
  rw [find?_resolve]
  by_cases hn : n = name
  · subst hn
    rw [if_pos rfl, resolve_of_find? places h]
  · rw [if_neg hn, h]

end Resolutions

namespace Scan

variable {places : Places} {scan : Scan} {resolutions : Resolutions} {library : Library}
  {name n : String} {lines : List String}

/-! ## One reference -/

theorem resolutions_note (places : Places) (scan : Scan) (name : String) :
    (scan.note places name).resolutions = (scan.resolutions.resolve places name).1 := by
  unfold note
  simp only
  split <;> rfl

/-- The library after a reference: filled with the root of the name, if it has one. -/
theorem filled_note (places : Places) (scan : Scan) (name : String) :
    (scan.note places name).library =
      match (scan.resolutions.resolve places name).2.root? with
      | none => scan.library
      | some root => scan.library.add places.files root := by
  unfold note
  simp only
  split <;> simp_all

/-- A reference counts as an addition iff it has a root that the library does not know. -/
theorem counted_note (places : Places) (scan : Scan) (name : String) :
    (scan.note places name).added =
      match (scan.resolutions.resolve places name).2.root? with
      | none => scan.added
      | some root => scan.added + if scan.library.grows places.files root then 1 else 0 := by
  unfold note
  simp only
  split <;> simp_all

/-- A reference adds the root of its name, if it adds anything. -/
theorem exists_addAll_note (places : Places) (scan : Scan) (name : String) :
    ∃ ps, (scan.note places name).library = scan.library.addAll places.files ps := by
  rw [filled_note]
  split
  · exact ⟨[], rfl⟩
  · exact ⟨[_], rfl⟩

theorem prefix_note (places : Places) (scan : Scan) (name : String) :
    scan.library.paths <+: (scan.note places name).library.paths := by
  obtain ⟨ps, hfilled⟩ := exists_addAll_note places scan name
  rw [hfilled]
  exact Library.prefix_addAll _ _ _

/-- A reference that was noted is tracked. -/
theorem tracked_note (places : Places) (scan : Scan) (name : String) :
    Tracked places.files (scan.note places name).resolutions (scan.note places name).library name := by
  refine ⟨(scan.resolutions.resolve places name).2, ?_, ?_⟩
  · rw [resolutions_note, Resolutions.find?_resolve, if_pos rfl]
  · intro root hroot
    rw [filled_note, hroot]
    exact Library.grows_add _ _ _

/-- What is counted is by how much the library has grown. -/
theorem length_note (places : Places) (scan : Scan) (name : String) :
    (scan.note places name).library.paths.length + scan.added =
      scan.library.paths.length + (scan.note places name).added := by
  rw [filled_note, counted_note]
  cases (scan.resolutions.resolve places name).2.root? with
  | none => rfl
  | some root =>
    simp only
    cases h : scan.library.grows places.files root with
    | false => rw [Library.add_of_not_grows h]; rfl
    | true =>
      rw [Library.paths_add_of_grows h, List.length_append, List.length_singleton]
      simp only [if_true]
      omega

end Scan

/-! ## A whole scan -/

theorem Tracked.note {fs : FileSystem} {places : Places} {scan : Scan} {n : String}
    (h : Tracked fs scan.resolutions scan.library n) (name : String) :
    Tracked fs (scan.note places name).resolutions (scan.note places name).library n := by
  obtain ⟨answer, hfind, hroot⟩ := h
  refine ⟨answer, ?_, ?_⟩
  · rw [Scan.resolutions_note]
    exact Resolutions.find?_resolve_of_some hfind
  · intro root hr
    exact Library.grows_of_prefix (Scan.prefix_note places scan name) (hroot root hr)

namespace Scan

variable {places : Places} {resolutions : Resolutions} {library : Library} {name : String}
  {lines : List String}

theorem tracked_foldl_of_tracked {fs : FileSystem} (names : List String) (scan : Scan)
    (h : Tracked fs scan.resolutions scan.library name) :
    Tracked fs (names.foldl (note places) scan).resolutions (names.foldl (note places) scan).library
      name := by
  induction names generalizing scan with
  | nil => exact h
  | cons first names ih => exact ih _ (h.note first)

theorem tracked_foldl (names : List String) (scan : Scan) (h : name ∈ names) :
    Tracked places.files (names.foldl (note places) scan).resolutions
      (names.foldl (note places) scan).library name := by
  induction names generalizing scan with
  | nil => cases h
  | cons first names ih =>
    rcases List.mem_cons.1 h with rfl | h
    · exact tracked_foldl_of_tracked names _ (tracked_note places scan name)
    · exact ih _ h

theorem exists_addAll_foldl (names : List String) (scan : Scan) :
    ∃ ps, (names.foldl (note places) scan).library = scan.library.addAll places.files ps := by
  induction names generalizing scan with
  | nil => exact ⟨[], rfl⟩
  | cons first names ih =>
    obtain ⟨ps, hfirst⟩ := exists_addAll_note places scan first
    obtain ⟨qs, hrest⟩ := ih (scan.note places first)
    refine ⟨ps ++ qs, ?_⟩
    rw [List.foldl_cons, hrest, hfirst, Library.addAll_append]

theorem find?_foldl (names : List String) (scan : Scan) (h : name ∉ names) :
    (names.foldl (note places) scan).resolutions.find? name = scan.resolutions.find? name := by
  induction names generalizing scan with
  | nil => rfl
  | cons first names ih =>
    have hne : name ≠ first := fun he => h (he ▸ List.mem_cons_self)
    have hrest : name ∉ names := fun hm => h (List.mem_cons_of_mem _ hm)
    rw [List.foldl_cons, ih _ hrest, resolutions_note, Resolutions.find?_resolve, if_neg hne]

theorem find?_foldl_of_some {answer : Resolution} (names : List String) (scan : Scan)
    (h : scan.resolutions.find? name = some answer) :
    (names.foldl (note places) scan).resolutions.find? name = some answer := by
  induction names generalizing scan with
  | nil => exact h
  | cons first names ih =>
    refine ih _ ?_
    rw [resolutions_note]
    exact Resolutions.find?_resolve_of_some h

theorem length_foldl (names : List String) (scan : Scan) :
    (names.foldl (note places) scan).library.paths.length + scan.added =
      scan.library.paths.length + (names.foldl (note places) scan).added := by
  induction names generalizing scan with
  | nil => rfl
  | cons first names ih =>
    have hfirst := length_note places scan first
    have hrest := ih (scan.note places first)
    rw [List.foldl_cons]
    omega

/-- **After a scan every referenced name is tracked.** -/
theorem tracked_run (h : name ∈ Reference.namesInLines lines) :
    Tracked places.files (run places resolutions library lines).resolutions
      (run places resolutions library lines).library name :=
  tracked_foldl _ _ h

/-- **A scan does to its library what some additions do.** -/
theorem exists_addAll_run (places : Places) (resolutions : Resolutions) (library : Library)
    (lines : List String) :
    ∃ ps, (run places resolutions library lines).library = library.addAll places.files ps :=
  exists_addAll_foldl _ (start resolutions library)

theorem prefix_run (places : Places) (resolutions : Resolutions) (library : Library)
    (lines : List String) : library.paths <+: (run places resolutions library lines).library.paths := by
  obtain ⟨ps, hfilled⟩ := exists_addAll_run places resolutions library lines
  rw [hfilled]
  exact Library.prefix_addAll _ _ _

/-- A scan changes what is known about a name only if the lines refer to it. -/
theorem find?_run (h : name ∉ Reference.namesInLines lines) :
    (run places resolutions library lines).resolutions.find? name = resolutions.find? name :=
  find?_foldl _ _ h

/-- What is known about a name stays. -/
theorem find?_run_of_some {answer : Resolution} (h : resolutions.find? name = some answer)
    (lines : List String) :
    (run places resolutions library lines).resolutions.find? name = some answer :=
  find?_foldl_of_some _ (start resolutions library) h

/-- A scan reports a change iff it made the library longer. -/
theorem changed_run_iff :
    (run places resolutions library lines).changed = true ↔
      library.paths.length < (run places resolutions library lines).library.paths.length := by
  have hlength : (run places resolutions library lines).library.paths.length + 0 =
      library.paths.length + (run places resolutions library lines).added :=
    length_foldl (Reference.namesInLines lines) (start resolutions library)
  rw [changed, bne_iff_ne]
  omega

/-- A scan that reports no change left the library as it was. -/
theorem library_run_of_not_changed (h : (run places resolutions library lines).changed = false) :
    (run places resolutions library lines).library = library := by
  have hgrown := prefix_run places resolutions library lines
  have hlength := hgrown.length_le
  have hnot : ¬ library.paths.length < (run places resolutions library lines).library.paths.length := by
    rw [← changed_run_iff, h]
    exact Bool.false_ne_true
  exact congrArg Library.mk (hgrown.eq_of_length (by omega)).symm

end Scan

/-! ## Lines that need not be scanned -/

namespace Scan

variable {places : Places} {scan s t : Scan} {resolutions : Resolutions} {library : Library}
  {name : String} {names : List String}

/-- Scans that differ at most in the number of references seen. -/
structure Alike (s t : Scan) : Prop where
  resolutions : s.resolutions = t.resolutions
  library : s.library = t.library
  added : s.added = t.added

theorem Alike.trans {u : Scan} (h : Alike s t) (h' : Alike t u) : Alike s u :=
  ⟨h.resolutions.trans h'.resolutions, h.library.trans h'.library, h.added.trans h'.added⟩

theorem Alike.changed (h : Alike s t) : s.changed = t.changed := by
  unfold Scan.changed
  rw [h.added]

/-- A tracked name is only counted. -/
theorem alike_note_of_tracked (h : Tracked places.files scan.resolutions scan.library name) :
    Alike (scan.note places name) scan := by
  obtain ⟨answer, hfind, hroot⟩ := h
  have hresolve := Resolutions.resolve_of_find? places hfind
  refine ⟨?_, ?_, ?_⟩
  · rw [resolutions_note, hresolve]
  · rw [filled_note, hresolve]
    cases hanswer : answer.root? with
    | none => rfl
    | some root => exact Library.add_of_not_grows (hroot root hanswer)
  · rw [counted_note, hresolve]
    cases hanswer : answer.root? with
    | none => rfl
    | some root => simp [hroot root hanswer]

theorem alike_foldl_of_tracked (names : List String) (scan : Scan)
    (h : ∀ name ∈ names, Tracked places.files scan.resolutions scan.library name) :
    Alike (names.foldl (note places) scan) scan := by
  induction names generalizing scan with
  | nil => exact ⟨rfl, rfl, rfl⟩
  | cons first names ih =>
    refine (ih _ fun name hname => ?_).trans (alike_note_of_tracked (h first List.mem_cons_self))
    exact (h name (List.mem_cons_of_mem _ hname)).note first

theorem Alike.foldl (h : Alike s t) (names : List String) :
    Alike (names.foldl (note places) s) (names.foldl (note places) t) := by
  induction names generalizing s t with
  | nil => exact h
  | cons first names ih =>
    refine ih ⟨?_, ?_, ?_⟩
    · rw [resolutions_note, resolutions_note, h.resolutions]
    · rw [filled_note, filled_note, h.resolutions, h.library]
    · rw [counted_note, counted_note, h.resolutions, h.library, h.added]

end Scan

/-- A scan for a library keeps what is tracked for it. -/
theorem Tracked.run {fs : FileSystem} {places : Places} {resolutions : Resolutions}
    {library : Library} {name : String} (h : Tracked fs resolutions library name)
    (lines : List String) :
    Tracked fs (Scan.run places resolutions library lines).resolutions
      (Scan.run places resolutions library lines).library name :=
  Scan.tracked_foldl_of_tracked _ (Scan.start resolutions library) h

end LibraryPaths

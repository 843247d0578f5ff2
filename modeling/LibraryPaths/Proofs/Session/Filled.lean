import LibraryPaths.Proofs.Session.Picture

/-!
# What events leave in the libraries

Events only fill libraries.  A picture *tracks* a name for a scope (`Picture.Tracks`) when the name has been
resolved and its root, if it has one, is in the library of the scope.

* `exists_addAll_after`: to each library an event does what some additions do, so it removes and reorders
  nothing;
* `library_after_of_not_signals`: an event that does not begin the quiet window anew leaves every library as
  it was;
* `tracks_after_of_reads`: every name referenced in lines that an event reads is tracked afterwards;
* `Tracks.after`: what is tracked stays tracked.
-/

set_option autoImplicit false

namespace LibraryPaths.Picture

variable {picture : Picture} {event : Event} {scope s : Scope} {lines : List String} {name : String}

/-- A name has been resolved, and the library of a scope knows its root if it has one. -/
def Tracks (picture : Picture) (scope : Scope) (name : String) : Prop :=
  Tracked picture.files picture.resolutions (picture.library scope) name

/-! ## Filling one library -/

theorem library_withLibrary (picture : Picture) (scope s : Scope) (library : Library) :
    (picture.withLibrary scope library).library s =
      if s = scope then library else picture.library s := rfl

theorem library_fill (picture : Picture) (scope s : Scope) (lines : List String) :
    (picture.fill scope lines).library s =
      if s = scope then (picture.scan scope lines).library else picture.library s := rfl

theorem exists_addAll_fill (picture : Picture) (scope s : Scope) (lines : List String) :
    ∃ ps, (picture.fill scope lines).library s = (picture.library s).addAll picture.files ps := by
  rw [library_fill]
  split
  · rename_i h
    rw [h]
    exact Scan.exists_addAll_run _ _ _ _
  · exact ⟨[], rfl⟩

/-- Filling one library keeps what is tracked for any. -/
theorem Tracks.fill (h : picture.Tracks s name) (scope : Scope) (lines : List String) :
    (picture.fill scope lines).Tracks s name := by
  unfold Tracks
  rw [library_fill]
  split
  · rename_i hs
    subst hs
    exact Tracked.run h lines
  · obtain ⟨answer, hfind, hroot⟩ := h
    exact ⟨answer, Scan.find?_run_of_some hfind lines, hroot⟩

/-- Filling a library with lines tracks the names they refer to. -/
theorem tracks_fill (picture : Picture) (scope : Scope) (h : name ∈ Reference.namesInLines lines) :
    (picture.fill scope lines).Tracks scope name := by
  unfold Tracks
  rw [library_fill, if_pos rfl]
  exact Scan.tracked_run h

/-! ## Events -/

/-- But for its scan, an event changes the buffers, the attachments and the libraries at most. -/
theorem place_eq (picture : Picture) (event : Event) :
    ∃ buffers attachments library,
      picture.place event = { picture with buffers, attachments, library } := by
  cases event with
  | attached client buffer =>
    unfold place
    simp only
    split
    · exact ⟨_, _, _, rfl⟩
    · split <;> exact ⟨_, _, _, rfl⟩
  | detached buffer =>
    unfold place
    simp only
    split <;> exact ⟨_, _, _, rfl⟩
  | library p => exact ⟨_, _, _, rfl⟩
  | changed buffer first last => exact ⟨_, _, _, rfl⟩
  | reloaded buffer => exact ⟨_, _, _, rfl⟩
  | reconcile => exact ⟨_, _, _, rfl⟩

/-- But for its scan, an event fills a library only if it brings a path for the global one. -/
theorem library_place (picture : Picture) (event : Event) :
    (picture.place event).library =
      match event with
      | .library p =>
        (picture.withLibrary .global ((picture.library .global).add picture.files p)).library
      | _ => picture.library := by
  cases event with
  | attached client buffer =>
    unfold place
    simp only
    split
    · rfl
    · split <;> rfl
  | detached buffer =>
    unfold place
    simp only
    split <;> rfl
  | _ => rfl

theorem files_after (picture : Picture) (event : Event) :
    (picture.after event).files = picture.files := by
  obtain ⟨buffers, attachments, library, hplace⟩ := place_eq picture event
  unfold after
  rw [hplace]
  split <;> rfl

theorem config_after (picture : Picture) (event : Event) :
    (picture.after event).config = picture.config := by
  obtain ⟨buffers, attachments, library, hplace⟩ := place_eq picture event
  unfold after
  rw [hplace]
  split <;> rfl

/-- Events leave the contents of buffers alone. -/
theorem find?_buffers_after (picture : Picture) (event : Event) (b : Nat) :
    (picture.after event).buffers.find? b = picture.buffers.find? b := by
  have hplace : (picture.place event).buffers.find? b = picture.buffers.find? b := by
    cases event with
    | attached client buffer =>
      have hsubscribe := Buffers.find?_subscribe picture.buffers buffer b
      simp only [place]
      split
      · rfl
      · split <;> exact hsubscribe
    | detached buffer =>
      simp only [place]
      split
      · rfl
      · exact Buffers.find?_unsubscribe _ _ _
    | _ => rfl
  unfold after
  split <;> exact hplace

theorem resolutions_place (picture : Picture) (event : Event) :
    (picture.place event).resolutions = picture.resolutions := by
  obtain ⟨buffers, attachments, library, hplace⟩ := place_eq picture event
  rw [hplace]

theorem files_place (picture : Picture) (event : Event) :
    (picture.place event).files = picture.files := by
  obtain ⟨buffers, attachments, library, hplace⟩ := place_eq picture event
  rw [hplace]

theorem exists_addAll_place (picture : Picture) (event : Event) (s : Scope) :
    ∃ ps, (picture.place event).library s = (picture.library s).addAll picture.files ps := by
  rw [library_place]
  cases event with
  | library p =>
    simp only [library_withLibrary]
    split
    · rename_i hs
      rw [hs]
      exact ⟨[p], rfl⟩
    · exact ⟨[], rfl⟩
  | _ => exact ⟨[], rfl⟩

/-- **To each library an event does what some additions do.** -/
theorem exists_addAll_after (picture : Picture) (event : Event) (s : Scope) :
    ∃ ps, (picture.after event).library s = (picture.library s).addAll picture.files ps := by
  obtain ⟨ps, hplace⟩ := exists_addAll_place picture event s
  unfold after
  split
  · rename_i scope lines _
    obtain ⟨qs, hfill⟩ := exists_addAll_fill (picture.place event) scope s lines
    refine ⟨ps ++ qs, ?_⟩
    rw [hfill, hplace, files_place, Library.addAll_append]
  · exact ⟨ps, hplace⟩

theorem Tracks.place (h : picture.Tracks s name) (event : Event) :
    (picture.place event).Tracks s name := by
  obtain ⟨ps, hadded⟩ := exists_addAll_place picture event s
  obtain ⟨answer, hfind, hroot⟩ := h
  refine ⟨answer, (congrArg (·.find? name) (resolutions_place picture event)).trans hfind, ?_⟩
  intro root hr
  rw [files_place, hadded]
  exact Library.grows_of_prefix (Library.prefix_addAll _ _ _) (hroot root hr)

/-- **What is tracked stays tracked.** -/
theorem Tracks.after (h : picture.Tracks s name) (event : Event) :
    (picture.after event).Tracks s name := by
  unfold Picture.after
  split
  · exact (h.place event).fill _ _
  · exact h.place event

/-- An event makes nothing known about names that it does not read. -/
theorem find?_after_of_reads (h : picture.reads? event = some (scope, lines))
    (hname : name ∉ Reference.namesInLines lines) :
    (picture.after event).resolutions.find? name = picture.resolutions.find? name := by
  unfold after
  rw [h, ← resolutions_place picture event]
  exact Scan.find?_run hname

/-- **What an event reads is tracked afterwards.** -/
theorem tracks_after_of_reads (h : picture.reads? event = some (scope, lines))
    (hname : name ∈ Reference.namesInLines lines) : (picture.after event).Tracks scope name := by
  unfold after
  rw [h]
  exact tracks_fill _ _ hname

/-- **An event that does not begin the quiet window anew leaves every library as it was.** -/
theorem library_after_of_not_signals (h : picture.signals event = false) :
    (picture.after event).library = picture.library := by
  have hscan : ∀ scope lines, (picture.scan scope lines).changed = false →
      (picture.fill scope lines).library = picture.library := by
    intro scope lines hchanged
    funext s
    rw [library_fill]
    split
    · rename_i hs
      rw [hs]
      exact Scan.library_run_of_not_changed hchanged
    · rfl
  cases event with
  | attached client buffer =>
    have hreads : picture.reads? (.attached client buffer) = none := by
      simpa [signals, Option.isSome_iff_ne_none] using h
    unfold after
    rw [hreads]
    exact library_place picture _
  | changed buffer first last =>
    unfold signals at h
    unfold after
    split
    · rename_i scope lines hreads
      exact hscan scope lines (by simpa [hreads] using h)
    · rfl
  | reloaded buffer =>
    unfold signals at h
    unfold after
    split
    · rename_i scope lines hreads
      exact hscan scope lines (by simpa [hreads] using h)
    · rfl
  | detached buffer => exact library_place picture _
  | library p =>
    have hadd : (picture.library .global).add picture.files p = picture.library .global :=
      Library.add_of_not_grows h
    refine (library_place picture (.library p)).trans (funext fun s => ?_)
    simp only [library_withLibrary, hadd]
    split
    · rename_i hs
      rw [hs]
    · rfl
  | reconcile => rfl

end LibraryPaths.Picture

import LibraryPaths.Proofs.FileSystem.Settled
import LibraryPaths.Proofs.Path.Joined

/-!
# Paths below a path

A path that leads somewhere leads through directories: where one of its names is followed by more, the path up
to that name leads to a directory, be the name a symbolic link or not.  The path up to there is shorter and
needs no more links, so nothing that the whole path passes can stop it.

* `walk_succ`: whoever may follow more links gets to the same place;
* `directory_of_descend`, `directory_of_walk`: the step and the run over the links;
* `isDirectory_of_isFile`: a path with a file below it is a directory.
-/

set_option autoImplicit false

namespace LibraryPaths.FileSystem

variable {fs : FileSystem} {p : Path} {here location : Location} {xs ys : List Name} {piece n : Name}
  {entry : Entry}

/-! ## Paths that lead somewhere -/

theorem found_of_stat (h : fs.stat p = .ok entry) :
    ∃ location, fs.land p = .ok (.found location) ∧ fs.entry? location = some entry := by
  unfold stat locate at h
  cases hland : fs.land p with
  | error fault => simp [hland, bind, Except.bind] at h
  | ok landing =>
    cases landing with
    | missing directory name => simp [hland, Landing.location, bind, Except.bind] at h
    | found location =>
      refine ⟨location, rfl, ?_⟩
      cases hentry : fs.entry? location <;> simp_all [Landing.location, bind, Except.bind]

theorem stat_of_found (hland : fs.land p = .ok (.found location))
    (hentry : fs.entry? location = some entry) : fs.stat p = .ok entry := by
  unfold stat locate
  simp [hland, hentry, Landing.location, bind, Except.bind]

theorem found_of_isFile (h : fs.isFile p = true) : ∃ location, fs.land p = .ok (.found location) := by
  unfold isFile at h
  cases hstat : fs.stat p with
  | ok entry =>
    obtain ⟨location, hland, -⟩ := found_of_stat hstat
    exact ⟨location, hland⟩
  | error fault => simp [hstat] at h

theorem isDirectory_of_found (hland : fs.land p = .ok (.found location))
    (hentry : fs.entry? location = some .directory) : fs.isDirectory p = true := by
  unfold isDirectory
  rw [stat_of_found hland hentry]

/-! ## More links -/

variable {landing : Landing}

theorem descend_mono {follow further : Location → List Name → Except IoError Landing}
    (hfurther : ∀ here xs, follow here xs = .ok landing → further here xs = .ok landing)
    (h : fs.descend follow here xs = .ok landing) : fs.descend further here xs = .ok landing :=
  descendBy_related (R := fun result more => result = .ok landing → more = .ok landing)
    (fun _ hresult => hresult) (fun _ _ => .inl rfl) hfurther here xs h

/-- **Whoever may follow one more link** gets to the same place. -/
theorem walk_succ (links : Nat) (h : fs.walk links here xs = .ok landing) :
    fs.walk (links + 1) here xs = .ok landing := by
  induction links generalizing here xs with
  | zero => exact descend_mono (fun _ _ hnone => by cases hnone) h
  | succ links ih => exact descend_mono (fun _ _ => ih) h

/-! ## The way to a place -/

/-- Texts lead from a directory, or they end with a name, which only a directory can hold. -/
def Leads (fs : FileSystem) (here : Location) (xs : List Name) : Prop :=
  fs.entry? here = some .directory ∨ ∃ n, xs.getLast? = some n ∧ PlainName n

theorem Leads.tail (h : fs.Leads here (piece :: xs)) (hpiece : ¬ PlainName piece)
    {next : Location} (hnext : fs.entry? here = some .directory → fs.entry? next = some .directory) :
    fs.Leads next xs := by
  rcases h with hdirectory | ⟨n, hlast, hn⟩
  · exact .inl (hnext hdirectory)
  · refine .inr ⟨n, ?_, hn⟩
    cases xs with
    | nil =>
      obtain rfl : piece = n := Option.some.inj hlast
      exact absurd hn hpiece
    | cons x xs => exact hlast

/-- **Texts that are followed by others lead to a directory**, from which the others lead on, if what a link
stands for does. -/
theorem directory_of_descend {follow : Location → List Name → Except IoError Landing}
    (hfollow : ∀ here xs, fs.entry? here = some .directory →
      follow here (xs ++ ys) = .ok (.found location) →
      ∃ d, follow here xs = .ok (.found d) ∧ fs.entry? d = some .directory ∧
        fs.descend follow d ys = .ok (.found location))
    (hys : ys ≠ []) (hleads : fs.Leads here xs)
    (h : fs.descend follow here (xs ++ ys) = .ok (.found location)) :
    ∃ d, fs.descend follow here xs = .ok (.found d) ∧ fs.entry? d = some .directory ∧
      fs.descend follow d ys = .ok (.found location) := by
  induction xs generalizing here with
  | nil =>
    rcases hleads with hdirectory | ⟨n, hlast, -⟩
    · exact ⟨here, rfl, hdirectory, h⟩
    · cases hlast
  | cons piece rest ih =>
    rw [List.cons_append] at h
    rw [descend_cons] at h ⊢
    by_cases hfiller : piece = [] ∨ piece = [dot]
    · rw [if_pos hfiller] at h ⊢
      exact ih (hleads.tail (fun hn => hfiller.elim hn.1 hn.2.1) id) h
    rw [if_neg hfiller] at h ⊢
    by_cases hup : piece = [dot, dot]
    · rw [if_pos hup] at h ⊢
      exact ih (hleads.tail (fun hn => hn.2.2.1 hup) entry?_dropLast) h
    rw [if_neg hup] at h ⊢
    by_cases hlong : maxName < piece.length
    · rw [if_pos hlong] at h
      cases h
    rw [if_neg hlong] at h ⊢
    have hmore : rest ++ ys ≠ [] := by simp [hys]
    cases hentry : fs.entry? (here ++ [piece]) with
    | none => simp [hentry, hmore] at h
    | some entry =>
      rw [hentry] at h
      cases entry with
      | directory => exact ih (.inl hentry) h
      | file content => simp [hmore] at h
      | link target =>
        -- a link lies in a directory, and its target is followed from there or from the root
        have hhere : fs.entry? here = some .directory := entry?_of_append (by simp) hentry
        refine hfollow _ _ ?_ (by rw [List.append_assoc]; exact h)
        split
        · exact entry?_nil fs
        · exact hhere

theorem directory_of_walk (links : Nat) (hys : ys ≠ []) (hleads : fs.Leads here xs)
    (h : fs.walk links here (xs ++ ys) = .ok (.found location)) :
    ∃ d, fs.walk links here xs = .ok (.found d) ∧ fs.entry? d = some .directory ∧
      fs.walk links d ys = .ok (.found location) := by
  induction links generalizing here xs with
  | zero => exact directory_of_descend (fun _ _ _ hnone => by cases hnone) hys hleads h
  | succ links ih =>
    refine directory_of_descend (fun here xs hhere hfollow => ?_) hys hleads h
    obtain ⟨d, hd, hentry, hrest⟩ := ih (.inl hhere) hfollow
    exact ⟨d, hd, hentry, walk_succ links hrest⟩

theorem follow_of_land (h : fs.land p = .ok landing) : fs.follow p = .ok landing := by
  unfold land at h
  split at h
  · exact h
  · cases h

/-- A path leads to a directory if a longer one leads somewhere, and the rest of the longer one leads on from
there. -/
theorem directory_of_follow {below : List UInt8} (hlast : p.pieces.getLast? = some n) (hn : PlainName n)
    (h : fs.follow ⟨p.bytes ++ slash :: below⟩ = .ok (.found location)) :
    ∃ d, fs.follow p = .ok (.found d) ∧ fs.entry? d = some .directory ∧
      fs.walk maxLinks d (Path.mk below).pieces = .ok (.found location) := by
  have hne : p.bytes ≠ [] := by
    intro hempty
    obtain rfl : p = ⟨[]⟩ := congrArg Path.mk hempty
    exact hn.1 (Option.some.inj hlast).symm
  have habsolute : (Path.mk (p.bytes ++ slash :: below)).isAbsolute = p.isAbsolute := by
    unfold Path.isAbsolute
    rw [List.head?_append_of_ne_nil _ hne]
  obtain ⟨hnul, -, hwalk⟩ := follow_eq_ok_iff.1 h
  rw [Path.pieces_append, habsolute] at hwalk
  obtain ⟨d, hd, hentry, hrest⟩ :=
    directory_of_walk maxLinks (List.splitOn_ne_nil _ below) (.inr ⟨n, hlast, hn⟩) hwalk
  exact ⟨d, follow_eq_ok_iff.2 ⟨fun hmem => hnul (List.mem_append_left _ hmem), hne, hd⟩, hentry, hrest⟩

/-- A path ends in a directory if a longer one leads somewhere. -/
theorem directory_of_land {below : List UInt8} (hlast : p.pieces.getLast? = some n) (hn : PlainName n)
    (h : fs.land ⟨p.bytes ++ slash :: below⟩ = .ok (.found location)) :
    ∃ d, fs.land p = .ok (.found d) ∧ fs.entry? d = some .directory := by
  obtain ⟨d, hd, hentry, -⟩ := directory_of_follow hlast hn (follow_of_land h)
  refine ⟨d, ?_, hentry⟩
  unfold land at h ⊢
  split at h
  · rename_i hlength
    have hshort : p.bytes.length ≤ maxPath ∨ 0 ∈ p.bytes := by
      refine hlength.imp (List.prefix_append p.bytes _).length_le.trans fun hnul => ?_
      exact absurd hnul (follow_eq_ok_iff.1 h).1
    rwa [if_pos hshort]
  · cases h

/-- **A path with a file below it is a directory.** -/
theorem isDirectory_of_isFile {below : List UInt8} (hlast : p.pieces.getLast? = some n)
    (hn : PlainName n) (h : fs.isFile ⟨p.bytes ++ slash :: below⟩ = true) : fs.isDirectory p = true := by
  obtain ⟨location, hland⟩ := found_of_isFile h
  obtain ⟨d, hd, hentry⟩ := directory_of_land hlast hn hland
  exact isDirectory_of_found hd hentry

end LibraryPaths.FileSystem

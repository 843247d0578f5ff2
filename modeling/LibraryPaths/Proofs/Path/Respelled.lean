import Mathlib.Logic.Relation
import LibraryPaths.Proofs.Path.Components

/-!
# Ways to spell a path

A path is spelled differently, and leads to the same place by its spelling, if a slash is doubled or put at the
end, if a text that leads nowhere is put between slashes (`Path.Idle`: `.`, or a name and `..`), or if `..`
stands below the root.  Whatever follows from these steps, in either direction, is a respelling of the path
(`Path.Respelled`).  Cleaning a path takes the steps back, and nothing else: it does not tell respellings apart,
and the clean spelling of an absolute path is a respelling of it.

* `namesFrom_eq`: the names a path leads to, read off the texts between its slashes;
* `Respelled.namesFrom`, `Respelled.clean`: respellings lead to the same names;
* `respelled_clean`: an absolute path is a respelling of its clean form;
* `namesFrom_join`: a relative path is followed from where it is joined.
-/

set_option autoImplicit false

namespace LibraryPaths.Path

variable {p q : Path} {start names : List Name} {n : Name} {detour : List UInt8}

/-! ## Names along the texts of a path -/

/-- The names that the texts between slashes lead to from a directory. -/
def namesAlong (start pieces : List Name) : List Name :=
  (pieces.filterMap Component.ofPiece?).foldl stepNames start

theorem namesAlong_append (start before after : List Name) :
    namesAlong start (before ++ after) = namesAlong (namesAlong start before) after := by
  unfold namesAlong
  rw [List.filterMap_append, List.foldl_append]

theorem namesAlong_filler (start rest : List Name) {piece : Name} (h : isFiller piece = true) :
    namesAlong start (piece :: rest) = namesAlong start rest := by
  have hnone : Component.ofPiece? piece = none := by
    unfold Component.ofPiece?
    rw [if_pos (by simpa [isFiller] using h)]
  unfold namesAlong
  rw [List.filterMap_cons_none hnone]

/-- Between slashes stands a filler, `..` or a plain name. -/
theorem piece_cases {piece : Name} (h : slash ∉ piece) :
    isFiller piece = true ∨ piece = [dot, dot] ∨ PlainName piece := by
  by_cases hnil : piece = []
  · exact .inl (by simp [isFiller, hnil])
  by_cases hdot : piece = [dot]
  · exact .inl (by simp [isFiller, hdot])
  by_cases hup : piece = [dot, dot]
  · exact .inr (.inl hup)
  · exact .inr (.inr ⟨hnil, hdot, hup, h⟩)

theorem namesAlong_up (start : List Name) : namesAlong start [[dot, dot]] = start.dropLast := rfl

theorem namesAlong_plain (start : List Name) (h : ∀ n ∈ names, PlainName n) :
    namesAlong start names = start ++ names := by
  unfold namesAlong
  rw [filterMap_ofPiece? h]
  induction names generalizing start with
  | nil => simp
  | cons n names ih =>
    rw [List.map_cons, List.foldl_cons, ih _ fun m hm => h m (List.mem_cons_of_mem _ hm)]
    simp [stepNames]

theorem plainName_of_mem_namesAlong {pieces : List Name} (hstart : ∀ n ∈ start, PlainName n)
    (h : ∀ piece ∈ pieces, slash ∉ piece) : ∀ n ∈ namesAlong start pieces, PlainName n := by
  induction pieces generalizing start with
  | nil => exact hstart
  | cons piece rest ih =>
    have hrest : ∀ x ∈ rest, slash ∉ x := fun x hx => h x (List.mem_cons_of_mem _ hx)
    rcases piece_cases (h piece List.mem_cons_self) with hfiller | rfl | hplain
    · rw [namesAlong_filler start rest hfiller]
      exact ih hstart hrest
    · exact ih (fun n hn => hstart n (List.dropLast_subset _ hn)) hrest
    · rw [← List.singleton_append, namesAlong_append,
        namesAlong_plain start (List.forall_mem_singleton.2 hplain)]
      refine ih (fun n hn => ?_) hrest
      rcases List.mem_append.1 hn with hn | hn
      · exact hstart n hn
      · rwa [List.mem_singleton.1 hn]

/-- **The names a path leads to** are those along its texts, from the root if it is absolute. -/
theorem namesFrom_eq (start : List Name) (p : Path) :
    p.namesFrom start = namesAlong (if p.isAbsolute then [] else start) p.pieces := by
  have habsolute := isAbsolute_eq p
  unfold namesFrom namesAlong
  rcases components_cases p with ⟨hbytes, hcs⟩ | ⟨rest, -, hpieces, hcs⟩ | ⟨rest, hpieces, hcs⟩ |
    ⟨first, rest, c, hpieces, hc, hcs⟩
  · obtain rfl : p = ⟨[]⟩ := congrArg Path.mk hbytes
    rfl
  · rw [hcs] at habsolute ⊢
    rw [hpieces, habsolute]
    rfl
  · rw [hcs] at habsolute ⊢
    rw [hpieces, habsolute]
    rfl
  · rw [hcs] at habsolute ⊢
    rw [hpieces, habsolute, List.filterMap_cons_some hc]
    have hroot : c ≠ .root := by
      rcases (ofPiece?_cases hc).2.2 with ⟨rfl, -⟩ | rfl <;> simp
    simp [hroot]

/-! ## Steps -/

/-- A text that leads nowhere: `.`, or a name and back. -/
inductive Idle : List UInt8 → Prop
  | here : Idle [dot]
  | back (n : Name) (h : PlainName n) : Idle (n ++ [slash, dot, dot])

/-- One step from a spelling to a longer one. -/
inductive Respelling : Path → Path → Prop
  /-- A slash is doubled. -/
  | doubled (front back : List UInt8) :
    Respelling ⟨front ++ slash :: back⟩ ⟨front ++ slash :: slash :: back⟩
  /-- A slash is put at the end. -/
  | trailing (p : Path) (h : p.bytes ≠ []) : Respelling p ⟨p.bytes ++ [slash]⟩
  /-- A text that leads nowhere is put in front of a relative path. -/
  | first (p : Path) (detour : List UInt8) (h : Idle detour) (hp : p.isAbsolute = false) :
    Respelling p ⟨detour ++ slash :: p.bytes⟩
  /-- A text that leads nowhere is put behind a slash. -/
  | between (front back detour : List UInt8) (h : Idle detour) :
    Respelling ⟨front ++ slash :: back⟩ ⟨front ++ slash :: (detour ++ slash :: back)⟩
  /-- A text that leads nowhere is put at the end. -/
  | last (p : Path) (detour : List UInt8) (h : Idle detour) (hp : p.bytes ≠ []) :
    Respelling p ⟨p.bytes ++ slash :: detour⟩
  /-- The root is left upwards. -/
  | root (back : List UInt8) : Respelling ⟨slash :: back⟩ ⟨slash :: dot :: dot :: slash :: back⟩

/-- Two paths are spellings of one another: steps lead from one to the other, forwards or backwards. -/
def Respelled : Path → Path → Prop := Relation.EqvGen Respelling

/-! ## Steps lead to the same names -/

theorem Idle.namesAlong (h : Idle detour) (start : List Name) :
    namesAlong start (Path.mk detour).pieces = start := by
  cases h with
  | here => rfl
  | back n h =>
    rw [pieces_append, pieces_of_notMem h.2.2.2, namesAlong_append,
      namesAlong_plain start (List.forall_mem_singleton.2 h)]
    exact List.dropLast_concat

theorem Idle.isAbsolute (h : Idle detour) (back : List UInt8) :
    (Path.mk (detour ++ back)).isAbsolute = false := by
  cases h with
  | here => rfl
  | back n h =>
    unfold Path.isAbsolute
    rw [List.append_assoc, List.head?_append_of_ne_nil _ h.1]
    exact isAbsolute_of_notMem h.2.2.2

theorem isAbsolute_append (h : p.bytes ≠ []) (back : List UInt8) :
    (Path.mk (p.bytes ++ back)).isAbsolute = p.isAbsolute := by
  unfold isAbsolute
  rw [List.head?_append_of_ne_nil _ h]

/-- What stands behind a slash does not make a path absolute. -/
theorem isAbsolute_append_slash (front back more : List UInt8) :
    (Path.mk (front ++ slash :: back)).isAbsolute = (Path.mk (front ++ slash :: more)).isAbsolute := by
  cases front <;> rfl

theorem namesFrom_congr (habsolute : p.isAbsolute = q.isAbsolute)
    (h : ∀ start, namesAlong start p.pieces = namesAlong start q.pieces) (start : List Name) :
    p.namesFrom start = q.namesFrom start := by
  rw [namesFrom_eq, namesFrom_eq, habsolute, h]

/-- **A step keeps where a path leads**, and whether it is absolute. -/
theorem Respelling.keeps (h : Respelling p q) :
    p.isAbsolute = q.isAbsolute ∧ ∀ start, p.namesFrom start = q.namesFrom start := by
  cases h with
  | doubled front back =>
    have habsolute := isAbsolute_append_slash front back (slash :: back)
    refine ⟨habsolute, namesFrom_congr habsolute fun start => ?_⟩
    have hdouble : front ++ slash :: slash :: back = front ++ slash :: ([] ++ slash :: back) := rfl
    rw [hdouble, pieces_append, pieces_append, pieces_append, namesAlong_append, namesAlong_append]
    exact (namesAlong_filler _ _ rfl).symm
  | trailing _ hp =>
    have habsolute := (isAbsolute_append hp [slash]).symm
    refine ⟨habsolute, namesFrom_congr habsolute fun start => ?_⟩
    rw [pieces_append, namesAlong_append]
    rfl
  | first _ detour hdetour hp =>
    have habsolute := hp.trans (hdetour.isAbsolute (slash :: p.bytes)).symm
    refine ⟨habsolute, namesFrom_congr habsolute fun start => ?_⟩
    rw [pieces_append, namesAlong_append, hdetour.namesAlong]
  | between front back detour hdetour =>
    have habsolute := isAbsolute_append_slash front back (detour ++ slash :: back)
    refine ⟨habsolute, namesFrom_congr habsolute fun start => ?_⟩
    rw [pieces_append, pieces_append, pieces_append, namesAlong_append, namesAlong_append,
      namesAlong_append, hdetour.namesAlong]
  | last _ detour hdetour hp =>
    have habsolute := (isAbsolute_append hp (slash :: detour)).symm
    refine ⟨habsolute, namesFrom_congr habsolute fun start => ?_⟩
    rw [pieces_append, namesAlong_append, hdetour.namesAlong]
  | root back =>
    -- only from the root does `..` lead nowhere
    refine ⟨rfl, fun start => ?_⟩
    have hroot : (Path.mk (slash :: back)).pieces = [[]] ++ (Path.mk back).pieces :=
      pieces_append [] back
    have hup : (Path.mk (slash :: dot :: dot :: slash :: back)).pieces =
        [[]] ++ ([[dot, dot]] ++ (Path.mk back).pieces) := by
      rw [← pieces_of_notMem (n := [dot, dot]) (by decide), ← pieces_append [dot, dot] back]
      exact pieces_append [] _
    rw [namesFrom_eq, namesFrom_eq, hroot, hup]
    rfl

theorem Respelled.keeps (h : Respelled p q) :
    p.isAbsolute = q.isAbsolute ∧ ∀ start, p.namesFrom start = q.namesFrom start := by
  induction h with
  | rel _ _ hstep => exact hstep.keeps
  | refl _ => exact ⟨rfl, fun _ => rfl⟩
  | symm _ _ _ ih => exact ⟨ih.1.symm, fun start => (ih.2 start).symm⟩
  | trans _ _ _ _ _ ih₁ ih₂ => exact ⟨ih₁.1.trans ih₂.1, fun start => (ih₁.2 start).trans (ih₂.2 start)⟩

/-- **Respellings have one clean form**, unless one of them is empty. -/
theorem Respelled.clean (h : Respelled p q) (hp : p.bytes ≠ []) (hq : q.bytes ≠ []) (start : List Name) :
    p.clean start = q.clean start := by
  unfold Path.clean
  rw [if_neg hp, if_neg hq, h.keeps.2]

/-! ## The clean form is a respelling -/

theorem Respelled.refl (p : Path) : Respelled p p := Relation.EqvGen.refl p

theorem Respelled.symm (h : Respelled p q) : Respelled q p := Relation.EqvGen.symm _ _ h

theorem Respelled.trans {r : Path} (h : Respelled p q) (h' : Respelled q r) : Respelled p r :=
  Relation.EqvGen.trans _ _ _ h h'

theorem Respelling.respelled (h : Respelling p q) : Respelled p q := Relation.EqvGen.rel _ _ h

theorem bytes_ne_nil_of_isAbsolute (h : p.isAbsolute = true) : p.bytes ≠ [] := by
  intro hempty
  obtain rfl : p = ⟨[]⟩ := congrArg Path.mk hempty
  cases h

/-- What stands behind an absolute path stands behind its respellings. -/
theorem Respelling.append (h : Respelling p q) (habsolute : p.isAbsolute = true) (more : List UInt8) :
    Respelled ⟨p.bytes ++ slash :: more⟩ ⟨q.bytes ++ slash :: more⟩ := by
  cases h with
  | doubled front back => simpa using (Respelling.doubled front (back ++ slash :: more)).respelled
  | trailing => simpa using (Respelling.doubled p.bytes more).respelled
  | first _ _ _ hp => exact absurd habsolute (by simp [hp])
  | between front back detour hdetour =>
    simpa using (Respelling.between front (back ++ slash :: more) detour hdetour).respelled
  | last _ detour hdetour => simpa using (Respelling.between p.bytes more detour hdetour).respelled
  | root back => exact (Respelling.root (back ++ slash :: more)).respelled

theorem Respelled.append (h : Respelled p q) (habsolute : p.isAbsolute = true) (more : List UInt8) :
    Respelled ⟨p.bytes ++ slash :: more⟩ ⟨q.bytes ++ slash :: more⟩ := by
  induction h with
  | rel _ _ hstep => exact hstep.append habsolute more
  | refl _ => exact Respelled.refl _
  | symm _ _ h ih => exact (ih ((Respelled.keeps h).1.trans habsolute)).symm
  | trans _ _ _ h _ ih₁ ih₂ => exact (ih₁ habsolute).trans (ih₂ ((Respelled.keeps h).1.symm.trans habsolute))

/-- A text behind names is put behind a slash, though the root has one already. -/
theorem respelled_concat (names : List Name) (n : Name) :
    Respelled (ofNames (names ++ [n])) ⟨(ofNames names).bytes ++ slash :: n⟩ := by
  unfold ofNames
  cases names with
  | nil => simpa using (Respelling.doubled [] n).respelled
  | cons m names =>
    rw [intercalate_append (by simp) (by simp), List.intercalate_singleton]
    exact Respelled.refl _

/-- Texts between slashes are a respelling of the names they lead to from the root. -/
theorem respelled_ofNames {pieces : List Name} (h : ∀ piece ∈ pieces, slash ∉ piece) :
    Respelled (ofNames pieces) (ofNames (namesAlong [] pieces)) := by
  induction pieces using List.reverseRecOn with
  | nil => exact Respelled.refl _
  | append_singleton front piece ih =>
    have hfront : ∀ x ∈ front, slash ∉ x := fun x hx => h x (List.mem_append_left _ hx)
    have hnames : ∀ n ∈ namesAlong [] front, PlainName n := plainName_of_mem_namesAlong (by simp) hfront
    have hne : ∀ names : List Name, (ofNames names).bytes ≠ [] := fun _ => by simp [ofNames]
    refine (respelled_concat front piece).trans (((ih hfront).append rfl piece).trans ?_)
    rw [namesAlong_append]
    generalize namesAlong [] front = names at hnames ⊢
    rcases piece_cases (h piece (by simp)) with hfiller | rfl | hplain
    · rw [namesAlong_filler names [] hfiller]
      have hpiece : piece = [] ∨ piece = [dot] := by simpa [isFiller] using hfiller
      rcases hpiece with rfl | rfl
      · exact (Respelling.trailing _ (hne names)).respelled.symm
      · exact (Respelling.last _ [dot] .here (hne names)).respelled.symm
    · rw [namesAlong_up]
      rcases List.eq_nil_or_concat names with rfl | ⟨names, n, rfl⟩
      · -- `//..` is `/..`, that is `/../`, and that is the root
        have hdouble := (Respelling.doubled [] [dot, dot]).respelled
        have htrailing := (Respelling.trailing ⟨[slash, dot, dot]⟩ (by simp)).respelled
        exact hdouble.symm.trans (htrailing.trans (Respelling.root []).respelled.symm)
      · rw [List.concat_eq_append] at hnames ⊢
        rw [List.dropLast_concat]
        have hn : PlainName n := hnames n (by simp)
        have hback := (Respelling.last _ _ (.back n hn) (hne names)).respelled.symm
        refine ((respelled_concat names n).append rfl [dot, dot]).trans ?_
        simpa using hback
    · rw [namesAlong_plain names (List.forall_mem_singleton.2 hplain)]
      exact (respelled_concat names piece).symm

/-- **The clean form of an absolute path** is a respelling of it. -/
theorem respelled_clean (habsolute : p.isAbsolute = true) (start : List Name) :
    Respelled p (p.clean start) := by
  obtain ⟨bytes⟩ := p
  cases bytes with
  | nil => cases habsolute
  | cons b back =>
    obtain rfl : b = slash := by simpa [isAbsolute] using habsolute
    have hpieces : (Path.mk (slash :: back)).pieces = [] :: (Path.mk back).pieces := pieces_append [] back
    have hnames : (Path.mk (slash :: back)).namesFrom start = namesAlong [] (Path.mk back).pieces := by
      rw [namesFrom_eq, if_pos habsolute, hpieces, namesAlong_filler _ _ rfl]
    have hspelled : Path.mk (slash :: back) = ofNames (Path.mk back).pieces :=
      congrArg (fun bytes => Path.mk (slash :: bytes)) (List.intercalate_splitOn slash).symm
    unfold clean
    rw [if_neg (by simp), hnames]
    refine hspelled ▸ respelled_ofNames fun piece => slash_notMem_of_mem_pieces

/-! ## Relative paths -/

/-- The texts of a relative path stand behind the names of the directory it is joined to. -/
theorem pieces_join_ofNames (hnames : ∀ n ∈ names, PlainName n) (hp : p.isAbsolute = false) :
    ((ofNames names).join p).pieces = [] :: (names ++ p.pieces) := by
  rw [join_eq _ hp]
  cases names with
  | nil => exact pieces_append [] p.bytes
  | cons n names =>
    have hpieces := pieces_ofNames hnames (by simp)
    obtain ⟨last, hlast⟩ : ∃ last, (ofNames (n :: names)).pieces.getLast? = some last ∧ last ≠ [] := by
      rw [hpieces, List.getLast?_cons_cons, List.getLast?_eq_some_getLast (by simp)]
      exact ⟨_, rfl, (hnames _ (List.getLast_mem (by simp))).1⟩
    rw [base_eq hlast.1 hlast.2, List.append_assoc, List.singleton_append, pieces_append, hpieces]
    rfl

theorem isAbsolute_join_ofNames (names : List Name) (hp : p.isAbsolute = false) :
    ((ofNames names).join p).isAbsolute = true := by
  obtain ⟨more, hbase⟩ := prefix_base (ofNames names)
  rw [join_eq _ hp, ← hbase]
  rfl

/-- **A relative path** leads where it leads when it is joined to the directory it is followed from. -/
theorem namesFrom_join (hstart : ∀ n ∈ start, PlainName n) (hp : p.isAbsolute = false) :
    ((ofNames start).join p).namesFrom start = p.namesFrom start := by
  rw [namesFrom_eq, namesFrom_eq, isAbsolute_join_ofNames start hp, if_pos rfl, hp,
    if_neg Bool.false_ne_true, pieces_join_ofNames hstart hp, namesAlong_filler _ _ rfl,
    namesAlong_append, namesAlong_plain [] hstart, List.nil_append]

end LibraryPaths.Path

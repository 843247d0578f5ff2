import LibraryPaths.Proofs.Path.Joined

/-!
# Paths and their components

Where a path leads is read off the texts between its slashes; its components say the same but for fillers.  A
path spelled from components has these components, and the parent of a path has all of its components but the
last one.

* `filter_pieces`, `isAbsolute_eq`: what the components keep of the texts between slashes;
* `clean_of_components`: the clean form of a path depends on its components alone;
* `components_ofComponents`: the components of a path that is spelled from them;
* `parent?_cases`: the components of the parent, and which paths have none.
-/

set_option autoImplicit false

namespace LibraryPaths

/-- The text between slashes that a component stands for, if it is no matter of the first place. -/
def Component.piece? : Component → Option Name
  | .root => none
  | .here => none
  | .up => some [dot, dot]
  | .name n => some n

theorem Component.bind_piece? (piece : Name) :
    (ofPiece? piece).bind Component.piece? = if Path.isFiller piece then none else some piece := by
  unfold ofPiece? Path.isFiller
  by_cases hnil : piece = []
  · simp [hnil]
  by_cases hdot : piece = [dot]
  · simp [hdot]
  by_cases hup : piece = [dot, dot]
  · subst hup
    rfl
  · simp [hnil, hdot, hup, Component.piece?]

namespace Path

variable {p q : Path} {pieces : List Name} {cs : List Component} {c : Component} {n : Name}

/-! ## Texts between slashes -/

theorem exists_ofPiece? {piece : Name} (h : isFiller piece = false) :
    ∃ c, Component.ofPiece? piece = some c := by
  unfold isFiller at h
  unfold Component.ofPiece?
  rw [if_neg (by simpa using h)]
  split <;> exact ⟨_, rfl⟩

/-- The first text between slashes decides what the first component is: an empty one is the root unless it is
the whole path, and `.` is one of its own. -/
theorem components_cases (p : Path) :
    (p.bytes = [] ∧ p.components = []) ∨
    (∃ rest, rest ≠ [] ∧ p.pieces = [] :: rest ∧
      p.components = .root :: rest.filterMap Component.ofPiece?) ∨
    (∃ rest, p.pieces = [dot] :: rest ∧ p.components = .here :: rest.filterMap Component.ofPiece?) ∨
    ∃ first rest c, p.pieces = first :: rest ∧ Component.ofPiece? first = some c ∧
      p.components = c :: rest.filterMap Component.ofPiece? := by
  have hbytes : [slash].intercalate p.pieces = p.bytes := List.intercalate_splitOn slash
  unfold components
  cases hpieces : p.pieces with
  | nil => exact absurd hpieces (List.splitOn_ne_nil _ _)
  | cons first rest =>
    rw [componentsOfPieces]
    by_cases hnil : first = []
    · subst hnil
      by_cases hrest : rest = []
      · subst hrest
        rw [hpieces] at hbytes
        exact .inl ⟨hbytes.symm, rfl⟩
      · exact .inr (.inl ⟨rest, hrest, rfl, by rw [if_pos rfl, if_neg hrest]⟩)
    rw [if_neg hnil]
    by_cases hdot : first = [dot]
    · subst hdot
      exact .inr (.inr (.inl ⟨rest, rfl, rfl⟩))
    · rw [if_neg hdot]
      have hsolid : isFiller first = false := by simp [isFiller, hnil, hdot]
      obtain ⟨c, hc⟩ := exists_ofPiece? hsolid
      exact .inr (.inr (.inr ⟨first, rest, c, rfl, hc, by rw [hc]; rfl⟩))

theorem filter_eq_filterMap_piece? (pieces : List Name) :
    pieces.filter (!isFiller ·) = (pieces.filterMap Component.ofPiece?).filterMap Component.piece? := by
  induction pieces with
  | nil => rfl
  | cons piece pieces ih =>
    have hpiece := Component.bind_piece? piece
    rw [List.filter_cons, List.filterMap_cons]
    cases hfiller : isFiller piece <;> cases hc : Component.ofPiece? piece <;>
      simp_all

/-- **The components keep every text between slashes** that is not empty and not `.`. -/
theorem filter_pieces (p : Path) :
    p.pieces.filter (!isFiller ·) = p.components.filterMap Component.piece? := by
  rcases components_cases p with ⟨hbytes, hcs⟩ | ⟨rest, -, hpieces, hcs⟩ | ⟨rest, hpieces, hcs⟩ |
    ⟨first, rest, c, hpieces, hc, hcs⟩
  · obtain rfl : p = ⟨[]⟩ := congrArg Path.mk hbytes
    rfl
  · rw [hpieces, hcs, List.filter_cons_of_neg (by decide), filter_eq_filterMap_piece?]
    rfl
  · rw [hpieces, hcs, List.filter_cons_of_neg (by decide), filter_eq_filterMap_piece?]
    rfl
  · rw [hpieces, hcs, filter_eq_filterMap_piece?, List.filterMap_cons_some hc]

theorem ofPieces_pieces (p : Path) : ofPieces p.pieces = p :=
  congrArg Path.mk (List.intercalate_splitOn slash)

theorem isAbsolute_of_pieces {first : Name} {rest : List Name} (hpieces : p.pieces = first :: rest)
    (hne : first ≠ []) : p.isAbsolute = false := by
  have hslash : slash ∉ first := slash_notMem_of_mem_pieces (hpieces ▸ List.mem_cons_self)
  rw [← ofPieces_pieces p, hpieces]
  exact isAbsolute_ofPieces_cons hne hslash

theorem ofPiece?_cases {piece : Name} (h : Component.ofPiece? piece = some c) :
    piece ≠ [] ∧ piece ≠ [dot] ∧ (c = .up ∧ piece = [dot, dot] ∨ c = .name piece) := by
  unfold Component.ofPiece? at h
  split at h
  · cases h
  rename_i hfiller
  refine ⟨fun hnil => hfiller (.inl hnil), fun hdot => hfiller (.inr hdot), ?_⟩
  split at h
  · rename_i hup
    exact .inl ⟨(Option.some.inj h).symm, hup⟩
  · exact .inr (Option.some.inj h).symm

/-- A path is absolute if its first component is the root. -/
theorem isAbsolute_eq (p : Path) : p.isAbsolute = (p.components.head? == some .root) := by
  rcases components_cases p with ⟨hbytes, hcs⟩ | ⟨rest, hrest, hpieces, hcs⟩ | ⟨rest, hpieces, hcs⟩ |
    ⟨first, rest, c, hpieces, hc, hcs⟩
  · obtain rfl : p = ⟨[]⟩ := congrArg Path.mk hbytes
    rfl
  · rw [hcs, ← ofPieces_pieces p, hpieces]
    cases rest with
    | nil => exact absurd rfl hrest
    | cons piece rest =>
      unfold ofPieces isAbsolute
      rw [List.intercalate_cons_cons]
      rfl
  · rw [hcs, isAbsolute_of_pieces hpieces (by simp)]
    rfl
  · obtain ⟨hne, -, hname⟩ := ofPiece?_cases hc
    rw [hcs, isAbsolute_of_pieces hpieces hne]
    rcases hname with ⟨rfl, -⟩ | rfl <;> rfl

/-! ## Octets -/

theorem mem_intercalate_of_mem {b : UInt8} {piece : Name} (hpiece : piece ∈ pieces) (hb : b ∈ piece) :
    b ∈ [slash].intercalate pieces := by
  induction pieces with
  | nil => cases hpiece
  | cons first rest ih =>
    cases rest with
    | nil =>
      obtain rfl := List.mem_singleton.1 hpiece
      simpa using hb
    | cons second rest =>
      rw [List.intercalate_cons_cons, List.append_assoc]
      rcases List.mem_cons.1 hpiece with rfl | hpiece
      · exact List.mem_append_left _ hb
      · exact List.mem_append_right _ (List.mem_append_right _ (ih hpiece))

/-- The octets between the slashes of a path are octets of the path. -/
theorem mem_bytes_of_mem_pieces {b : UInt8} {piece : Name} (hpiece : piece ∈ p.pieces) (hb : b ∈ piece) :
    b ∈ p.bytes := by
  rw [← ofPieces_pieces p]
  exact mem_intercalate_of_mem hpiece hb

theorem notMem_intercalate {b : UInt8} (hslash : b ≠ slash) (h : ∀ piece ∈ pieces, b ∉ piece) :
    b ∉ [slash].intercalate pieces := by
  induction pieces with
  | nil => simp
  | cons first rest ih =>
    have hfirst := h first List.mem_cons_self
    cases rest with
    | nil => simpa using hfirst
    | cons second rest =>
      have hrest := ih fun piece hpiece => h piece (List.mem_cons_of_mem _ hpiece)
      rw [List.intercalate_cons_cons, List.append_assoc]
      simp [hfirst, hslash, hrest]

theorem notMem_ofNames {b : UInt8} {names : List Name} (hslash : b ≠ slash) (h : ∀ n ∈ names, b ∉ n) :
    b ∉ (ofNames names).bytes := by
  unfold ofNames
  simpa [hslash] using notMem_intercalate hslash h

/-! ## What the components tell -/

theorem components_eq_nil_iff : p.components = [] ↔ p.bytes = [] := by
  rcases components_cases p with ⟨hbytes, hcs⟩ | ⟨rest, -, hpieces, hcs⟩ | ⟨rest, hpieces, hcs⟩ |
    ⟨first, rest, c, hpieces, -, hcs⟩
  · simp [hbytes, hcs]
  all_goals
    have hne : p.bytes ≠ [] := by
      intro hempty
      obtain rfl : p = ⟨[]⟩ := congrArg Path.mk hempty
      cases hcs
    simp [hne, hcs]

/-- The clean form of a path depends on its components alone. -/
theorem clean_of_components (h : p.components = q.components) (start : List Name) :
    p.clean start = q.clean start := by
  by_cases hempty : p.bytes = []
  · have hq : q.bytes = [] := components_eq_nil_iff.1 (h ▸ components_eq_nil_iff.2 hempty)
    obtain rfl : p = q := congrArg Path.mk (hempty.trans hq.symm)
    rfl
  · have hq : q.bytes ≠ [] := fun hq =>
      hempty (components_eq_nil_iff.1 (h.symm ▸ components_eq_nil_iff.2 hq))
    unfold clean namesFrom
    rw [if_neg hempty, if_neg hq, h]

/-! ## Spelling components -/

/-- Components that a path can have: plain names and `..`, behind at most one root or `.`. -/
structure Spellable (cs : List Component) : Prop where
  names : ∀ n, .name n ∈ cs → PlainName n
  behind : ∀ c ∈ cs.tail, c = .up ∨ ∃ n, c = .name n

theorem spellable_components (p : Path) : Spellable p.components := by
  have hbehind : ∀ rest : List Name, ∀ c ∈ rest.filterMap Component.ofPiece?,
      c = .up ∨ ∃ n, c = .name n := by
    intro rest c hc
    obtain ⟨piece, -, hpiece⟩ := List.mem_filterMap.1 hc
    obtain ⟨-, -, hname⟩ := ofPiece?_cases hpiece
    exact hname.imp And.left fun hname => ⟨piece, hname⟩
  refine ⟨fun n => plainName_of_mem_components, ?_⟩
  rcases components_cases p with ⟨-, hcs⟩ | ⟨rest, -, -, hcs⟩ | ⟨rest, -, hcs⟩ | ⟨-, rest, c, -, -, hcs⟩
  · rw [hcs]
    simp
  all_goals
    rw [hcs]
    exact hbehind rest

theorem Spellable.of_prefix {before : List Component} (h : Spellable cs) (hfirst : before <+: cs) :
    Spellable before := by
  refine ⟨fun n hn => h.names n (hfirst.subset hn), fun c hc => h.behind c ?_⟩
  obtain ⟨after, rfl⟩ := hfirst
  cases before with
  | nil => cases hc
  | cons first before => exact List.mem_append_left after hc

theorem ofComponents_concat (cs : List Component) (c : Component) :
    ofComponents (cs ++ [c]) = (ofComponents cs).join (ofComponent c) := by
  unfold ofComponents
  rw [List.foldl_append]
  rfl

theorem components_join_ofComponent (p : Path) (hc : c = .up ∨ ∃ n, c = .name n ∧ PlainName n) :
    (p.join (ofComponent c)).components = p.components ++ [c] := by
  have hsingle : ∀ piece, Solid piece → Component.ofPiece? piece = some c →
      (p.join ⟨piece⟩).components = p.components ++ [c] := by
    intro piece hsolid hpiece
    have hpieces : Path.mk piece = ofPieces [piece] := by simp [ofPieces]
    rw [hpieces, components_join_ofPieces p (by simp) (List.forall_mem_singleton.2 hsolid),
      List.filterMap_cons_some hpiece]
    rfl
  rcases hc with rfl | ⟨n, rfl, hn⟩
  · exact hsingle [dot, dot] ⟨by decide, by decide, by decide⟩ rfl
  · exact hsingle n (solid_of_plainName hn) (ofPiece?_of_plainName hn)

/-- **A path spelled from components has these components.** -/
theorem components_ofComponents (h : Spellable cs) : (ofComponents cs).components = cs := by
  induction cs using List.reverseRecOn with
  | nil => rfl
  | append_singleton cs c ih =>
    rw [ofComponents_concat]
    have hname : ∀ n, c = .name n → PlainName n := by
      rintro n rfl
      exact h.names n (by simp)
    cases cs with
    | nil =>
      cases c with
      | root => rfl
      | here => rfl
      | up => rfl
      | name n => exact components_join_ofComponent _ (.inr ⟨n, rfl, hname n rfl⟩)
    | cons first cs =>
      have hc := h.behind c (by simp)
      rw [components_join_ofComponent _ (hc.imp_right fun ⟨n, hn⟩ => ⟨n, hn, hname n hn⟩),
        ih (h.of_prefix (List.prefix_append _ _))]

/-! ## Parents -/

theorem exists_trimFillers (pieces : List Name) : ∃ fillers, pieces = trimFillers pieces ++ fillers ∧
    fillers.filterMap Component.ofPiece? = [] := by
  refine ⟨(pieces.reverse.takeWhile isFiller).reverse, ?_, ?_⟩
  · unfold trimFillers
    rw [← List.reverse_append, List.takeWhile_append_dropWhile, List.reverse_reverse]
  · rw [List.filterMap_eq_nil_iff]
    intro piece hpiece
    have hfiller : isFiller piece = true :=
      List.all_eq_true.1 List.all_takeWhile piece (List.mem_reverse.1 hpiece)
    unfold isFiller at hfiller
    unfold Component.ofPiece?
    rw [if_pos (by simpa using hfiller)]

/-- What is trimmed leaves no component. -/
theorem filterMap_trimFillers (pieces : List Name) :
    (trimFillers pieces).filterMap Component.ofPiece? = pieces.filterMap Component.ofPiece? := by
  obtain ⟨fillers, hpieces, hfillers⟩ := exists_trimFillers pieces
  rw [congrArg (List.filterMap Component.ofPiece?) hpieces, List.filterMap_append, hfillers,
    List.append_nil]

theorem mem_of_mem_trimFillers {piece : Name} (h : piece ∈ trimFillers pieces) : piece ∈ pieces := by
  obtain ⟨fillers, hpieces, -⟩ := exists_trimFillers pieces
  rw [hpieces]
  exact List.mem_append_left _ h

/-- What stays ends with a text that leaves a component. -/
theorem exists_ofPiece?_of_trimFillers {front : List Name} {last : Name}
    (h : trimFillers pieces = front ++ [last]) : ∃ c, Component.ofPiece? last = some c := by
  refine exists_ofPiece? ?_
  have hhead := List.head?_dropWhile_not isFiller pieces.reverse
  have hreverse : pieces.reverse.dropWhile isFiller = (trimFillers pieces).reverse := by
    unfold trimFillers
    rw [List.reverse_reverse]
  rw [hreverse, h, List.reverse_append] at hhead
  simpa using hhead

/-- A first text that is not empty leaves a component of its own. -/
theorem exists_componentsOfPieces {first : Name} (hne : first ≠ []) :
    ∃ c, c ≠ .root ∧
      ∀ rest, componentsOfPieces (first :: rest) = c :: rest.filterMap Component.ofPiece? := by
  by_cases hdot : first = [dot]
  · exact ⟨.here, by simp, fun rest => by rw [componentsOfPieces, if_neg hne, if_pos hdot]⟩
  · have hsolid : isFiller first = false := by simp [isFiller, hne, hdot]
    obtain ⟨c, hc⟩ := exists_ofPiece? hsolid
    have hroot : c ≠ .root := by
      rcases (ofPiece?_cases hc).2.2 with ⟨rfl, -⟩ | rfl <;> simp
    exact ⟨c, hroot, fun rest => by rw [componentsOfPieces, if_neg hne, if_neg hdot, hc]; rfl⟩

/-- **The parent of a path** has all of its components but the last one; only the root and the empty path have
none. -/
theorem parent?_cases (p : Path) :
    (p.parent? = none ∧ (p.components = [] ∨ p.components = [.root])) ∨
    ∃ q, p.parent? = some q ∧ p.components ≠ [] ∧ p.components ≠ [.root] ∧
      q.components = p.components.dropLast := by
  have hslash : ∀ piece ∈ p.pieces, slash ∉ piece := fun _ => slash_notMem_of_mem_pieces
  unfold parent? components
  cases hpieces : p.pieces with
  | nil => exact absurd hpieces (List.splitOn_ne_nil _ _)
  | cons first rest =>
    rw [hpieces] at hslash
    have hrest := filterMap_trimFillers rest
    rcases List.eq_nil_or_concat (trimFillers rest) with htrim | ⟨front, last, htrim⟩
    -- nothing but fillers stands behind the first text
    · rw [htrim] at hrest
      simp only [htrim, List.reverse_nil]
      by_cases hfirst : first = []
      · subst hfirst
        rw [if_pos rfl, componentsOfPieces, if_pos rfl, ← hrest]
        refine .inl ⟨rfl, ?_⟩
        by_cases hempty : rest = [] <;> simp [hempty]
      · obtain ⟨c, hroot, hc⟩ := exists_componentsOfPieces hfirst
        rw [if_neg hfirst, hc, ← hrest]
        exact .inr ⟨_, rfl, by simp, by simp [hroot], rfl⟩
    -- the last text that leaves a component is dropped, with the fillers around it
    · rw [List.concat_eq_append] at htrim
      obtain ⟨c, hc⟩ := exists_ofPiece?_of_trimFillers htrim
      have hfront := filterMap_trimFillers front
      have hkept : ∀ piece ∈ first :: trimFillers front, slash ∉ piece := by
        intro piece hpiece
        rcases List.mem_cons.1 hpiece with rfl | hpiece
        · exact hslash _ List.mem_cons_self
        · refine hslash piece (List.mem_cons_of_mem _ (mem_of_mem_trimFillers ?_))
          rw [htrim]
          exact List.mem_append_left _ (mem_of_mem_trimFillers hpiece)
      rw [htrim, List.filterMap_append, List.filterMap_cons_some hc, List.filterMap_nil, ← hfront] at hrest
      simp only [htrim, List.reverse_append, List.reverse_cons, List.reverse_nil, List.nil_append,
        List.singleton_append, List.reverse_reverse]
      by_cases hfirst : first = []
      · have hcomponents : componentsOfPieces (first :: rest) =
            .root :: ((trimFillers front).filterMap Component.ofPiece? ++ [c]) := by
          have hempty : rest ≠ [] := by
            rintro rfl
            simp at hrest
          rw [componentsOfPieces, if_pos hfirst, if_neg hempty, ← hrest]
        rw [hcomponents]
        subst hfirst
        cases hkeep : trimFillers front with
        | nil => exact .inr ⟨_, rfl, by simp, by simp, rfl⟩
        | cons piece kept =>
          rw [hkeep] at hkept
          refine .inr ⟨_, rfl, by simp, by simp, ?_⟩
          rw [pieces_ofPieces (by simp) hkept, componentsOfPieces, if_pos rfl, if_neg (by simp),
            ← List.cons_append, List.dropLast_concat]
      · obtain ⟨d, -, hd⟩ := exists_componentsOfPieces hfirst
        refine .inr ⟨ofPieces (first :: trimFillers front), ?_, by simp [hd], by simp [hd, ← hrest], ?_⟩
        · cases first with
          | nil => exact absurd rfl hfirst
          | cons b first => rfl
        · rw [pieces_ofPieces (by simp) hkept, hd, hd, ← hrest, ← List.cons_append,
            List.dropLast_concat]

end Path

end LibraryPaths

import LibraryPaths.Proofs.Path.Spelling

/-!
# Joined paths

A relative path is joined by writing it behind the *base* of the other one (`Path.base`): the path itself,
with a slash at its end unless it has one or is empty.  So what is joined keeps the texts between its slashes.

* `join_eq`: what is written behind what;
* `getLast?_pieces_join`: a joined path ends as its right side does;
* `getLast?_components`: the last text of a path is its last component, if it is a plain name;
* `eq_of_components_join`: plain names joined to one path give paths with different components;
* `components_join`: the components of a joined path;
* `components_join_names`: names joined to a path are components behind its own.
-/

set_option autoImplicit false

namespace LibraryPaths

/-! ## Octets of texts -/

namespace Utf8

theorem encode_append (text more : List Char) : encode (text ++ more) = encode text ++ encode more :=
  List.flatMap_append

/-- An octet below 128 stands for a character of its own. -/
theorem exists_mem_of_mem_encode {text : List Char} {b : UInt8} (hmem : b ∈ encode text)
    (hb : b.toNat < 128) : ∃ c ∈ text, c.toNat = b.toNat := by
  obtain ⟨c, hc, hbyte⟩ := List.mem_flatMap.1 hmem
  refine ⟨c, hc, ?_⟩
  have hval : c.toNat = c.val.toNat := rfl
  unfold String.utf8EncodeChar at hbyte
  simp only at hbyte
  split at hbyte
  · obtain rfl := List.mem_singleton.1 hbyte
    rw [hval, UInt8.toNat_ofNat']
    omega
  -- every octet of a longer form has its first bit set
  · exfalso
    split at hbyte
    · simp only [List.mem_cons, List.not_mem_nil, or_false] at hbyte
      rcases hbyte with rfl | rfl <;> (rw [UInt8.toNat_ofNat'] at hb; omega)
    · split at hbyte
      · simp only [List.mem_cons, List.not_mem_nil, or_false] at hbyte
        rcases hbyte with rfl | rfl | rfl <;> (rw [UInt8.toNat_ofNat'] at hb; omega)
      · simp only [List.mem_cons, List.not_mem_nil, or_false] at hbyte
        rcases hbyte with rfl | rfl | rfl | rfl <;> (rw [UInt8.toNat_ofNat'] at hb; omega)

theorem mem_of_slash_mem_encode {text : List Char} (h : slash ∈ encode text) : '/' ∈ text := by
  obtain ⟨c, hc, heq⟩ := exists_mem_of_mem_encode h (by decide)
  obtain rfl : c = '/' := Char.toNat_inj.1 heq
  exact hc

theorem mem_of_dot_mem_encode {text : List Char} (h : dot ∈ encode text) : '.' ∈ text := by
  obtain ⟨c, hc, heq⟩ := exists_mem_of_mem_encode h (by decide)
  obtain rfl : c = '.' := Char.toNat_inj.1 heq
  exact hc

theorem encode_eq_nil {text : List Char} (h : encode text = []) : text = [] := by
  cases text with
  | nil => rfl
  | cons c text =>
    have hlength := congrArg List.length h
    have hsize := String.length_utf8EncodeChar c
    have hpos := Char.utf8Size_pos c
    simp only [encode, List.flatMap_cons, List.length_append, List.length_nil] at hlength
    omega

end Utf8

namespace Path

variable {p q : Path} {n m : Name}

/-! ## Joining -/

/-- What a relative path is written behind when it is joined. -/
def base (p : Path) : List UInt8 :=
  if p.bytes = [] ∨ p.bytes.getLast? = some slash then p.bytes else p.bytes ++ [slash]

theorem join_eq (p : Path) (h : q.isAbsolute = false) : p.join q = ⟨p.base ++ q.bytes⟩ := by
  unfold join base
  rw [h, if_neg Bool.false_ne_true]
  split
  · rfl
  · simp

theorem prefix_base (p : Path) : p.bytes <+: p.base := by
  unfold base
  split
  · exact List.prefix_rfl
  · exact List.prefix_append _ _

/-- A base is empty or ends with a slash. -/
theorem base_cases (p : Path) : p.base = [] ∨ ∃ front, p.base = front ++ [slash] := by
  unfold base
  split
  · rename_i h
    exact h.imp_right fun hlast => List.getLast?_eq_some_iff.1 hlast
  · exact .inr ⟨p.bytes, rfl⟩

/-- A slash parts the texts before it from those behind it. -/
theorem pieces_append (before after : List UInt8) :
    (Path.mk (before ++ slash :: after)).pieces = (Path.mk before).pieces ++ (Path.mk after).pieces :=
  List.splitOn_append_cons_self before after

theorem pieces_of_notMem (h : slash ∉ n) : (Path.mk n).pieces = [n] := List.splitOn_eq_singleton h

theorem isAbsolute_of_notMem (h : slash ∉ n) : (Path.mk n).isAbsolute = false := by
  cases n with
  | nil => rfl
  | cons b n =>
    refine beq_false_of_ne fun hb => h ?_
    obtain rfl : b = slash := Option.some.inj hb
    exact List.mem_cons_self

/-- What goes on behind a name is joined behind the joined name. -/
theorem join_append (p : Path) (hne : n ≠ []) (h : slash ∉ n) (more : List UInt8) :
    p.join ⟨n ++ more⟩ = ⟨(p.join ⟨n⟩).bytes ++ more⟩ := by
  have hrelative : (Path.mk (n ++ more)).isAbsolute = false := by
    rw [← isAbsolute_of_notMem h]
    unfold isAbsolute
    rw [List.head?_append_of_ne_nil _ hne]
  rw [join_eq p hrelative, join_eq p (isAbsolute_of_notMem h), List.append_assoc]

/-- A path whose last text is not empty does not end with a slash. -/
theorem base_eq (h : p.pieces.getLast? = some n) (hn : n ≠ []) : p.base = p.bytes ++ [slash] := by
  unfold base
  rw [if_neg]
  rintro (hempty | hslash)
  · obtain rfl : p = ⟨[]⟩ := congrArg Path.mk hempty
    exact hn (Option.some.inj h).symm
  · obtain ⟨front, hfront⟩ := List.getLast?_eq_some_iff.1 hslash
    obtain rfl : p = ⟨front ++ [slash]⟩ := congrArg Path.mk hfront
    rw [pieces_append, List.getLast?_append] at h
    exact hn (Option.some.inj h).symm

/-- **A joined path ends as its right side does.** -/
theorem getLast?_pieces_join (p : Path) (hq : q.isAbsolute = false) (h : q.pieces.getLast? = some n) :
    (p.join q).pieces.getLast? = some n := by
  rw [join_eq p hq]
  rcases base_cases p with hbase | ⟨front, hbase⟩
  · rw [hbase]
    exact h
  · have hlast : (Path.mk q.bytes).pieces.getLast? = some n := h
    rw [hbase, List.append_assoc, List.singleton_append, pieces_append, List.getLast?_append, hlast]
    rfl

/-- The path to an entry ends with its name. -/
theorem getLast?_pieces_join_name (p : Path) (h : slash ∉ n) :
    (p.join ⟨n⟩).pieces.getLast? = some n :=
  getLast?_pieces_join p (isAbsolute_of_notMem h) (by rw [pieces_of_notMem h]; rfl)

/-! ## The last component -/

theorem getLast?_components (hn : PlainName n) (h : p.pieces.getLast? = some n) :
    p.components.getLast? = some (.name n) := by
  have hpiece := ofPiece?_of_plainName hn
  obtain ⟨hnil, hdot, -, -⟩ := hn
  obtain ⟨front, hfront⟩ := List.getLast?_eq_some_iff.1 h
  unfold components
  rw [hfront]
  cases front with
  | nil => simp [componentsOfPieces, hnil, hdot, hpiece]
  | cons first front =>
    have htail : (front ++ [n]).filterMap Component.ofPiece? =
        front.filterMap Component.ofPiece? ++ [.name n] := by
      simp [List.filterMap_append, hpiece]
    simp only [List.cons_append, componentsOfPieces, htail]
    split
    · rw [if_neg (by simp), ← List.cons_append, List.getLast?_concat]
    · split
      · rw [← List.cons_append, List.getLast?_concat]
      · rw [← List.append_assoc, List.getLast?_concat]

/-- **Plain names joined to one path can be told apart by the components.** -/
theorem eq_of_components_join (hn : PlainName n) (hm : PlainName m)
    (h : (p.join ⟨n⟩).components = (p.join ⟨m⟩).components) : n = m := by
  have hlast := getLast?_components hn (getLast?_pieces_join_name p hn.2.2.2)
  rw [h, getLast?_components hm (getLast?_pieces_join_name p hm.2.2.2)] at hlast
  exact (Component.name.inj (Option.some.inj hlast)).symm

/-! ## Names behind a path -/

variable {names before after : List Name}

theorem intercalate_append (hbefore : before ≠ []) (hafter : after ≠ []) :
    [slash].intercalate (before ++ after) =
      [slash].intercalate before ++ slash :: [slash].intercalate after := by
  induction before with
  | nil => exact absurd rfl hbefore
  | cons n before ih =>
    cases before with
    | nil =>
      cases after with
      | nil => exact absurd rfl hafter
      | cons m after => simp [List.intercalate_cons_cons]
    | cons m before =>
      rw [List.cons_append, List.cons_append, List.intercalate_cons_cons, ← List.cons_append,
        ih (by simp), List.intercalate_cons_cons, List.append_assoc]
      simp

/-- What is written behind names is written behind the last one. -/
theorem ofPieces_concat_append (front : List Name) (last more : Name) :
    (⟨(ofPieces (front ++ [last])).bytes ++ more⟩ : Path) = ofPieces (front ++ [last ++ more]) := by
  unfold ofPieces
  cases front with
  | nil => simp
  | cons n front =>
    rw [intercalate_append (by simp) (by simp), intercalate_append (by simp) (by simp)]
    simp

/-- A text that can stand between two slashes and leaves a component there. -/
def Solid (piece : Name) : Prop := piece ≠ [] ∧ piece ≠ [dot] ∧ slash ∉ piece

theorem solid_of_plainName (h : PlainName n) : Solid n := ⟨h.1, h.2.1, h.2.2.2⟩

theorem pieces_ofPieces (hne : names ≠ []) (h : ∀ n ∈ names, slash ∉ n) :
    (ofPieces names).pieces = names := List.splitOn_intercalate slash h hne

theorem isAbsolute_ofPieces_cons (hne : n ≠ []) (hslash : slash ∉ n) :
    (ofPieces (n :: names)).isAbsolute = false := by
  rw [← isAbsolute_of_notMem hslash]
  unfold isAbsolute ofPieces
  cases names with
  | nil => simp
  | cons m names =>
    rw [List.intercalate_cons_cons, List.append_assoc, List.head?_append_of_ne_nil _ hne]

theorem isAbsolute_ofPieces (h : ∀ n ∈ names, Solid n) : (ofPieces names).isAbsolute = false := by
  cases names with
  | nil => rfl
  | cons n names =>
    obtain ⟨hnil, -, hslash⟩ := h n List.mem_cons_self
    exact isAbsolute_ofPieces_cons hnil hslash

/-- Texts behind others leave the components that they leave anywhere. -/
theorem componentsOfPieces_append (hbefore : before ≠ []) (hafter : after ≠ []) :
    componentsOfPieces (before ++ after) =
      componentsOfPieces (before ++ [[]]) ++ after.filterMap Component.ofPiece? := by
  cases before with
  | nil => exact absurd rfl hbefore
  | cons first rest =>
    simp only [List.cons_append, componentsOfPieces]
    by_cases hfirst : first = []
    · simp [hfirst, hafter, List.filterMap_append, Component.ofPiece?]
    · by_cases hdot : first = [dot] <;>
        simp [hfirst, hdot, List.filterMap_append, Component.ofPiece?]

/-- A slash at the end adds no component, except that it is the root if it stands alone. -/
theorem componentsOfPieces_slash (h : before ≠ [[]]) :
    componentsOfPieces (before ++ [[]]) = componentsOfPieces before := by
  cases before with
  | nil => rfl
  | cons first rest =>
    have hrest : first = [] → rest ≠ [] := fun hfirst hrest => h (by rw [hfirst, hrest])
    simp only [List.cons_append, componentsOfPieces]
    by_cases hfirst : first = []
    · simp [hfirst, hrest hfirst, List.filterMap_append, Component.ofPiece?]
    · simp [hfirst, List.filterMap_append, Component.ofPiece?]

theorem componentsOfPieces_of_solid (h : ∀ n ∈ names, Solid n) :
    componentsOfPieces names = names.filterMap Component.ofPiece? := by
  cases names with
  | nil => rfl
  | cons n names =>
    obtain ⟨hnil, hdot, -⟩ := h n List.mem_cons_self
    rw [componentsOfPieces, if_neg hnil, if_neg hdot, List.filterMap_cons]
    cases Component.ofPiece? n <;> rfl

/-- The components that a path leaves behind another one, where a leading `.` is none. -/
def behind (q : Path) : List Component := q.pieces.filterMap Component.ofPiece?

/-- **A relative path leaves its components behind those of the path that it is joined to**, unless that is
empty. -/
theorem components_join (hp : p.bytes ≠ []) (hq : q.isAbsolute = false) :
    (p.join q).components = p.components ++ q.behind := by
  have hbehind : ∀ front : List UInt8, (Path.mk (front ++ slash :: q.bytes)).components =
      componentsOfPieces ((Path.mk front).pieces ++ [[]]) ++ q.behind := by
    intro front
    unfold components
    rw [pieces_append]
    exact componentsOfPieces_append (List.splitOn_ne_nil _ _) (List.splitOn_ne_nil _ _)
  rw [join_eq p hq]
  unfold base
  split
  · rename_i hbase
    obtain ⟨front, hfront⟩ := List.getLast?_eq_some_iff.1 (hbase.resolve_left hp)
    obtain rfl : p = ⟨front ++ [slash]⟩ := congrArg Path.mk hfront
    rw [List.append_assoc, List.singleton_append, hbehind]
    unfold components
    rw [pieces_append]
    rfl
  · rw [List.append_assoc, List.singleton_append, hbehind, componentsOfPieces_slash]
    · rfl
    · intro hpieces
      have hbytes : [slash].intercalate p.pieces = p.bytes := List.intercalate_splitOn slash
      rw [show p.pieces = [[]] from hpieces] at hbytes
      exact hp hbytes.symm

/-- What is joined to a path leaves its components behind those of the path. -/
theorem components_join_ofPieces (p : Path) (hne : names ≠ []) (h : ∀ n ∈ names, Solid n) :
    (p.join (.ofPieces names)).components = p.components ++ names.filterMap Component.ofPiece? := by
  have hpieces : (ofPieces names).pieces = names := pieces_ofPieces hne fun n hn => (h n hn).2.2
  by_cases hp : p.bytes = []
  · obtain rfl : p = ⟨[]⟩ := congrArg Path.mk hp
    rw [join_eq _ (isAbsolute_ofPieces h), ← componentsOfPieces_of_solid h]
    exact congrArg componentsOfPieces hpieces
  · rw [components_join hp (isAbsolute_ofPieces h), behind, hpieces]

/-- **Names joined to a path are components behind its own**, whatever the path is. -/
theorem components_join_names (p : Path) (hne : names ≠ []) (h : ∀ n ∈ names, PlainName n) :
    (p.join (.ofPieces names)).components = p.components ++ names.map .name := by
  rw [components_join_ofPieces p hne fun n hn => solid_of_plainName (h n hn), filterMap_ofPiece? h]

end Path

end LibraryPaths

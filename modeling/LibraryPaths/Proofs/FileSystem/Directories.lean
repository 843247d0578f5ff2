import LibraryPaths.Proofs.FileSystem.Below
import LibraryPaths.Proofs.Path.Components

/-!
# Paths to directories

The names that lead to a directory lead there again, since none of them stands for a link, and whatever can be
reached from it is reached behind them.

* `descend_names`: names of directories are followed one by one;
* `entryName_of_follow`: the names that a path leads to are names that a disk can hold;
* `follow_ofNames_eq`, `follow_ofNames_append`: what a directory leads to, its names lead to.
-/

set_option autoImplicit false

namespace LibraryPaths

namespace FileSystem

variable {fs : FileSystem} {p q : Path} {here location d below : Location} {xs ys names : List Name}
  {follow : Location → List Name → Except IoError Landing}

/-! ## Names that lead to directories -/

/-- Names of directories are followed one by one. -/
theorem descend_names (hbelow : ∀ n ∈ below, PlainName n ∧ n.length ≤ maxName)
    (hd : fs.entry? (here ++ below) = some .directory) (ys : List Name) :
    fs.descend follow here (below ++ ys) = fs.descend follow (here ++ below) ys := by
  induction below generalizing here with
  | nil => rw [List.nil_append, List.append_nil]
  | cons n below ih =>
    obtain ⟨⟨hnil, hdot, hup, -⟩, hshort⟩ := hbelow n List.mem_cons_self
    have hentry := entry?_of_cons hd
    rw [List.append_cons] at hd ⊢
    rw [List.cons_append, descend_cons, if_neg (by simp [hnil, hdot]), if_neg hup,
      if_neg (Nat.not_lt.2 hshort), hentry]
    exact ih (fun m hm => hbelow m (List.mem_cons_of_mem _ hm)) hd

/-- What is reached by the names of directories is reached from there, entries being read by their paths. -/
theorem descend_names_byPath {landing : Landing} (hbelow : ∀ n ∈ below, PlainName n)
    (hd : fs.entry? (here ++ below) = some .directory) {ys : List Name}
    (h : descendBy fs.byPath follow here (below ++ ys) = .ok landing) :
    descendBy fs.byPath follow (here ++ below) ys = .ok landing := by
  induction below generalizing here with
  | nil => rwa [List.append_nil]
  | cons n below ih =>
    obtain ⟨hnil, hdot, hup, -⟩ := hbelow n List.mem_cons_self
    have hentry := entry?_of_cons hd
    rw [List.append_cons] at hd ⊢
    rw [List.cons_append, descendBy, if_neg (by simp [hnil, hdot]), if_neg hup] at h
    split at h
    · cases h
    rcases fs.byPath_cases (here ++ [n]) (below ++ ys) with hread | hread
    · rw [hread, hentry] at h
      exact ih (fun m hm => hbelow m (List.mem_cons_of_mem _ hm)) hd h
    · rw [hread] at h
      cases h

/-! ## File systems on a disk -/

/-- A name that a disk can hold. -/
def EntryName (n : Name) : Prop := PlainName n ∧ n.length ≤ maxName ∧ 0 ∉ n

end FileSystem

/-- No link in a tree has an octet 0 in its target. -/
inductive Node.NulFree : Node → Prop where
  | file (content : List UInt8) : NulFree (.file content)
  | link (target : Path) (h : 0 ∉ target.bytes) : NulFree (.link target)
  | directory (members : List (Name × Node)) (h : ∀ member ∈ members, NulFree member.2) :
      NulFree (.directory members)

theorem Node.NulFree.find? {node inner : Node} {location : Location} (hnode : node.NulFree)
    (h : node.find? location = some inner) : inner.NulFree := by
  induction location generalizing node with
  | nil =>
    obtain rfl : node = inner := by simpa using h
    exact hnode
  | cons name rest ih =>
    unfold Node.find? at h
    cases hnode with
    | file content => simp [members] at h
    | link target hnul => simp [members] at h
    | directory members hmembers =>
      cases hmember : members.lookup name with
      | none => simp [Node.members, hmember] at h
      | some member =>
        obtain ⟨before, after, rfl, -⟩ := List.lookup_eq_some_iff.1 hmember
        have hmem : (name, member) ∈ before ++ (name, member) :: after := by simp
        simp only [Node.members, hmember] at h
        exact ih (hmembers _ hmem) h

namespace FileSystem

variable {fs : FileSystem} {p : Path} {location d names : Location} {target : Path}

/-- A file system as a disk holds it: the working directory is reached by names that a disk can hold, and an
octet 0 ends the target of a link. -/
structure Genuine (fs : FileSystem) : Prop where
  links : fs.root.NulFree
  workingDirectory : ∀ n ∈ fs.workingDirectory, EntryName n

theorem Genuine.notMem_target (h : fs.Genuine) (hentry : fs.entry? location = some (.link target)) :
    0 ∉ target.bytes := by
  obtain ⟨node, hnode, hlink⟩ := Option.map_eq_some_iff.1 hentry
  cases node with
  | link other =>
    obtain rfl : other = target := by simpa [Node.entry] using hlink
    cases h.links.find? hnode with
    | link _ hnul => exact hnul
  | _ => cases hlink

/-- **The names that a path leads to** are names that a disk can hold. -/
theorem Genuine.entryName_of_follow (h : fs.Genuine) (hfollow : fs.follow p = .ok (.found location)) :
    ∀ n ∈ location, EntryName n := by
  have hnul : ∀ q : Path, 0 ∉ q.bytes → ∀ piece ∈ q.pieces, slash ∉ piece ∧ 0 ∉ piece :=
    fun q hq piece hpiece =>
      ⟨slash_notMem_of_mem_pieces hpiece, fun hmem => hq (Path.mem_bytes_of_mem_pieces hpiece hmem)⟩
  have hcarries : fs.Carries (fun piece => slash ∉ piece ∧ 0 ∉ piece) EntryName :=
    ⟨fun _ target hentry => hnul target (h.notMem_target hentry),
      fun _ ⟨hslash, hzero⟩ hnil hdot hup hshort => ⟨⟨hnil, hdot, hup, hslash⟩, hshort, hzero⟩⟩
  exact names_of_follow hcarries h.workingDirectory (hnul p (follow_eq_ok_iff.1 hfollow).1) hfollow

/-! ## Following names -/

/-- A plain path is followed along its names from the root. -/
theorem followBy_ofNames (read : Reading) (hplain : ∀ n ∈ names, PlainName n) (hnul : ∀ n ∈ names, 0 ∉ n) :
    fs.followBy read (.ofNames names) = walkBy read maxLinks [] names := by
  unfold followBy
  rw [if_neg (Path.notMem_ofNames (by decide) hnul), if_neg (by simp [Path.ofNames]),
    if_pos (Path.isAbsolute_ofNames names), walkBy_pieces_ofNames read hplain]

theorem follow_ofNames_eq (hplain : ∀ n ∈ names, PlainName n) (hnul : ∀ n ∈ names, 0 ∉ n) :
    fs.follow (.ofNames names) = fs.walk maxLinks [] names :=
  followBy_ofNames fs.inPlace hplain hnul

/-- **What a directory leads to, its names lead to.** -/
theorem follow_ofNames_append (hd : fs.entry? d = some .directory) (hnames : ∀ n ∈ d, EntryName n)
    (hplain : ∀ n ∈ names, PlainName n) (hnul : ∀ n ∈ names, 0 ∉ n) :
    fs.follow (.ofNames (d ++ names)) = fs.walk maxLinks d names := by
  have hall : ∀ n ∈ d ++ names, PlainName n ∧ 0 ∉ n := by
    intro n hn
    rcases List.mem_append.1 hn with hn | hn
    · exact ⟨(hnames n hn).1, (hnames n hn).2.2⟩
    · exact ⟨hplain n hn, hnul n hn⟩
  rw [follow_ofNames_eq (fun n hn => (hall n hn).1) fun n hn => (hall n hn).2]
  change fs.descend (fs.walk 39) [] (d ++ names) = fs.descend (fs.walk 39) d names
  rw [descend_names (fun n hn => ⟨(hnames n hn).1, (hnames n hn).2.1⟩) (by rwa [List.nil_append]),
    List.nil_append]

end FileSystem

end LibraryPaths

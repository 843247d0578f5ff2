import Mathlib.Data.List.TakeWhile
import LibraryPaths.Proofs.Library.Growth
import LibraryPaths.Proofs.Path.Components
import LibraryPaths.Session.Basic

/-!
# The configured libraries

A library entry that is not an absolute path names a plugin and, behind its first slash, a place below it.
What stands there is joined to the directory of the plugin as a path, so a text that begins with a slash itself
replaces the directory: `foo//lib` is not a place in `foo` but `/lib`.  Every other text goes on from the
directory.  An entry whose plugin is unknown is passed over, and the others are added as if it were not there.

* `Path.continues_join_iff`: which texts go on from a directory that they are joined to;
* `Environment.libraryEntry?_eq`: what a divided entry stands for;
* `Environment.filterMap_filter`: entries that are passed over leave no trace;
* `Session.seeds_continue_iff`: all of it together.
-/

set_option autoImplicit false

namespace LibraryPaths

/-! ## Going on from a directory -/

namespace Path

variable {p root : Path} {below : List Char}

/-- The components of a path without a leading `.`, which leads nowhere. -/
def steps (p : Path) : List Component := p.components.filter (· != .here)

/-- A path goes on from another one by what a text leaves behind it. -/
structure Continues (root : Path) (below : List Char) (path : Path) : Prop where
  within : root.components <+: path.components
  steps : path.steps = root.steps ++ (ofChars below).behind

theorem here_notMem_filterMap (pieces : List Name) : .here ∉ pieces.filterMap Component.ofPiece? := by
  intro hmem
  obtain ⟨piece, -, hpiece⟩ := List.mem_filterMap.1 hmem
  obtain ⟨-, -, ⟨hup, -⟩ | hname⟩ := ofPiece?_cases hpiece
  · cases hup
  · cases hname

theorem filter_of_here_notMem {cs : List Component} (h : .here ∉ cs) : cs.filter (· != .here) = cs :=
  List.filter_eq_self.2 fun _ hc => bne_iff_ne.2 fun heq => h (heq ▸ hc)

theorem filter_behind (p : Path) : p.behind.filter (· != .here) = p.behind :=
  filter_of_here_notMem (here_notMem_filterMap _)

theorem components_of_isAbsolute (h : p.isAbsolute = true) : p.components = .root :: p.behind := by
  rcases components_cases p with ⟨-, hcs⟩ | ⟨rest, -, hpieces, hcs⟩ | ⟨rest, -, hcs⟩ |
    ⟨first, rest, c, hpieces, hc, hcs⟩
  · simp [isAbsolute_eq, hcs] at h
  · rw [hcs, behind, hpieces]
    rfl
  · simp [isAbsolute_eq, hcs] at h
  · have hne := (ofPiece?_cases hc).1
    rw [isAbsolute_of_pieces hpieces hne] at h
    cases h

/-- A relative path that is not joined to another one leaves the same components, and a leading `.` besides. -/
theorem steps_of_relative (h : p.isAbsolute = false) : p.steps = p.behind := by
  unfold steps
  rcases components_cases p with ⟨hbytes, hcs⟩ | ⟨rest, -, -, hcs⟩ | ⟨rest, hpieces, hcs⟩ |
    ⟨first, rest, c, hpieces, hc, hcs⟩
  · obtain rfl : p = ⟨[]⟩ := congrArg Path.mk hbytes
    rfl
  · simp [isAbsolute_eq, hcs] at h
  · rw [hcs, behind, hpieces, List.filter_cons_of_neg (by simp)]
    exact filter_of_here_notMem (here_notMem_filterMap rest)
  · have hbehind : p.behind = c :: rest.filterMap Component.ofPiece? := by
      rw [behind, hpieces, List.filterMap_cons_some hc]
    rw [hcs, ← hbehind, filter_behind]

/-- A text spells an absolute path iff it begins with a slash. -/
theorem isAbsolute_ofChars (text : List Char) :
    (ofChars text).isAbsolute = (text.head? == some '/') := by
  cases text with
  | nil => rfl
  | cons c text =>
    have hencode : Utf8.encode (c :: text) = Utf8.encode [c] ++ Utf8.encode text :=
      Utf8.encode_append [c] text
    have hne : Utf8.encode [c] ≠ [] := fun hnil => by cases Utf8.encode_eq_nil hnil
    unfold isAbsolute ofChars
    rw [hencode, List.head?_append_of_ne_nil _ hne]
    by_cases hc : c = '/'
    · subst hc
      rfl
    · have hslash : slash ∉ Utf8.encode [c] := fun hmem =>
        hc (List.mem_singleton.1 (Utf8.mem_of_slash_mem_encode hmem)).symm
      have hrelative : (Path.mk (Utf8.encode [c])).isAbsolute = false := isAbsolute_of_notMem hslash
      rw [show ((c :: text).head? == some '/') = false by simpa using hc]
      exact hrelative

/-- A path goes on from itself by nothing. -/
theorem continues_nil (root : Path) : Continues root [] root :=
  ⟨List.prefix_rfl, (List.append_nil _).symm⟩

/-- A text that does not begin with a slash goes on from whatever it is joined to. -/
theorem continues_join (hbelow : (ofChars below).isAbsolute = false) :
    Continues root below (root.join (ofChars below)) := by
  by_cases hroot : root.bytes = []
  · obtain rfl : root = ⟨[]⟩ := congrArg Path.mk hroot
    have hjoin : (Path.mk []).join (ofChars below) = ofChars below := by
      rw [join_eq _ hbelow]
      rfl
    rw [hjoin]
    exact ⟨List.nil_prefix, steps_of_relative hbelow⟩
  · have hcomponents := components_join hroot hbelow
    refine ⟨⟨_, hcomponents.symm⟩, ?_⟩
    unfold steps
    rw [hcomponents, List.filter_append, filter_behind]

/-- A path of its own goes on from the root directory and from no other. -/
theorem continues_of_isAbsolute (hbelow : (ofChars below).isAbsolute = true) :
    Continues root below (ofChars below) ↔ root.components = [.root] := by
  have hcomponents := components_of_isAbsolute hbelow
  have hsteps : (ofChars below).steps = .root :: (ofChars below).behind := by
    unfold steps
    rw [hcomponents, List.filter_cons_of_pos (by decide), filter_behind]
  constructor
  · rintro ⟨hwithin, hcontinued⟩
    -- the whole path has one step more than what stands behind the root, so the other path has one step
    rw [hsteps, ← List.singleton_append, List.append_left_inj] at hcontinued
    have hhere : .here ∉ root.components := fun hmem => by
      have hmem' := hwithin.subset hmem
      rw [hcomponents] at hmem'
      exact here_notMem_filterMap _ ((List.mem_cons.1 hmem').resolve_left (by simp))
    rw [← filter_of_here_notMem hhere]
    exact hcontinued.symm
  · intro hroot
    refine ⟨?_, ?_⟩
    · rw [hroot, hcomponents]
      exact List.prefix_append [Component.root] _
    · rw [hsteps, steps, hroot]
      rfl

/-- **What goes on from a directory that it is joined to**: a text that does not begin with a slash, and any
text if the directory is the root. -/
theorem continues_join_iff (root : Path) (below : List Char) :
    Continues root below (root.join (ofChars below)) ↔
      below.head? ≠ some '/' ∨ root.components = [.root] := by
  have hslash := isAbsolute_ofChars below
  cases habsolute : (ofChars below).isAbsolute with
  | false =>
    rw [habsolute] at hslash
    exact iff_of_true (continues_join habsolute) (.inl (by simpa using hslash.symm))
  | true =>
    rw [habsolute] at hslash
    have hhead : below.head? = some '/' := by simpa using hslash.symm
    have hjoin : root.join (ofChars below) = ofChars below := by
      unfold join
      rw [if_pos habsolute]
    rw [hjoin, continues_of_isAbsolute habsolute]
    simp [hhead]

end Path

/-! ## Entries -/

/-- An entry divided at its first slash: what stands before it, and what behind it, which is nothing if there
is no slash. -/
def Divided (entry : String) (plugin below : List Char) : Prop :=
  '/' ∉ plugin ∧ (entry.toList = plugin ++ '/' :: below ∨ (entry.toList = plugin ∧ below = []))

theorem Divided.eq {entry : String} {plugin below : List Char} (h : Divided entry plugin below) :
    entry.toList.takeWhile (· != '/') = plugin ∧ (entry.toList.drop plugin.length).drop 1 = below := by
  obtain ⟨hplugin, h⟩ := h
  have hall : ∀ c ∈ plugin, (c != '/') = true := fun c hc =>
    bne_iff_ne.2 fun heq => hplugin (heq ▸ hc)
  rcases h with hentry | ⟨hentry, rfl⟩
  · rw [hentry, List.takeWhile_append_of_pos hall, List.drop_left]
    simp
  · rw [hentry, List.drop_length]
    exact ⟨List.takeWhile_eq_self_iff.2 hall, rfl⟩

/-- Every entry can be divided. -/
theorem exists_divided (entry : String) : ∃ plugin below, Divided entry plugin below := by
  have hsplit : entry.toList.takeWhile (· != '/') ++ entry.toList.dropWhile (· != '/') = entry.toList :=
    List.takeWhile_append_dropWhile
  refine ⟨entry.toList.takeWhile (· != '/'), (entry.toList.dropWhile (· != '/')).tail, ?_, ?_⟩
  · intro hmem
    simpa using List.mem_takeWhile_imp hmem
  · cases hrest : entry.toList.dropWhile (· != '/') with
    | nil =>
      rw [hrest, List.append_nil] at hsplit
      exact .inr ⟨hsplit.symm, rfl⟩
    | cons c rest =>
      have hc := List.head?_dropWhile_not (· != '/') entry.toList
      rw [hrest] at hc
      obtain rfl : c = '/' := by simpa using hc
      rw [hrest] at hsplit
      exact .inl hsplit.symm

namespace Environment

variable {env : Environment} {entry : String} {plugin below : List Char} {root : Path}

/-- What one entry does to a library: the path that it stands for is added, if it stands for one. -/
def seed (env : Environment) (library : Library) (entry : String) : Library :=
  match env.libraryEntry? entry with
  | some path => library.add env.files path
  | none => library

/-- What an entry stands for that is no absolute path. -/
theorem libraryEntry?_eq (hdivided : Divided entry plugin below)
    (hrelative : (Path.ofString entry).isAbsolute = false) :
    env.libraryEntry? entry =
      (env.packages.plugin? env.files (String.ofList plugin)).map fun directory =>
        if below.isEmpty then directory else directory.join (.ofChars below) := by
  obtain ⟨hplugin, hbelow⟩ := hdivided.eq
  unfold libraryEntry?
  rw [hrelative, if_neg Bool.false_ne_true]
  simp only [hplugin, hbelow]

/-- **Where an entry leads whose plugin is known.** -/
theorem exists_libraryEntry? (hdivided : Divided entry plugin below)
    (hrelative : (Path.ofString entry).isAbsolute = false)
    (hroot : env.packages.plugin? env.files (String.ofList plugin) = some root) :
    ∃ path, env.libraryEntry? entry = some path ∧
      (Path.Continues root below path ↔ below.head? ≠ some '/' ∨ root.components = [.root]) := by
  rw [libraryEntry?_eq hdivided hrelative, hroot]
  cases below with
  | nil => exact ⟨root, rfl, iff_of_true (Path.continues_nil root) (.inl (by simp))⟩
  | cons c below => exact ⟨_, rfl, Path.continues_join_iff root (c :: below)⟩

/-- The paths of the entries are added one after the other. -/
theorem addAll_filterMap (env : Environment) (library : Library) (entries : List String) :
    library.addAll env.files (entries.filterMap env.libraryEntry?) = entries.foldl env.seed library := by
  unfold Library.addAll
  rw [List.foldl_filterMap]
  refine List.foldl_ext _ _ _ fun library entry _ => ?_
  unfold seed
  cases env.libraryEntry? entry <;> rfl

/-- **Entries that are passed over leave no trace.** -/
theorem filterMap_filter {keep : String → Bool} {entries : List String}
    (h : ∀ entry ∈ entries, keep entry = false → env.libraryEntry? entry = none) :
    (entries.filter keep).filterMap env.libraryEntry? = entries.filterMap env.libraryEntry? := by
  rw [List.filterMap_filter]
  refine List.filterMap_congr fun entry hentry => ?_
  cases hkeep : keep entry with
  | true => rfl
  | false => exact (h entry hentry hkeep).symm

end Environment

/-! ## The library of a new session -/

namespace Session

/-- **Plugin entries go on from their plugin unless they name a path of their own.**  A new session adds the
runtime to the global library, then the paths of the configured entries, one after the other; what is added
stands in that order.  Entries that stand for no path can be left out of the configuration.  An entry that is
no absolute path has the name of a plugin before its first slash.  If the plugin is unknown, the entry adds
nothing.  If it is known, the entry adds one path, and that path goes on from the directory of the plugin by
what stands behind the slash, exactly if that does not begin with a slash too or the directory is the root. -/
theorem seeds_continue_iff (config : Config) (env : Environment) (libraries : Libraries) :
    (startWith config env libraries).tracker.libraries.global =
      config.library.foldl env.seed (libraries.global.addAll env.files config.runtime.toList) ∧
    (∃ added, (startWith config env libraries).tracker.libraries.global.paths =
        (libraries.global.addAll env.files config.runtime.toList).paths ++ added ∧
      added.Sublist ((config.library.filterMap env.libraryEntry?).map env.files.normalize)) ∧
    (∀ keep : String → Bool,
      (∀ entry ∈ config.library, keep entry = false → env.libraryEntry? entry = none) →
      (startWith { config with library := config.library.filter keep } env libraries).tracker.libraries =
        (startWith config env libraries).tracker.libraries) ∧
    ∀ entry ∈ config.library, (Path.ofString entry).isAbsolute = false →
      ∃ plugin below, Divided entry plugin below ∧
        (env.packages.plugin? env.files (String.ofList plugin) = none →
          env.libraryEntry? entry = none ∧ ∀ library, env.seed library entry = library) ∧
        ∀ root, env.packages.plugin? env.files (String.ofList plugin) = some root →
          ∃ path, env.libraryEntry? entry = some path ∧
            (∀ library, env.seed library entry = library.add env.files path) ∧
            (Path.Continues root below path ↔ below.head? ≠ some '/' ∨ root.components = [.root]) := by
  have hglobal : (startWith config env libraries).tracker.libraries.global =
      (libraries.global.addAll env.files config.runtime.toList).addAll env.files
        (config.library.filterMap env.libraryEntry?) := Library.addAll_append _ _ _ _
  refine ⟨hglobal.trans (Environment.addAll_filterMap env _ _), ?_, ?_, ?_⟩
  · rw [hglobal]
    exact Library.exists_sublist_addAll env.files _ _
  · intro keep hkeep
    have hseeds : env.seeds { config with library := config.library.filter keep } = env.seeds config :=
      congrArg (config.runtime.toList ++ ·) (Environment.filterMap_filter hkeep)
    unfold startWith
    rw [hseeds]
    rfl
  · intro entry _ hrelative
    obtain ⟨plugin, below, hdivided⟩ := exists_divided entry
    refine ⟨plugin, below, hdivided, fun hunknown => ?_, fun root hroot => ?_⟩
    · have hnone : env.libraryEntry? entry = none := by
        rw [Environment.libraryEntry?_eq hdivided hrelative, hunknown]
        rfl
      exact ⟨hnone, fun library => by rw [Environment.seed, hnone]⟩
    · obtain ⟨path, hpath, hcontinues⟩ := Environment.exists_libraryEntry? hdivided hrelative hroot
      exact ⟨path, hpath, fun library => by rw [Environment.seed, hpath], hcontinues⟩

/-- A disk with one package root, which holds one plugin: `/pk/foo`. -/
def planted : Environment :=
  { files := ⟨[(Utf8.encode "pk".toList, .directory [(Utf8.encode "foo".toList, .directory [])])], []⟩
    loaded := []
    packages := .ofRoots [.ofString "/pk"]
    buffers := .empty
    clients := .ofList [] }

/-- An unknown plugin, a place in a known one, and an absolute path. -/
def mixed : Config := { library := ["gone/nx", "foo/nx/lib", "/nx"] }

theorem seeds_continue_iff_mixed :
    (startWith { mixed with library := ["foo/nx/lib", "/nx"] } planted .empty).tracker.libraries =
        (startWith mixed planted .empty).tracker.libraries ∧
      ∃ path, planted.libraryEntry? "foo/nx/lib" = some path ∧
        Path.Continues (.ofString "/pk/foo") "nx/lib".toList path := by
  obtain ⟨-, -, hskip, hentries⟩ := seeds_continue_iff mixed planted .empty
  refine ⟨hskip (· != "gone/nx") (by decide +kernel), ?_⟩
  obtain ⟨plugin, below, hdivided, -, hknown⟩ := hentries "foo/nx/lib" (by decide) (by decide +kernel)
  obtain ⟨rfl, rfl⟩ := hdivided.eq
  obtain ⟨path, hpath, -, hcontinues⟩ := hknown (.ofString "/pk/foo") (by decide +kernel)
  exact ⟨path, hpath, hcontinues.2 (.inl (by decide +kernel))⟩

/-- A plugin entry need not lead below its plugin: `foo//nx` leads to `/nx`. -/
theorem not_forall_continues : ¬ ∀ (env : Environment) (entry : String) (plugin below : List Char)
    (root : Path), (Path.ofString entry).isAbsolute = false → Divided entry plugin below →
      env.packages.plugin? env.files (String.ofList plugin) = some root →
      ∃ path, env.libraryEntry? entry = some path ∧ Path.Continues root below path := by
  intro h
  obtain ⟨path, hpath, hcontinues⟩ := h planted "foo//nx" "foo".toList "/nx".toList (.ofString "/pk/foo")
    (by decide +kernel) ⟨by decide, .inl (by decide)⟩ (by decide +kernel)
  have houtside : planted.libraryEntry? "foo//nx" = some (.ofString "/nx") := by decide +kernel
  obtain rfl : Path.ofString "/nx" = path := Option.some.inj (houtside.symm.trans hpath)
  exact absurd hcontinues.within (by decide +kernel)

end Session

end LibraryPaths

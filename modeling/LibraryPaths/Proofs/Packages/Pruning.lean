import LibraryPaths.Proofs.FileSystem.Below
import LibraryPaths.Proofs.FileSystem.Listing
import LibraryPaths.Proofs.Path.Order
import LibraryPaths.Proofs.Resolution.Frozen

/-!
# Leaving plugins out

A module is looked for only in the plugins that ship its top-level name.  A file in which a module may be is the
file of that name itself or lies below the directory of that name, so a plugin that ships neither has no such
file, and leaving it out of the search changes nothing.  The plugins of a root are sorted, so it does not matter
in which order the root is listed.

* `provides_of_isFile`: a plugin with a file of a module provides the module;
* `search_candidates`: searching the candidates is searching all plugins;
* `pluginDirectories_reordered`: the plugins come in one order, however they are listed;
* `lookUp_candidates`: what a lookup finds.
-/

set_option autoImplicit false

namespace LibraryPaths

/-! ## The first segment of a name -/

/-- The first piece is what stands before the first separator. -/
theorem head?_splitOnP {α : Type} (sep : α → Bool) (xs : List α) :
    (xs.splitOnP sep).head? = some (xs.takeWhile (!sep ·)) := by
  induction xs with
  | nil => rfl
  | cons x xs ih =>
    rw [List.splitOnP_cons_eq_if_modifyHead]
    cases hx : sep x with
    | true => simp [hx]
    | false => simp [hx, List.head?_modifyHead, ih]

namespace ModuleName

variable {name : String}

theorem topSegment_ne_nil (h : isSearchable name = true) : topSegment name ≠ [] := by
  intro hempty
  have hhead : (segments name).head? = some [] := by
    rw [← hempty]
    exact head?_splitOnP isSeparator name.toList
  have hmem : [] ∈ segments name := List.mem_of_head? hhead
  have hne := List.all_eq_true.1 h [] hmem
  cases hne

theorem isSeparator_of_mem_topSegment {c : Char} (h : c ∈ topSegment name) : isSeparator c = false := by
  have hnot : (!isSeparator c) = true := List.all_eq_true.1 (List.all_takeWhile) c h
  simpa using hnot

/-- The relative path of a module is its first segment, or goes on behind it with a slash. -/
theorem relativePath_cases (name : String) :
    relativePath name = topSegment name ∨
      ∃ more, relativePath name = topSegment name ++ '/' :: more := by
  have hsplit : name.toList = topSegment name ++ name.toList.dropWhile (!isSeparator ·) :=
    List.takeWhile_append_dropWhile.symm
  have htop : (topSegment name).map (fun c => if c == '.' then '/' else c) = topSegment name := by
    refine (List.map_congr_left fun c hc => ?_).trans (List.map_id _)
    have hsep := isSeparator_of_mem_topSegment hc
    rw [isSeparator, Bool.or_eq_false_iff] at hsep
    rw [hsep.1]
    rfl
  unfold relativePath
  rw [hsplit, List.map_append, htop]
  cases hrest : name.toList.dropWhile (!isSeparator ·) with
  | nil => exact .inl (List.append_nil _)
  | cons c more =>
    have hsep : isSeparator c = true := by
      have hnot := List.head?_dropWhile_not (!isSeparator ·) name.toList
      rw [hrest] at hnot
      simpa using hnot
    refine .inr ⟨more.map fun c => if c == '.' then '/' else c, ?_⟩
    rw [List.map_cons]
    rcases Bool.or_eq_true_iff.1 hsep with hc | hc
    · rw [hc]
      rfl
    · rw [eq_of_beq hc]
      rfl

/-- A text without separators is the name of a file or directory, if it is not empty. -/
theorem plainName_encode {text : List Char} (hne : text ≠ [])
    (h : ∀ c ∈ text, isSeparator c = false) : PlainName (Utf8.encode text) := by
  have hdot : dot ∉ Utf8.encode text := by
    intro hmem
    have hsep := h '.' (Utf8.mem_of_dot_mem_encode hmem)
    cases hsep
  refine ⟨fun hempty => hne (Utf8.encode_eq_nil hempty), ?_, ?_, ?_⟩
  · intro heq
    rw [heq] at hdot
    exact hdot List.mem_cons_self
  · intro heq
    rw [heq] at hdot
    exact hdot List.mem_cons_self
  · intro hmem
    have hsep := h '/' (Utf8.mem_of_slash_mem_encode hmem)
    cases hsep

/-- The first segment of a name that is looked for is the name of a file or directory. -/
theorem plainName_topSegment (h : isSearchable name = true) :
    PlainName (Utf8.encode (topSegment name)) :=
  plainName_encode (topSegment_ne_nil h) fun _ => isSeparator_of_mem_topSegment

end ModuleName

namespace Packages

variable {fs other : FileSystem} {packages : Packages} {sourceDir name : String} {plugin root probe : Path}

/-! ## What a plugin must ship -/

/-- **Every file a module may be in** is the one of its first segment, or lies below the directory of that
segment. -/
theorem probes_cases (hname : ModuleName.isSearchable name = true)
    (h : probe ∈ Places.probes sourceDir name plugin) :
    probe = (plugin.joinText sourceDir).join (.ofChars (ModuleName.topSegment name ++ ".lua".toList)) ∨
    ∃ below, probe =
      ⟨((plugin.joinText sourceDir).join (.ofChars (ModuleName.topSegment name))).bytes ++ slash :: below⟩ := by
  obtain ⟨hne, -, -, hslash⟩ := ModuleName.plainName_topSegment hname
  have hinit : ∀ p : Path, p.joinText "init.lua" = ⟨p.base ++ (Path.ofString "init.lua").bytes⟩ :=
    fun p => Path.join_eq p (by decide)
  unfold Places.probes at h
  simp only [List.mem_cons, List.not_mem_nil, or_false] at h
  generalize plugin.joinText sourceDir = source at h ⊢
  -- what goes on behind the first segment lies below its directory
  have hbelow : ∀ more, source.join (.ofChars (ModuleName.topSegment name ++ '/' :: more)) =
      ⟨(source.join (.ofChars (ModuleName.topSegment name))).bytes ++ slash :: Utf8.encode more⟩ := by
    intro more
    have hencode : Path.ofChars (ModuleName.topSegment name ++ '/' :: more) =
        ⟨Utf8.encode (ModuleName.topSegment name) ++ slash :: Utf8.encode more⟩ :=
      congrArg Path.mk (Utf8.encode_append _ _)
    rw [hencode]
    exact Path.join_append source hne hslash _
  rcases ModuleName.relativePath_cases name with hrelative | ⟨more, hrelative⟩
  · have hbase : (source.join (.ofChars (ModuleName.topSegment name))).base =
        (source.join (.ofChars (ModuleName.topSegment name))).bytes ++ [slash] :=
      Path.base_eq (Path.getLast?_pieces_join_name source hslash) hne
    rw [hrelative, hinit, hbase, List.append_assoc, List.singleton_append] at h
    exact h.imp_right fun heq => ⟨_, heq⟩
  · rw [hrelative, List.append_assoc, List.cons_append, hbelow, hbelow, hinit] at h
    rcases h with rfl | rfl
    · exact .inr ⟨_, rfl⟩
    · obtain ⟨rest, hrest⟩ := Path.prefix_base
        ⟨(source.join (.ofChars (ModuleName.topSegment name))).bytes ++ slash :: Utf8.encode more⟩
      rw [← hrest, List.append_assoc, List.append_assoc, List.cons_append]
      exact .inr ⟨_, rfl⟩

/-- **A plugin with a file in which a module may be provides the module.** -/
theorem provides_of_isFile (hname : ModuleName.isSearchable name = true)
    (hprobe : probe ∈ Places.probes sourceDir name plugin) (hfile : fs.isFile probe = true) :
    provides fs sourceDir name plugin = true := by
  have htop : (ModuleName.topSegment name).isEmpty = false :=
    List.isEmpty_eq_false_iff.2 (ModuleName.topSegment_ne_nil hname)
  have hplain := ModuleName.plainName_topSegment hname
  unfold provides
  simp only [htop, Bool.not_false, Bool.true_and, Bool.or_eq_true]
  rcases probes_cases hname hprobe with rfl | ⟨below, rfl⟩
  · exact .inr hfile
  · exact .inl (FileSystem.isDirectory_of_isFile
      (Path.getLast?_pieces_join_name _ hplain.2.2.2) hplain hfile)

/-- What has nothing to be found in may be left out of a search. -/
theorem find?_flatMap_filter {α β : Type} {keep : α → Bool} {f : α → List β} {q : β → Bool} {xs : List α}
    (h : ∀ x ∈ xs, ∀ y ∈ f x, q y = true → keep x = true) :
    ((xs.filter keep).flatMap f).find? q = (xs.flatMap f).find? q := by
  induction xs with
  | nil => rfl
  | cons x xs ih =>
    have hrest := ih fun x' hx' => h x' (List.mem_cons_of_mem _ hx')
    rw [List.flatMap_cons, List.find?_append]
    cases hx : keep x with
    | true => rw [List.filter_cons_of_pos hx, List.flatMap_cons, List.find?_append, hrest]
    | false =>
      have hnone : (f x).find? q = none := by
        refine List.find?_eq_none.2 fun y hy hq => ?_
        rw [h x List.mem_cons_self y hy hq] at hx
        cases hx
      rw [List.filter_cons_of_neg (by simp [hx]), hrest, hnone, Option.none_or]

/-- **Searching the candidates is searching all plugins.** -/
theorem search_candidates (hfixed : packages.fixed = none) (hname : ModuleName.isSearchable name = true) :
    Places.search fs sourceDir (packages.candidates fs sourceDir name) name =
      Places.search fs sourceDir (packages.pluginDirectories fs) name := by
  unfold Places.search candidates
  rw [hfixed]
  exact find?_flatMap_filter fun plugin _ probe hprobe hfile => provides_of_isFile hname hprobe hfile

/-! ## The order of plugins -/

theorem mem_pluginsOf : plugin ∈ pluginsOf fs root ↔
    ∃ n ∈ fs.children root, plugin = root.join ⟨n⟩ ∧ fs.isDirectory plugin = true := by
  unfold pluginsOf
  rw [List.mem_mergeSort, List.mem_filter, List.mem_map]
  constructor
  · rintro ⟨⟨n, hn, rfl⟩, hdirectory⟩
    exact ⟨n, hn, rfl, hdirectory⟩
  · rintro ⟨n, hn, rfl, hdirectory⟩
    exact ⟨⟨n, hn, rfl⟩, hdirectory⟩

theorem pairwise_pluginsOf (fs : FileSystem) (root : Path) :
    (pluginsOf fs root).Pairwise (fun p q => p.le q = true) := by
  unfold pluginsOf
  exact @List.pairwise_mergeSort Path Path.le (fun _ _ _ => Path.le_of_le_of_le) Path.le_or_ge _

/-- The plugins of a root come in one order, however the root is listed. -/
theorem pluginsOf_reordered (h : fs.Reordered other) (hplain : ∀ n ∈ fs.children root, PlainName n) :
    pluginsOf other root = pluginsOf fs root := by
  have hperm : (pluginsOf other root).Perm (pluginsOf fs root) := by
    unfold pluginsOf
    rw [h.isDirectory]
    exact ((List.mergeSort_perm _ _).trans (((h.children root).map _).filter _)).trans
      (List.mergeSort_perm _ _).symm
  refine List.Perm.eq_of_pairwise ?_ (pairwise_pluginsOf other root) (pairwise_pluginsOf fs root) hperm
  intro p q hp hq hpq hqp
  obtain ⟨n, hn, rfl, -⟩ := mem_pluginsOf.1 (hperm.mem_iff.1 hp)
  obtain ⟨m, hm, rfl, -⟩ := mem_pluginsOf.1 hq
  rw [Path.eq_of_components_join (hplain n hn) (hplain m hm) (Path.components_eq_of_le hpq hqp)]

theorem pluginDirectories_reordered (h : fs.Reordered other)
    (hplain : ∀ root ∈ packages.roots, ∀ n ∈ fs.children root, PlainName n) :
    packages.pluginDirectories other = packages.pluginDirectories fs := by
  unfold pluginDirectories
  exact List.flatMap_congr fun root hroot => pluginsOf_reordered h (hplain root hroot)

theorem candidates_reordered (h : fs.Reordered other)
    (hplain : ∀ root ∈ packages.roots, ∀ n ∈ fs.children root, PlainName n) :
    packages.candidates other sourceDir name = packages.candidates fs sourceDir name := by
  have hprovides : provides other sourceDir name = provides fs sourceDir name := by
    funext plugin
    unfold provides
    rw [h.isDirectory, h.isFile]
  unfold candidates
  rw [pluginDirectories_reordered h hplain, hprovides]

end Packages

/-! ## Lookups -/

namespace Places

variable {places : Places} {other : FileSystem}

/-- The same places, with all plugins on the disk for an answer to every search. -/
def unpruned (places : Places) : Places :=
  { places with
    packages := { places.packages with fixed := some (places.packages.pluginDirectories places.files) } }

theorem answer_unpruned (hfixed : places.packages.fixed = none) : places.unpruned.answer = places.answer := by
  funext name
  have hfile : places.unpruned.file? name = places.file? name := by
    unfold file?
    cases hname : ModuleName.isSearchable name with
    | false => rfl
    | true =>
      rw [Packages.search_candidates hfixed hname]
      rfl
  unfold answer
  rw [hfile]
  rfl

theorem answer_reordered (h : places.files.Reordered other)
    (hplain : ∀ root ∈ places.packages.roots, ∀ n ∈ places.files.children root, PlainName n) :
    answer { places with files := other } = places.answer := by
  funext name
  have hfile : file? { places with files := other } name = places.file? name := by
    unfold file? search
    simp only [Packages.candidates_reordered h hplain, h.isFile]
  unfold answer
  rw [hfile]
  cases places.file? name with
  | none => rfl
  | some file => exact congrArg (Resolution.found file) (h.normalize _)

end Places

namespace Resolutions

variable {places : Places}

/-- **Leaving plugins out hides no module.**  The plugins are found on the disk, those of each root in the order
of their paths.  Looking a name up among the plugins that ship its first segment is looking it up among all of
them, whatever files and links lie below them; so a module that is not loaded is found in the first file of
all that it may be in, or not at all.  The order in which the operating system lists directories makes no
difference; the names in the roots are plain, as those that a directory can hold. -/
theorem lookUp_candidates (hfixed : places.packages.fixed = none) :
    (∀ resolutions name, lookUp places resolutions name = lookUp places.unpruned resolutions name) ∧
    (∀ resolutions name, ModuleName.isSearchable name = true → places.loaded.lookup name = none →
      (lookUp places resolutions name).2.file? =
        Places.search places.files places.sourceDir (places.packages.pluginDirectories places.files) name) ∧
    (∀ root, (Packages.pluginsOf places.files root).Pairwise (fun p q => p.le q = true) ∧
      ∀ plugin, plugin ∈ Packages.pluginsOf places.files root ↔
        ∃ n ∈ places.files.children root,
          plugin = root.join ⟨n⟩ ∧ places.files.isDirectory plugin = true) ∧
    ∀ other, places.files.Reordered other →
      (∀ root ∈ places.packages.roots, ∀ n ∈ places.files.children root, PlainName n) →
      ∀ resolutions name,
        lookUp { places with files := other } resolutions name = lookUp places resolutions name := by
  refine ⟨?_, ?_, fun root => ⟨Packages.pairwise_pluginsOf _ root, fun _ => Packages.mem_pluginsOf⟩, ?_⟩
  · intro resolutions name
    rw [lookUp_eq, lookUp_eq, Places.answer_unpruned hfixed]
    rfl
  · intro resolutions name hname hloaded
    rw [lookUp_eq, ← Packages.search_candidates hfixed hname]
    unfold Places.answer Places.file?
    rw [if_pos hname, hloaded]
    cases Places.search places.files places.sourceDir
      (places.packages.candidates places.files places.sourceDir name) name <;> rfl
  · intro other hother hplain resolutions name
    rw [lookUp_eq, lookUp_eq, Places.answer_reordered hother hplain]
    rfl

/-- A plugin with some members below its source directory. -/
def smallPlugin (name : String) (members : List (Name × Node)) : Name × Node :=
  ((Path.ofString name).bytes, .directory [((Path.ofString "lua").bytes, .directory members)])

/-- The file of a module without text. -/
def smallModule (name : String) : Name × Node := ((Path.ofString name).bytes, .file [])

/-- Three plugins in the root, two of which ship a module. -/
def smallMembers : List (Name × Node) :=
  [smallPlugin "a" [smallModule "m.lua"], smallPlugin "b" [smallModule "m.lua"], smallPlugin "c" []]

/-- The places where some plugins lie in the root. -/
def smallRoot (members : List (Name × Node)) : Places :=
  ⟨⟨members, []⟩, [], .ofRoots [.ofString "/"], "lua"⟩

/-- The first of two plugins that ship a module is the same, however the plugins are listed. -/
theorem lookUp_candidates_small :
    (smallRoot smallMembers).packages.pluginDirectories ⟨smallMembers, []⟩ =
      [.ofString "/a", .ofString "/b", .ofString "/c"] ∧
    (smallRoot smallMembers).packages.candidates ⟨smallMembers, []⟩ "lua" "m" =
      [.ofString "/a", .ofString "/b"] ∧
    (empty.lookUp (smallRoot smallMembers) "m").2.file? = some (.ofString "/a/lua/m.lua") ∧
    empty.lookUp (smallRoot smallMembers.reverse) "m" = empty.lookUp (smallRoot smallMembers) "m" := by
  have hplugins : (smallRoot smallMembers).packages.pluginDirectories ⟨smallMembers, []⟩ =
      [.ofString "/a", .ofString "/b", .ofString "/c"] := by
    unfold Packages.pluginDirectories Packages.pluginsOf smallRoot Packages.ofRoots
    rw [List.flatMap_singleton, List.mergeSort_of_pairwise (by decide +kernel)]
    decide +kernel
  obtain ⟨-, hfile, -, hordered⟩ :=
    lookUp_candidates (rfl : (smallRoot smallMembers).packages.fixed = none)
  refine ⟨hplugins, ?_, ?_, ?_⟩
  · unfold Packages.candidates
    rw [hplugins]
    decide +kernel
  · rw [hfile empty "m" (by decide +kernel) rfl]
    exact (congrArg (Places.search _ _ · _) hplugins).trans (by decide +kernel)
  · refine hordered _ (FileSystem.reordered_of_perm (List.reverse_perm _) (by decide +kernel) []) ?_ _ _
    unfold PlainName
    decide +kernel

end Resolutions

end LibraryPaths

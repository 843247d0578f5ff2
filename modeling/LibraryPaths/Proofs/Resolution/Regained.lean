import LibraryPaths.Proofs.FileSystem.Fillers
import LibraryPaths.Proofs.Resolution.Probes

/-!
# A module is found again below its library root

A search spells the path of a module forwards, from a plugin over its source directory to the segments of the
module; the library root is read off that path from its beginning.  Where the path of the plugin does not pass
a directory of the same name already, both meet: the root is the source directory of the plugin, and the same
names lead from its canonical path to the same file, whatever links lie on the way.

A canonical path is made by reading every entry on the way by its own path.  Where links lead through deep
directories such a path can be longer than the operating system takes, although the path of the module is not.

* `libraryRoot_cases`: where the library root of a file ends;
* `libraryRoot_join`: the library root of a module found below a plugin is the plugin's source directory;
* `lookUp_regained`: the file of a module is found below its library root.
-/

set_option autoImplicit false

namespace LibraryPaths

/-! ## The library root of a file -/

section Root

variable {s : Name} {before rest : List Component} {sourceDir : String} {file : Path}

theorem rootComponents?_append (hnot : .name s ∉ before) (hrest : rest ≠ []) :
    rootComponents? s (before ++ .name s :: rest) = some (before ++ [.name s]) := by
  induction before with
  | nil =>
    cases rest with
    | nil => exact absurd rfl hrest
    | cons c rest => simp [rootComponents?]
  | cons c before ih =>
    rw [List.mem_cons, not_or] at hnot
    have hnext : ∃ d more, before ++ .name s :: rest = d :: more := by
      cases before <;> exact ⟨_, _, rfl⟩
    obtain ⟨d, more, hmore⟩ := hnext
    rw [List.cons_append, hmore, rootComponents?, if_neg fun hc => hnot.1 hc.symm, ← hmore, ih hnot.2]
    · rfl
    · simp

/-- Nothing that is followed by something else is the source directory, if no root is found. -/
theorem rootComponents?_cases (s : Name) (cs : List Component) :
    (∃ before rest, cs = before ++ .name s :: rest ∧ rest ≠ [] ∧ .name s ∉ before ∧
      rootComponents? s cs = some (before ++ [.name s])) ∨
    ((∀ before rest, cs = before ++ .name s :: rest → rest = []) ∧ rootComponents? s cs = none) := by
  fun_induction rootComponents? s cs with
  | case1 => exact .inr ⟨fun before rest h => by simp at h, rfl⟩
  | case2 c =>
    refine .inr ⟨fun before rest h => ?_, rfl⟩
    have hlength := congrArg List.length h
    simp only [List.length_append, List.length_cons, List.length_nil] at hlength
    exact List.length_eq_zero_iff.1 (by omega)
  | case3 rest hrest => exact .inl ⟨[], rest, rfl, by simpa using hrest, by simp, rfl⟩
  | case4 c rest hne hc ih =>
    rcases ih with ⟨before, after, rfl, hafter, hnot, hroot⟩ | ⟨hnone, hroot⟩
    · refine .inl ⟨c :: before, after, rfl, hafter, ?_, by rw [hroot]; rfl⟩
      rw [List.mem_cons, not_or]
      exact ⟨fun heq => hc heq.symm, hnot⟩
    · refine .inr ⟨fun before after h => ?_, by rw [hroot]; rfl⟩
      cases before with
      | nil => exact absurd (List.cons.inj h).1 hc
      | cons b before => exact hnone before after (List.cons.inj h).2

/-- **Where the library root of a file ends**: at the first directory on its path that has the name of the
source directory, or before the last component if there is none. -/
theorem libraryRoot_cases (sourceDir : String) (file : Path) :
    (∃ before rest, file.components = before ++ .name (Utf8.encode sourceDir.toList) :: rest ∧ rest ≠ [] ∧
      .name (Utf8.encode sourceDir.toList) ∉ before ∧
      (libraryRoot sourceDir file).components = before ++ [.name (Utf8.encode sourceDir.toList)]) ∨
    ((∀ before rest, file.components = before ++ .name (Utf8.encode sourceDir.toList) :: rest → rest = []) ∧
      libraryRoot sourceDir file = file.parent?.getD file) := by
  have hspellable := Path.spellable_components file
  unfold libraryRoot
  rcases rootComponents?_cases (Utf8.encode sourceDir.toList) file.components with
    ⟨before, rest, hcs, hrest, hnot, hroot⟩ | ⟨hnone, hroot⟩
  · rw [hroot]
    refine .inl ⟨before, rest, hcs, hrest, hnot, Path.components_ofComponents (hspellable.of_prefix ?_)⟩
    rw [hcs]
    exact ⟨rest, by simp⟩
  · rw [hroot]
    exact .inr ⟨hnone, rfl⟩

/-- **The library root of a file lies on its path**: it ends at the first directory there that has the name of
the source directory; if there is none, it is the parent of the file, or the file itself if that has none. -/
theorem libraryRoot_spec (sourceDir : String) (file : Path) :
    (libraryRoot sourceDir file).components <+: file.components ∧
    ((∃ before rest, file.components = before ++ .name (Utf8.encode sourceDir.toList) :: rest ∧ rest ≠ [] ∧
        .name (Utf8.encode sourceDir.toList) ∉ before ∧
        (libraryRoot sourceDir file).components = before ++ [.name (Utf8.encode sourceDir.toList)]) ∨
      ((∀ before rest, file.components = before ++ .name (Utf8.encode sourceDir.toList) :: rest → rest = []) ∧
        (file.parent? = some (libraryRoot sourceDir file) ∧
            (libraryRoot sourceDir file).components = file.components.dropLast ∨
          file.parent? = none ∧ libraryRoot sourceDir file = file ∧
            (file.components = [] ∨ file.components = [.root])))) := by
  rcases libraryRoot_cases sourceDir file with ⟨before, rest, hcs, hrest, hnot, hroot⟩ | ⟨hnone, hroot⟩
  · refine ⟨?_, .inl ⟨before, rest, hcs, hrest, hnot, hroot⟩⟩
    rw [hroot, hcs]
    exact ⟨rest, by simp⟩
  · rcases Path.parent?_cases file with ⟨hparent, hcs⟩ | ⟨parent, hparent, -, -, hcs⟩
    · rw [hparent, Option.getD_none] at hroot
      rw [hroot]
      exact ⟨List.prefix_rfl, .inr ⟨hnone, .inr ⟨hparent, rfl, hcs⟩⟩⟩
    · rw [hparent, Option.getD_some] at hroot
      rw [hroot, hcs]
      exact ⟨List.dropLast_prefix _, .inr ⟨hnone, .inl ⟨hparent, rfl⟩⟩⟩

end Root

/-! ## Paths below a directory -/

namespace Path

variable {p : Path} {names d : List Name} {cs : List Component} {b : UInt8} {n : Name}

theorem mem_pieces_of_mem_components (h : .name n ∈ p.components) : n ∈ p.pieces := by
  have hmem : n ∈ p.components.filterMap Component.piece? := List.mem_filterMap.2 ⟨.name n, h, rfl⟩
  rw [← filter_pieces] at hmem
  exact (List.mem_filter.1 hmem).1

/-- A path spelled from components has the octets of the names, and those of `/` and `..`. -/
theorem notMem_ofComponents (hslash : b ≠ slash) (hdot : b ≠ dot) (h : ∀ n, .name n ∈ cs → b ∉ n) :
    b ∉ (ofComponents cs).bytes := by
  induction cs using List.reverseRecOn with
  | nil => simp [ofComponents]
  | append_singleton cs c ih =>
    have hc : b ∉ (ofComponent c).bytes := by
      cases c with
      | name n => exact h n (by simp)
      | _ => simp [ofComponent, hslash, hdot]
    have hcs := ih fun n hn => h n (List.mem_append_left _ hn)
    rw [ofComponents_concat]
    unfold join
    split
    · exact hc
    split <;> simp [hcs, hc, hslash]

/-- Names joined to the path of a directory go on behind its names. -/
theorem join_ofNames (hd : ∀ n ∈ d, PlainName n) (hne : names ≠ []) (h : ∀ n ∈ names, PlainName n) :
    (ofNames d).join (ofPieces names) = ofNames (d ++ names) := by
  rw [join_eq _ (isAbsolute_ofPieces fun n hn => solid_of_plainName (h n hn))]
  cases hlast : d.getLast? with
  | none =>
    obtain rfl := List.getLast?_eq_none_iff.1 hlast
    rfl
  | some last =>
    have hdne : d ≠ [] := by
      rintro rfl
      cases hlast
    have hpieces : (ofNames d).pieces.getLast? = some last := by
      rw [pieces_ofNames hd hdne, List.getLast?_cons, hlast]
      rfl
    rw [base_eq hpieces (hd last (List.mem_of_getLast? hlast)).1]
    unfold ofNames
    rw [intercalate_append hdne hne, ofPieces]
    simp

end Path

namespace FileSystem

variable {fs : FileSystem} {p : Path} {d location : Location}

theorem isFile_iff : fs.isFile p = true ↔
    ∃ location content, fs.land p = .ok (.found location) ∧ fs.entry? location = some (.file content) := by
  unfold isFile
  constructor
  · intro h
    split at h
    · rename_i content hstat
      obtain ⟨location, hland, hentry⟩ := found_of_stat hstat
      exact ⟨location, content, hland, hentry⟩
    · cases h
  · rintro ⟨location, content, hland, hentry⟩
    rw [stat_of_found hland hentry]

theorem isFile_of_follow {content : List UInt8} (h : fs.follow p = .ok (.found location))
    (hentry : fs.entry? location = some (.file content)) (hshort : p.bytes.length ≤ maxPath) :
    fs.isFile p = true := by
  refine isFile_iff.2 ⟨location, content, ?_, hentry⟩
  unfold land
  rwa [if_pos (.inl hshort)]

end FileSystem

/-! ## Modules of a plugin -/

section Below

variable {fs : FileSystem} {sourceDir : String} {plugin : Path} {names d location : List Name}

/-- The source directory of a plugin, by its name as octets. -/
theorem components_joinText (plugin : Path) (hsource : PlainName (Utf8.encode sourceDir.toList)) :
    (plugin.joinText sourceDir).components =
      plugin.components ++ [.name (Utf8.encode sourceDir.toList)] := by
  have hspelled : plugin.joinText sourceDir =
      plugin.join (.ofComponent (.name (Utf8.encode sourceDir.toList))) := rfl
  rw [hspelled]
  exact Path.components_join_ofComponent plugin (.inr ⟨_, rfl, hsource⟩)

/-- **What is read off the path of a module is its source directory**, if the plugin does not lie below one of
that name. -/
theorem libraryRoot_join (hsource : PlainName (Utf8.encode sourceDir.toList)) (hne : names ≠ [])
    (hnames : ∀ n ∈ names, PlainName n) (hnot : .name (Utf8.encode sourceDir.toList) ∉ plugin.components) :
    libraryRoot sourceDir ((plugin.joinText sourceDir).join (.ofPieces names)) =
      .ofComponents (plugin.joinText sourceDir).components := by
  have hfile := Path.components_join_names (plugin.joinText sourceDir) hne hnames
  rw [components_joinText plugin hsource] at hfile ⊢
  unfold libraryRoot
  rw [hfile, List.append_assoc, List.singleton_append, rootComponents?_append hnot (by simpa using hne)]

/-- The way to a file of a plugin passes its source directory. -/
theorem exists_source (hsource : PlainName (Utf8.encode sourceDir.toList)) (hne : names ≠ [])
    (hnames : ∀ n ∈ names, PlainName n)
    (h : fs.follow ((plugin.joinText sourceDir).join (.ofPieces names)) = .ok (.found location)) :
    ∃ d, fs.follow (plugin.joinText sourceDir) = .ok (.found d) ∧ fs.entry? d = some .directory ∧
      fs.walk FileSystem.maxLinks d names = .ok (.found location) := by
  have hlast : (plugin.joinText sourceDir).pieces.getLast? = some (Utf8.encode sourceDir.toList) :=
    Path.getLast?_pieces_join_name plugin hsource.2.2.2
  have hrelative := Path.isAbsolute_ofPieces fun n hn => Path.solid_of_plainName (hnames n hn)
  rw [Path.join_eq _ hrelative, Path.base_eq hlast hsource.1, List.append_assoc,
    List.singleton_append] at h
  have hpieces : (Path.mk (Path.ofPieces names).bytes).pieces = names :=
    Path.pieces_ofPieces hne fun n hn => (hnames n hn).2.2.2
  obtain ⟨d, hd, hentry, hwalk⟩ := FileSystem.directory_of_follow hlast hsource h
  rw [hpieces] at hwalk
  exact ⟨d, hd, hentry, hwalk⟩

/-- The components of a source directory spell a path that has the same canonical path, if any, and is cleaned
like it. -/
theorem canonical_ofComponents (fs : FileSystem) (hsource : PlainName (Utf8.encode sourceDir.toList))
    (hnul : 0 ∉ (plugin.joinText sourceDir).bytes) :
    fs.canonical (.ofComponents (plugin.joinText sourceDir).components) =
        fs.canonical (plugin.joinText sourceDir) ∧
      (Path.ofComponents (plugin.joinText sourceDir).components).clean fs.workingDirectory =
        (plugin.joinText sourceDir).clean fs.workingDirectory := by
  have hsame := Path.components_ofComponents (Path.spellable_components (plugin.joinText sourceDir))
  have hsolid : Path.isFiller (Utf8.encode sourceDir.toList) = false := by
    simp [Path.isFiller, hsource.1, hsource.2.1]
  have hspelled : Path.EndsSolid (Path.ofComponents (plugin.joinText sourceDir).components).pieces := by
    rw [components_joinText plugin hsource, Path.ofComponents_concat]
    exact ⟨_, Path.getLast?_pieces_join_name _ hsource.2.2.2, hsolid⟩
  refine ⟨FileSystem.canonical_of_components hspelled
    ⟨_, Path.getLast?_pieces_join_name plugin hsource.2.2.2, hsolid⟩ ?_ hnul hsame,
    Path.clean_of_components hsame _⟩
  exact Path.notMem_ofComponents (by decide) (by decide) fun n hn hmem =>
    hnul (Path.mem_bytes_of_mem_pieces (Path.mem_pieces_of_mem_components hn) hmem)

/-- **The file of a module is found again below its library root**, unless a path on the way to the root is
longer than paths can be. -/
theorem regained (hgenuine : fs.Genuine) (hsource : PlainName (Utf8.encode sourceDir.toList))
    (hne : names ≠ []) (hnames : ∀ n ∈ names, PlainName n)
    (hnot : .name (Utf8.encode sourceDir.toList) ∉ plugin.components) {file : Path}
    (hspelled : file = (plugin.joinText sourceDir).join (.ofPieces names)) (hfile : fs.isFile file = true) :
    fs.canonical (plugin.joinText sourceDir) = .ok (fs.normalize (libraryRoot sourceDir file)) ∧
      fs.follow ((fs.normalize (libraryRoot sourceDir file)).join (.ofPieces names)) = fs.follow file ∧
      (((fs.normalize (libraryRoot sourceDir file)).join (.ofPieces names)).bytes.length ≤
          FileSystem.maxPath →
        fs.isFile ((fs.normalize (libraryRoot sourceDir file)).join (.ofPieces names)) = true) ∨
    fs.canonical (plugin.joinText sourceDir) = .error .nameTooLong ∧
      fs.normalize (libraryRoot sourceDir file) =
        (plugin.joinText sourceDir).clean fs.workingDirectory := by
  obtain ⟨location, content, hland, hentry⟩ := FileSystem.isFile_iff.1 hfile
  have hfollow := FileSystem.follow_of_land hland
  subst hspelled
  obtain ⟨d, hd, hdirectory, hwalk⟩ := exists_source hsource hne hnames hfollow
  obtain ⟨hcanonical, hclean⟩ := canonical_ofComponents fs hsource (FileSystem.follow_eq_ok_iff.1 hd).1
  rw [libraryRoot_join hsource hne hnames hnot]
  rcases FileSystem.canonical_of_follow hd with hroot | hlong
  · rw [FileSystem.normalize_of_ok (hcanonical.trans hroot)]
    have hentries := hgenuine.entryName_of_follow hd
    have hnul : ∀ n ∈ names, 0 ∉ n := by
      intro n hn hzero
      refine (FileSystem.follow_eq_ok_iff.1 hfollow).1 ?_
      rw [Path.join_eq _ (Path.isAbsolute_ofPieces fun n hn => Path.solid_of_plainName (hnames n hn))]
      exact List.mem_append_right _ (Path.mem_intercalate_of_mem hn hzero)
    have hagain : fs.follow ((Path.ofNames d).join (.ofPieces names)) = .ok (.found location) := by
      rw [Path.join_ofNames (fun n hn => (hentries n hn).1) hne hnames,
        FileSystem.follow_ofNames_append hdirectory hentries hnames hnul, hwalk]
    exact .inl ⟨hroot, hagain.trans hfollow.symm, FileSystem.isFile_of_follow hagain hentry⟩
  · rw [FileSystem.normalize_of_error (hcanonical.trans hlong)]
    exact .inr ⟨hlong, hclean⟩

end Below

namespace Resolutions

/-! ## Lookups -/

/-- A module that the host has not loaded is resolved to the file that a search of the candidates finds. -/
theorem search_of_found {places : Places} {resolutions : Resolutions} {name : String} {file library : Path}
    (hloaded : places.loaded.lookup name = none)
    (h : (resolutions.lookUp places name).2 = .found file library) :
    ModuleName.isSearchable name = true ∧
      Places.search places.files places.sourceDir
        (places.packages.candidates places.files places.sourceDir name) name = some file ∧
      library = places.files.normalize (libraryRoot places.sourceDir file) := by
  rw [lookUp_eq] at h
  rcases places.answer_cases name with ⟨found, hfound, hanswer⟩ | ⟨-, hanswer⟩
  · obtain ⟨rfl, rfl⟩ : found = file ∧ _ = library := Resolution.found.inj (hanswer.symm.trans h)
    unfold Places.file? at hfound
    rw [hloaded] at hfound
    split at hfound
    · rename_i hsearchable
      exact ⟨hsearchable, hfound, rfl⟩
    · cases hfound
  · cases hanswer.symm.trans h

/-- **A module is found again below its library root.**  The source directory is a single plain name.  A
module that the host has not loaded is found at a path that goes down from the source directory of a
candidate by the names of the module.  If the candidate's own path has no component of the name of the source
directory, then the library kept is the canonical path of the candidate's source directory, and the same
names lead from there to the same file, which is a regular file if the path is no longer than paths can be.
There is no canonical path only if an entry on the way has a path that is longer than that; then the library
is the candidate's source directory cleaned by its spelling.  In general the library root of a file ends at
the first directory on the way to it that has the name of the source directory, or it is the parent of the
file, or the file itself if that has none. -/
theorem lookUp_regained (places : Places) (resolutions : Resolutions) (name : String)
    (hgenuine : places.files.Genuine) (hsource : PlainName (Utf8.encode places.sourceDir.toList)) :
    (∀ file library, places.loaded.lookup name = none →
      (resolutions.lookUp places name).2 = .found file library →
      (∃ plugin ∈ places.packages.candidates places.files places.sourceDir name,
        ∃ names ∈ [ModuleName.fileNames name, ModuleName.directoryNames name],
          file = (plugin.joinText places.sourceDir).join (.ofPieces names)) ∧
      ∀ (plugin : Path), ∀ names ∈ [ModuleName.fileNames name, ModuleName.directoryNames name],
        file = (plugin.joinText places.sourceDir).join (.ofPieces names) →
        .name (Utf8.encode places.sourceDir.toList) ∉ plugin.components →
        (places.files.canonical (plugin.joinText places.sourceDir) = .ok library ∧
          places.files.follow (library.join (.ofPieces names)) = places.files.follow file ∧
          ((library.join (.ofPieces names)).bytes.length ≤ FileSystem.maxPath →
            places.files.isFile (library.join (.ofPieces names)) = true)) ∨
        (places.files.canonical (plugin.joinText places.sourceDir) = .error .nameTooLong ∧
          library = (plugin.joinText places.sourceDir).clean places.files.workingDirectory)) ∧
    ∀ sourceDir file,
      (libraryRoot sourceDir file).components <+: file.components ∧
      ((∃ before rest, file.components = before ++ .name (Utf8.encode sourceDir.toList) :: rest ∧
          rest ≠ [] ∧ .name (Utf8.encode sourceDir.toList) ∉ before ∧
          (libraryRoot sourceDir file).components = before ++ [.name (Utf8.encode sourceDir.toList)]) ∨
        ((∀ before rest, file.components = before ++ .name (Utf8.encode sourceDir.toList) :: rest →
            rest = []) ∧
          (file.parent? = some (libraryRoot sourceDir file) ∧
              (libraryRoot sourceDir file).components = file.components.dropLast ∨
            file.parent? = none ∧ libraryRoot sourceDir file = file ∧
              (file.components = [] ∨ file.components = [.root])))) := by
  refine ⟨fun file library hloaded hfound => ?_, libraryRoot_spec⟩
  obtain ⟨hname, hsearch, rfl⟩ := search_of_found hloaded hfound
  obtain ⟨before, plugin, after, hplugins, -, hfile, hspelled⟩ :=
    (Places.search_eq_some_iff hname).1 hsearch
  refine ⟨⟨plugin, by rw [hplugins]; simp, ?_⟩, fun other names hnames hother hnot => ?_⟩
  · rcases hspelled with hspelled | ⟨-, hspelled⟩
    · exact ⟨_, by simp, hspelled⟩
    · exact ⟨_, by simp, hspelled⟩
  · have hplain : names ≠ [] ∧ ∀ n ∈ names, PlainName n := by
      simp only [List.mem_cons, List.not_mem_nil, or_false] at hnames
      rcases hnames with rfl | rfl
      · exact ⟨ModuleName.fileNames_ne_nil name, ModuleName.plainName_fileNames hname⟩
      · exact ⟨by simp [ModuleName.directoryNames], ModuleName.plainName_directoryNames hname⟩
    exact regained hgenuine hsource hplain.1 hplain.2 hnot hother hfile

/-- The places where the candidate for every module is the plugin `/l`. -/
def linkedPlaces (members : List (Name × Node)) : Places :=
  ⟨⟨members, []⟩, [], ⟨[], some [.ofString "/l"], []⟩, "lua"⟩

/-- A plugin with one module. -/
def smallPluginWithModule : Name × Node := smallPlugin "p" [smallModule "m.lua"]

theorem nulFree_smallPluginWithModule : smallPluginWithModule.2.NulFree :=
  .directory _ (List.forall_mem_singleton.2 (.directory _ (List.forall_mem_singleton.2 (.file []))))

/-- A link to a plugin. -/
def linkedMembers : List (Name × Node) :=
  [((Path.ofString "l").bytes, .link (.ofString "p")), smallPluginWithModule]

theorem genuine_linkedPlaces {members : List (Name × Node)} (h : ∀ member ∈ members, member.2.NulFree) :
    (linkedPlaces members).files.Genuine :=
  ⟨.directory _ h, fun _ hn => by cases hn⟩

/-- A module found through a link has the canonical source directory for its library, and lies there. -/
theorem lookUp_regained_linked :
    (linkedPlaces linkedMembers).files.Genuine ∧
    PlainName (Utf8.encode "lua".toList) ∧
    (empty.lookUp (linkedPlaces linkedMembers) "m").2 =
      .found (.ofString "/l/lua/m.lua") (.ofString "/p/lua") ∧
    (linkedPlaces linkedMembers).files.canonical (.ofString "/l/lua") = .ok (.ofString "/p/lua") ∧
    (linkedPlaces linkedMembers).files.isFile (.ofString "/p/lua/m.lua") = true := by
  have hgenuine : (linkedPlaces linkedMembers).files.Genuine := by
    refine genuine_linkedPlaces (List.forall_mem_cons.2 ⟨.link _ (by decide +kernel), ?_⟩)
    exact List.forall_mem_singleton.2 nulFree_smallPluginWithModule
  have hsource : PlainName (Utf8.encode "lua".toList) := by
    unfold PlainName
    decide +kernel
  have hfound : (empty.lookUp (linkedPlaces linkedMembers) "m").2 =
      .found (.ofString "/l/lua/m.lua") (.ofString "/p/lua") := by decide +kernel
  obtain ⟨-, hregained⟩ :=
    (lookUp_regained (linkedPlaces linkedMembers) empty "m" hgenuine hsource).1 _ _ rfl hfound
  rcases hregained (.ofString "/l") [(Path.ofString "m.lua").bytes] (by decide +kernel) (by decide +kernel)
    (by decide +kernel) with ⟨hcanonical, -, hfile⟩ | ⟨hlong, -⟩
  · exact ⟨hgenuine, hsource, hfound, hcanonical, hfile (by decide +kernel)⟩
  · exact absurd hlong (by decide +kernel)

/-- A name as long as names can be. -/
def longName : Name := List.replicate FileSystem.maxName 97

/-- An entry below so many directories with long names. -/
def nested : Nat → Name × Node → Name × Node
  | 0, member => member
  | depth + 1, member => (longName, .directory [nested depth member])

theorem nulFree_nested {member : Name × Node} (h : member.2.NulFree) (depth : Nat) :
    (nested depth member).2.NulFree := by
  induction depth with
  | zero => exact h
  | succ depth ih => exact .directory _ (List.forall_mem_singleton.2 ih)

/-- A plugin too deep for a path to spell the way to it, and two links that lead there together. -/
def deepMembers : List (Name × Node) :=
  [((Path.ofString "l").bytes,
      .link (.ofPieces ([115] :: List.replicate 10 longName ++ [(Path.ofString "p").bytes]))),
    ([115], .link (.ofPieces (List.replicate 10 longName))),
    nested 20 smallPluginWithModule]

/-- **A library need not be canonical.**  A module is found through links whose targets and own paths are
short, while the canonical path of its source directory is too long to be had; its library is spelled with
the link. -/
theorem lookUp_not_canonical :
    (linkedPlaces deepMembers).files.Genuine ∧
    PlainName (Utf8.encode "lua".toList) ∧
    .name (Utf8.encode "lua".toList) ∉ (Path.ofString "/l").components ∧
    (empty.lookUp (linkedPlaces deepMembers) "m").2 =
      .found (.ofString "/l/lua/m.lua") (.ofString "/l/lua") ∧
    (linkedPlaces deepMembers).files.canonical ((Path.ofString "/l").joinText "lua") =
      .error .nameTooLong := by
  refine ⟨genuine_linkedPlaces ?_, by unfold PlainName; decide +kernel, by decide +kernel,
    by decide +kernel, by decide +kernel⟩
  refine List.forall_mem_cons.2 ⟨.link _ (Path.notMem_intercalate (by decide) (by decide +kernel)), ?_⟩
  refine List.forall_mem_cons.2 ⟨.link _ (Path.notMem_intercalate (by decide) (by decide +kernel)), ?_⟩
  exact List.forall_mem_singleton.2 (nulFree_nested nulFree_smallPluginWithModule 20)

end Resolutions

end LibraryPaths

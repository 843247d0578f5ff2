import LibraryPaths.Proofs.Packages.Pruning

/-!
# Modules are looked for below source directories

The segments of a module name are the names that lead to it from a source directory: the last one with `.lua`
behind it is the file of the module, or `init.lua` lies in the directory that all of them lead to.  A name
with an empty segment does not lead down in this way, and such a name is not looked for.

* `relativePath_eq`: the segments stand between the slashes of the relative path of a name;
* `isSearchable_iff_descends`: which names lead down from a source directory;
* `search_eq_some_iff`: the first existing file is found;
* `lookUp_descends`: what a lookup tries, and what it finds.
-/

set_option autoImplicit false

namespace LibraryPaths

/-! ## Segments between slashes -/

/-- Splitting after a change of the elements. -/
theorem splitOnP_map {α β : Type} (f : α → β) (sep : β → Bool) (xs : List α) :
    (xs.map f).splitOnP sep = (xs.splitOnP (sep ∘ f)).map (List.map f) := by
  induction xs with
  | nil => rfl
  | cons x xs ih =>
    rw [List.map_cons, List.splitOnP_cons_eq_if_modifyHead, List.splitOnP_cons_eq_if_modifyHead, ih,
      Function.comp_apply]
    split
    · rfl
    · cases xs.splitOnP (sep ∘ f) <;> rfl

theorem Utf8.encode_intercalate (texts : List (List Char)) :
    encode (['/'].intercalate texts) = [slash].intercalate (texts.map encode) := by
  induction texts with
  | nil => rfl
  | cons text texts ih =>
    cases texts with
    | nil => simp
    | cons next texts =>
      rw [List.intercalate_cons_cons, encode_append, encode_append, ih, List.map_cons, List.map_cons,
        List.map_cons, List.intercalate_cons_cons]
      rfl

/-- A longer text than `..` is a plain name, unless a slash is in it. -/
theorem plainName_of_length {n : Name} (hslash : slash ∉ n) (h : 2 < n.length) : PlainName n :=
  ⟨fun hn => by simp [hn] at h, fun hn => by simp [hn] at h, fun hn => by simp [hn] at h, hslash⟩

namespace ModuleName

variable {name : String}

/-- The segments of a name as names of files and directories. -/
def names (name : String) : List Name := (segments name).map Utf8.encode

/-- The names that lead to the file of a module: its segments, with `.lua` behind the last one. -/
def fileNames (name : String) : List Name :=
  (names name).dropLast ++ (names name).getLast?.toList.map (· ++ Utf8.encode ".lua".toList)

/-- The names that lead to the file of a module that is a directory: its segments and `init.lua`. -/
def directoryNames (name : String) : List Name := names name ++ [Utf8.encode "init.lua".toList]

/-- **The segments stand between the slashes** of the relative path of a name. -/
theorem relativePath_eq (name : String) : Path.ofChars (relativePath name) = .ofPieces (names name) := by
  have hsegments : (relativePath name).splitOn '/' = segments name := by
    have hsep : ((· == '/') ∘ fun c => if c == '.' then '/' else c) = isSeparator := by
      funext c
      unfold isSeparator
      by_cases hc : c = '.' <;> simp [hc]
    unfold relativePath
    rw [List.splitOn_eq_splitOnP, splitOnP_map, hsep]
    refine (List.map_congr_left fun segment hsegment => ?_).trans (List.map_id _)
    refine (List.map_congr_left fun c hc => ?_).trans (List.map_id _)
    have hnot := not_sep_of_mem_splitOnP hsegment hc
    rw [isSeparator, Bool.or_eq_false_iff] at hnot
    rw [hnot.1]
    rfl
  unfold Path.ofChars Path.ofPieces names
  rw [← Utf8.encode_intercalate, ← hsegments, List.intercalate_splitOn]

theorem names_ne_nil (name : String) : names name ≠ [] := by
  unfold names
  rw [Ne, List.map_eq_nil_iff]
  exact List.splitOnP_ne_nil _ _

/-- The segments of a name that is looked for are plain names, and of no other. -/
theorem isSearchable_iff : isSearchable name = true ↔ ∀ n ∈ names name, PlainName n := by
  unfold isSearchable names
  rw [List.all_eq_true, List.forall_mem_map]
  refine forall₂_congr fun segment hsegment => ?_
  constructor
  · intro hne
    exact plainName_encode (by simpa using hne) fun c hc => not_sep_of_mem_splitOnP hsegment hc
  · rintro ⟨hne, -⟩
    cases segment with
    | nil => exact absurd rfl hne
    | cons c segment => rfl

theorem exists_fileNames (name : String) : ∃ front last, names name = front ++ [last] ∧
    fileNames name = front ++ [last ++ Utf8.encode ".lua".toList] := by
  obtain ⟨front, last, hlast⟩ := (List.eq_nil_or_concat (names name)).resolve_left (names_ne_nil name)
  rw [List.concat_eq_append] at hlast
  refine ⟨front, last, hlast, ?_⟩
  rw [fileNames, hlast, List.dropLast_concat, List.getLast?_concat]
  rfl

theorem fileNames_ne_nil (name : String) : fileNames name ≠ [] := by
  obtain ⟨front, last, -, hfile⟩ := exists_fileNames name
  simp [hfile]

theorem plainName_fileNames (h : isSearchable name = true) : ∀ n ∈ fileNames name, PlainName n := by
  have hnames := isSearchable_iff.1 h
  obtain ⟨front, last, hlast, hfile⟩ := exists_fileNames name
  rw [hlast, List.forall_mem_append, List.forall_mem_singleton] at hnames
  rw [hfile, List.forall_mem_append, List.forall_mem_singleton]
  obtain ⟨hfront, hnil, -, -, hslash⟩ := hnames
  refine ⟨hfront, plainName_of_length ?_ ?_⟩
  · rw [List.mem_append, not_or]
    exact ⟨hslash, by decide⟩
  · have hpos := List.length_pos_iff.2 hnil
    have hlength : (Utf8.encode ".lua".toList).length = 4 := by decide
    rw [List.length_append, hlength]
    omega

theorem plainName_directoryNames (h : isSearchable name = true) :
    ∀ n ∈ directoryNames name, PlainName n := by
  unfold directoryNames
  rw [List.forall_mem_append, List.forall_mem_singleton]
  exact ⟨isSearchable_iff.1 h, plainName_of_length (by decide) (by decide)⟩

end ModuleName

/-! ## Probes -/

/-- A path goes down from a directory by ordinary names: it is spelled by them behind the path of the
directory, and they are the components that it has more. -/
structure Path.Descends (source : Path) (names : List Name) (p : Path) : Prop where
  spelled : p = source.join (.ofPieces names)
  plain : ∀ n ∈ names, PlainName n
  components : p.components = source.components ++ names.map .name

theorem Path.descends_join {source : Path} {names : List Name} (hne : names ≠ [])
    (h : ∀ n ∈ names, PlainName n) : source.Descends names (source.join (.ofPieces names)) :=
  ⟨rfl, h, components_join_names source hne h⟩

namespace Places

variable {fs : FileSystem} {sourceDir name : String} {plugins : List Path} {plugin file : Path}

/-- The first file tried below a source directory. -/
theorem join_fileNames (source : Path) (name : String) :
    source.join (.ofChars (ModuleName.relativePath name ++ ".lua".toList)) =
      source.join (.ofPieces (ModuleName.fileNames name)) := by
  obtain ⟨front, last, hlast, hfile⟩ := ModuleName.exists_fileNames name
  have hrelative : Path.ofChars (ModuleName.relativePath name ++ ".lua".toList) =
      ⟨(Path.ofPieces (ModuleName.names name)).bytes ++ Utf8.encode ".lua".toList⟩ := by
    rw [← ModuleName.relativePath_eq]
    exact congrArg Path.mk (Utf8.encode_append _ _)
  rw [hrelative, hfile, hlast, Path.ofPieces_concat_append]

/-- The second file tried below a source directory, for a name that is looked for. -/
theorem join_directoryNames (h : ModuleName.isSearchable name = true) (source : Path) :
    (source.join (.ofChars (ModuleName.relativePath name))).joinText "init.lua" =
      source.join (.ofPieces (ModuleName.directoryNames name)) := by
  have hne := ModuleName.names_ne_nil name
  have hnames := ModuleName.isSearchable_iff.1 h
  have hrelative := Path.isAbsolute_ofPieces fun n hn => Path.solid_of_plainName (hnames n hn)
  have hdirectory := fun n hn =>
    Path.solid_of_plainName (ModuleName.plainName_directoryNames h n hn)
  have hpieces := Path.pieces_ofPieces hne fun n hn => (hnames n hn).2.2.2
  have hlast : (Path.ofPieces (ModuleName.names name)).pieces.getLast? =
      some ((ModuleName.names name).getLast hne) := by
    rw [hpieces, List.getLast?_eq_some_getLast]
  have hbase := Path.base_eq
    (Path.getLast?_pieces_join source hrelative hlast)
    (hnames _ (List.getLast_mem hne)).1
  rw [ModuleName.relativePath_eq]
  unfold Path.joinText
  rw [Path.join_eq _ (q := .ofString "init.lua") (by decide), hbase,
    Path.join_eq source hrelative, Path.join_eq source (Path.isAbsolute_ofPieces hdirectory)]
  unfold ModuleName.directoryNames Path.ofPieces
  rw [Path.intercalate_append hne (by simp), List.append_assoc, List.append_assoc, List.singleton_append,
    List.intercalate_singleton]
  rfl

theorem probes_eq (h : ModuleName.isSearchable name = true) :
    probes sourceDir name plugin =
      [(plugin.joinText sourceDir).join (.ofPieces (ModuleName.fileNames name)),
        (plugin.joinText sourceDir).join (.ofPieces (ModuleName.directoryNames name))] := by
  unfold probes
  simp only [join_fileNames, join_directoryNames h]

/-- **Exactly the names that are looked for lead down from a source directory.** -/
theorem isSearchable_iff_descends :
    ModuleName.isSearchable name = true ↔
      ∃ file directory, probes sourceDir name plugin = [file, directory] ∧
        (plugin.joinText sourceDir).Descends (ModuleName.fileNames name) file ∧
        (plugin.joinText sourceDir).Descends (ModuleName.directoryNames name) directory := by
  constructor
  · intro h
    exact ⟨_, _, probes_eq h,
      Path.descends_join (ModuleName.fileNames_ne_nil name) (ModuleName.plainName_fileNames h),
      Path.descends_join (by simp [ModuleName.directoryNames]) (ModuleName.plainName_directoryNames h)⟩
  · rintro ⟨file, directory, -, -, hdirectory⟩
    exact ModuleName.isSearchable_iff.2 fun n hn => hdirectory.plain n (List.mem_append_left _ hn)

theorem find?_pair {α : Type} {p : α → Bool} {a b x : α} :
    [a, b].find? p = some x ↔ p x = true ∧ (x = a ∨ p a = false ∧ x = b) := by
  cases ha : p a with
  | true =>
    rw [List.find?_cons_of_pos ha, Option.some_inj]
    exact ⟨fun h => ⟨h ▸ ha, .inl h.symm⟩, fun h => (h.2.resolve_right (by simp)).symm⟩
  | false =>
    rw [List.find?_cons_of_neg (by simp [ha]), List.find?_singleton]
    grind

/-- **The first existing file is found.** -/
theorem search_eq_some_iff (h : ModuleName.isSearchable name = true) :
    search fs sourceDir plugins name = some file ↔
      ∃ before plugin after, plugins = before ++ plugin :: after ∧
        (∀ other ∈ before, ∀ probe ∈ probes sourceDir name other, fs.isFile probe = false) ∧
        fs.isFile file = true ∧
        (file = (plugin.joinText sourceDir).join (.ofPieces (ModuleName.fileNames name)) ∨
          fs.isFile ((plugin.joinText sourceDir).join (.ofPieces (ModuleName.fileNames name))) = false ∧
          file = (plugin.joinText sourceDir).join (.ofPieces (ModuleName.directoryNames name))) := by
  unfold search
  rw [List.find?_flatMap, List.findSome?_eq_some_iff]
  refine exists_congr fun before => exists_congr fun plugin => exists_congr fun after =>
    and_congr_right fun _ => ?_
  rw [and_comm]
  refine and_congr ?_ ?_
  · simp only [List.find?_eq_none, Bool.not_eq_true]
  · rw [probes_eq h, find?_pair]

theorem search_eq_none_iff : search fs sourceDir plugins name = none ↔
    ∀ plugin ∈ plugins, ∀ probe ∈ probes sourceDir name plugin, fs.isFile probe = false := by
  unfold search
  simp only [List.find?_flatMap_eq_none_iff, Bool.not_eq_true']

theorem file?_answer (places : Places) (name : String) : (places.answer name).file? = places.file? name := by
  unfold answer
  cases places.file? name <;> rfl

end Places

namespace Resolutions

/-- **A search stays below the source directories.**  Below the source directory of a plugin two files are
tried, and both lie down from it by ordinary names: the segments of the module with `.lua` behind the last
one, or the segments and then `init.lua`.  That holds of every plugin, source directory and name whose
segments are all non-empty, and of no other name; another name is missing at once, without asking the host or
searching anything.  A search finds the first file there is, in the order of the plugins, `.lua` before
`init.lua`; it finds nothing only if none of the files tried exists.  A module that the host has not loaded
is found by a search of the candidates, or not at all. -/
theorem lookUp_descends (places : Places) (resolutions : Resolutions) (name : String) :
    (∀ plugin, ModuleName.isSearchable name = true ↔
      ∃ file directory, Places.probes places.sourceDir name plugin = [file, directory] ∧
        (plugin.joinText places.sourceDir).Descends (ModuleName.fileNames name) file ∧
        (plugin.joinText places.sourceDir).Descends (ModuleName.directoryNames name) directory) ∧
    (ModuleName.isSearchable name = false →
      resolutions.lookUp places name =
        ({ resolutions with known := resolutions.known ++ [(name, .missing)] }, .missing)) ∧
    (ModuleName.isSearchable name = true → ∀ plugins,
      (∀ file, Places.search places.files places.sourceDir plugins name = some file ↔
        ∃ before plugin after, plugins = before ++ plugin :: after ∧
          (∀ other ∈ before, ∀ probe ∈ Places.probes places.sourceDir name other,
            places.files.isFile probe = false) ∧
          places.files.isFile file = true ∧
          (file = (plugin.joinText places.sourceDir).join (.ofPieces (ModuleName.fileNames name)) ∨
            places.files.isFile
              ((plugin.joinText places.sourceDir).join (.ofPieces (ModuleName.fileNames name))) = false ∧
            file = (plugin.joinText places.sourceDir).join
              (.ofPieces (ModuleName.directoryNames name)))) ∧
      (Places.search places.files places.sourceDir plugins name = none ↔
        ∀ plugin ∈ plugins, ∀ probe ∈ Places.probes places.sourceDir name plugin,
          places.files.isFile probe = false)) ∧
    (ModuleName.isSearchable name = true → places.loaded.lookup name = none →
      (resolutions.lookUp places name).2.file? =
        Places.search places.files places.sourceDir
          (places.packages.candidates places.files places.sourceDir name) name) := by
  refine ⟨fun plugin => Places.isSearchable_iff_descends, ?_,
    fun h plugins => ⟨fun file => Places.search_eq_some_iff h, Places.search_eq_none_iff⟩, ?_⟩
  · intro h
    unfold lookUp
    rw [h]
    rfl
  · intro h hloaded
    rw [lookUp_eq]
    refine (places.file?_answer name).trans ?_
    unfold Places.file?
    rw [if_pos h, hloaded]

/-- A name with both separators leads down by its segments; one that climbs above the plugin is missing, and
neither asked for nor searched. -/
theorem lookUp_descends_small :
    (∃ file directory, Places.probes "lua" "a/b.c" (.ofString "/p") = [file, directory] ∧
      (Path.ofString "/p/lua").Descends [[97], [98], (Path.ofString "c.lua").bytes] file ∧
      (Path.ofString "/p/lua").Descends [[97], [98], [99], (Path.ofString "init.lua").bytes] directory) ∧
    empty.lookUp (smallRoot smallMembers) "../m" = (⟨[("../m", .missing)], [], []⟩, .missing) ∧
    Places.search ⟨smallMembers, []⟩ "lua" [.ofString "/c", .ofString "/b", .ofString "/a"] "m" =
      some (.ofString "/b/lua/m.lua") := by
  obtain ⟨hdescends, -, -, -⟩ := lookUp_descends (smallRoot smallMembers) empty "a/b.c"
  obtain ⟨-, hmissing, -, -⟩ := lookUp_descends (smallRoot smallMembers) empty "../m"
  obtain ⟨-, -, hsearch, -⟩ := lookUp_descends (smallRoot smallMembers) empty "m"
  refine ⟨(hdescends (.ofString "/p")).1 (by decide +kernel), hmissing (by decide +kernel), ?_⟩
  refine ((hsearch (by decide +kernel) _).1 _).2 ⟨[.ofString "/c"], .ofString "/b", [.ofString "/a"], rfl, ?_⟩
  decide +kernel

end Resolutions

end LibraryPaths
